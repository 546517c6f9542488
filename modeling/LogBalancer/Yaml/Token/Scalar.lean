/-
# Scalars

How the three kinds of scalar are read: block scalars under a header, quoted scalars and plain
ones.  Each function starts at the first character of the scalar and gives its text with the
place after it.

Lines are folded alike in quoted and plain scalars: a single line feed becomes a space, and of
several the first is dropped.

A quoted scalar can hold the escape of a surrogate, alone or in a pair.  No text has a character for it
here: it is read as NUL, where a reader whose texts are made of code points keeps it.  So what is proved
of the names and texts of a team file is proved of those made of Unicode scalar values.  Whether a text
can be read at all does not depend on it.
-/

import LogBalancer.Yaml.Token.Property

namespace LogBalancer
namespace Yaml

/-- What a line end and the empty lines after it leave in a folded scalar. -/
def foldBreaks (first : Char) (further : List Char) : List Char :=
  (if first != '\n' then [first] else if further.isEmpty then [' '] else []) ++ further

/-! ### Block scalars -/

/-- What becomes of the line ends after the last line of a block scalar. -/
inductive Chomping
  | strip
  | clip
  | keep
  deriving DecidableEq, Repr

/-- The chomping that a sign asks for. -/
def chomping? (c : Option Char) : Option Chomping :=
  match c with
  | some '+' => some .keep
  | some '-' => some .strip
  | _ => none

/-- Reads a digit of a block header, which is not zero. -/
def scanIncrement (c : Cursor) : Except Fault (Option Nat × Cursor) :=
  match c.peek with
  | some ch =>
    if Decimal.isDigit ch then do
      demand .blockScalars (ch != '0')
      return (some (ch.toNat - 48), c.advance)
    else .ok (none, c)
  | none => .ok (none, c)

/-- Reads a block header: a sign and a digit in either order. -/
def scanBlockHeader (c : Cursor) : Except Fault ((Chomping × Option Nat) × Cursor) := do
  let (header, c) ←
    match chomping? c.peek with
    | some chomping => do
      let (increment, c) ← scanIncrement c.advance
      pure ((chomping, increment), c)
    | none => do
      let (increment, c) ← scanIncrement c
      match increment, chomping? c.peek with
      | some _, some chomping => pure ((chomping, increment), c.advance)
      | _, _ => pure ((Chomping.clip, increment), c)
  demand .blockScalars (endsWord c.peek)
  return (header, c)

/-- The place after the spaces before a column. -/
def skipIndent (column : Nat) (c : Cursor) : Cursor :=
  c.advanceBy (min (c.rest.takeWhile (· == ' ')).length (column - c.column))

/-- The empty lines from a place on, when the content starts at a column. -/
def scanEmptyLines (column : Nat) : Nat → Cursor → List Char × Cursor
  | 0, c => ([], c)
  | fuel + 1, c =>
    let c := skipIndent column c
    match c.lineBreak? with
    | some (ch, c) =>
      let (breaks, c) := scanEmptyLines column fuel c
      (ch :: breaks, c)
    | none => ([], c)

/-- The empty lines from a place on, with the deepest column that the spaces in them reach. -/
def scanLeadingLines (deepest : Nat) : Nat → Cursor → (List Char × Nat) × Cursor
  | 0, c => (([], deepest), c)
  | fuel + 1, c =>
    let c := c.skipSpaces
    let deepest := max deepest c.column
    match c.lineBreak? with
    | some (ch, c) =>
      let ((breaks, deepest), c) := scanLeadingLines deepest fuel c
      ((ch :: breaks, deepest), c)
    | none => (([], deepest), c)

/-- Whether a character is a space or a tab. -/
def isSpacing (c : Option Char) : Bool := c == some ' ' || c == some '\t'

/-- The lines of a block scalar whose content starts at a column, after the empty lines
`breaks`. -/
def scanBlockLines (folded : Bool) (chomping : Chomping) (column : Nat) (breaks : List Char) :
    Nat → Cursor → List Char × Cursor
  | 0, c => ([], c)
  | fuel + 1, c =>
    if c.column = column && c.peek.isSome then
      let startsDark := !isSpacing c.peek
      let (line, c) := c.span fun ch => !isBreak ch
      let (ending, c) := match c.lineBreak? with
        | some (ch, c) => ([ch], c)
        | none => ([], c)
      let (further, c) := scanEmptyLines column (c.rest.length + 1) c
      let (tail, after) :=
        if c.column = column && c.peek.isSome then
          let joint :=
            if folded && ending == ['\n'] && startsDark && !isSpacing c.peek then
              if further.isEmpty then [' '] else []
            else ending
          let (more, after) := scanBlockLines folded chomping column further fuel c
          (joint ++ more, after)
        else
          match chomping with
          | .strip => ([], c)
          | .clip => (ending, c)
          | .keep => (ending ++ further, c)
      (breaks ++ line ++ tail, after)
    else
      match chomping with
      | .keep => (breaks, c)
      | _ => ([], c)

/-- Reads a block scalar below the column `indent`, which is negative at the top. -/
def scanBlockScalar (indent : Int) (c : Cursor) : Except Fault (Token × Cursor) := do
  let folded := c.peek == some '>'
  let ((chomping, increment), c) ← scanBlockHeader c.advance
  let c ← scanLineRest .blockScalars c
  let least := max 1 (indent + 1).toNat
  let (column, breaks, c) :=
    match increment with
    | none =>
      let ((breaks, deepest), c) := scanLeadingLines 0 (c.rest.length + 1) c
      (max least deepest, breaks, c)
    | some n =>
      let column := least + n - 1
      let (breaks, c) := scanEmptyLines column (c.rest.length + 1) c
      (column, breaks, c)
  let (text, c) := scanBlockLines folded chomping column breaks (c.rest.length + 1) c
  return (.scalar (String.ofList text) false, c)

/-! ### Quoted scalars -/

/-- The character of an escape of one letter. -/
def simpleEscape? (c : Char) : Option Char :=
  match c with
  | '0' => some '\x00'
  | 'a' => some '\x07'
  | 'b' => some '\x08'
  | 't' => some '\t'
  | '\t' => some '\t'
  | 'n' => some '\n'
  | 'v' => some '\x0b'
  | 'f' => some '\x0c'
  | 'r' => some '\r'
  | 'e' => some '\x1b'
  | ' ' => some ' '
  | '"' => some '"'
  | '\\' => some '\\'
  | '/' => some '/'
  | 'N' => some '\x85'
  | '_' => some '\xa0'
  | 'L' => some '\u2028'
  | 'P' => some '\u2029'
  | _ => none

/-- The number of digits of an escape by code point. -/
def escapeSize? (c : Char) : Option Nat :=
  match c with
  | 'x' => some 2
  | 'u' => some 4
  | 'U' => some 8
  | _ => none

/-- The character of a number that is a code point, with NUL for a surrogate. -/
def charOf (n : Nat) : Except Fault Char :=
  if n < 0x110000 then .ok (Char.ofNat n) else .error (.misfit (.codePoint n))

/-- The empty lines inside a quoted scalar and the spacing of the next line.  No document starts or
ends inside a scalar. -/
def scanQuotedBreaks : Nat → Cursor → Except Fault (List Char × Cursor)
  | 0, c => .ok ([], c)
  | fuel + 1, c => do
    demand .quotedScalars !c.isDocumentMark
    let c := c.skip fun ch => ch == ' ' || ch == '\t'
    match c.lineBreak? with
    | some (ch, c) =>
      let (breaks, c) ← scanQuotedBreaks fuel c
      return (ch :: breaks, c)
    | none => return ([], c)

/-- Reads what a backslash introduces, from the character after it. -/
def scanEscape (c : Cursor) : Except Fault (List Char × Cursor) :=
  match c.peek with
  | none => .error (.malformed .quotedScalars)
  | some ch =>
    match simpleEscape? ch, escapeSize? ch with
    | some r, _ => .ok ([r], c.advance)
    | none, some size => do
      let (n, c) ← scanHex .quotedScalars size c.advance
      let r ← charOf n
      return ([r], c)
    | none, none =>
      match c.lineBreak? with
      | some (_, c) => scanQuotedBreaks (c.rest.length + 1) c
      | none => .error (.malformed .quotedScalars)

/-- Reads the spacing inside a quoted scalar: as it is within a line, folded at a line end. -/
def scanQuotedSpacing (c : Cursor) : Except Fault (List Char × Cursor) := do
  let (spacing, c) := c.span fun ch => ch == ' ' || ch == '\t'
  demand .quotedScalars c.peek.isSome
  match c.lineBreak? with
  | some (first, c) =>
    let (further, c) ← scanQuotedBreaks (c.rest.length + 1) c
    return (foldBreaks first further, c)
  | none => return (spacing, c)

/-- Reads the content of a quoted scalar up to its closing mark. -/
def scanQuotedContent (double : Bool) : Nat → Cursor → Except Fault (List Char × Cursor)
  | 0, _ => .error (.malformed .quotedScalars)
  | fuel + 1, c =>
    let mark := if double then '"' else '\''
    match c.peek with
    | none => .error (.malformed .quotedScalars)
    | some ch => do
      if ch == mark && !(!double && c.peekAt 1 == some '\'') then return ([], c.advance)
      let (part, c) ←
        if ch == mark then pure ([ch], c.advanceBy 2)
        else if double && ch == '\\' then scanEscape c.advance
        else if ch == ' ' || ch == '\t' || isBreak ch then scanQuotedSpacing c
        else pure ([ch], c.advance)
      let (rest, c) ← scanQuotedContent double fuel c
      return (part ++ rest, c)

/-- Reads a quoted scalar. -/
def scanQuoted (c : Cursor) : Except Fault (Token × Cursor) := do
  let (text, c) ← scanQuotedContent (c.peek == some '"') (c.rest.length + 1) c.advance
  return (.scalar (String.ofList text) false, c)

/-! ### Plain scalars -/

/-- Whether a plain scalar can start at a place. -/
def startsPlain (inFlow : Bool) (c : Cursor) : Bool :=
  match c.peek with
  | none => false
  | some ch =>
    !(isGap (some ch) || "-?:,[]#&*!|>'\"%@\x60\x7b\x7d".toList.contains ch) ||
      (!isGap (c.peekAt 1) && (ch == '-' || (!inFlow && (ch == '?' || ch == ':'))))

/-- Whether a word of a plain scalar ends before a character with `next` after it. -/
def endsPlainWord (inFlow : Bool) (ch : Char) (next : Option Char) : Bool :=
  isGap (some ch) ||
    (ch == ':' && (isGap next || (inFlow && next.any fun n => ",[]\x7b\x7d".toList.contains n))) ||
    (inFlow && ",?[]\x7b\x7d".toList.contains ch)

/-- The first word of a text. -/
def plainWord (inFlow : Bool) : List Char → List Char
  | [] => []
  | ch :: s => if endsPlainWord inFlow ch s.head? then [] else ch :: plainWord inFlow s

/-- The empty lines inside a plain scalar, unless a document starts or ends there. -/
def scanPlainBreaks : Nat → Cursor → Option (List Char) × Cursor
  | 0, c => (some [], c)
  | fuel + 1, c =>
    if c.isDocumentMark then (none, c)
    else
      match c.skipSpaces.lineBreak? with
      | some (ch, c) =>
        let (breaks, c) := scanPlainBreaks fuel c
        (breaks.map (ch :: ·), c)
      | none => (some [], c.skipSpaces)

/-- What separates two words of a plain scalar: the characters it leaves in the text, none if the
scalar ends, and whether a line has ended. -/
def scanPlainSpacing (c : Cursor) : (List Char × Bool) × Cursor :=
  let (spaces, c) := c.span (· == ' ')
  match c.lineBreak? with
  | some (first, c) =>
    match scanPlainBreaks (c.rest.length + 1) c with
    | (some further, c) => ((foldBreaks first further, true), c)
    | (none, c) => (([], true), c)
  | none => ((spaces, false), c)

/-- A plain scalar: its text, and whether it ends at the start of a line, where a key can be. -/
structure Plain where
  text : List Char
  atLineStart : Bool

/-- The further words of a plain scalar, after the spacing `before`. -/
def scanPlainWords (inFlow : Bool) (indent : Int) (before : List Char) (atLineStart : Bool) :
    Nat → Cursor → Plain × Cursor
  | 0, c => (⟨[], atLineStart⟩, c)
  | fuel + 1, c =>
    let word := plainWord inFlow c.rest
    if c.peek == some '#' || word.isEmpty then (⟨[], atLineStart⟩, c)
    else
      let c := c.advanceBy word.length
      let ((spacing, newLine), c) := scanPlainSpacing c
      if spacing.isEmpty || c.peek == some '#' || (!inFlow && (c.column : Int) < indent + 1) then
        (⟨before ++ word, newLine⟩, c)
      else
        let (rest, c) := scanPlainWords inFlow indent spacing newLine fuel c
        (⟨before ++ word ++ rest.text, rest.atLineStart⟩, c)

/-- Reads a plain scalar in a collection at the column `indent`. -/
def scanPlain (inFlow : Bool) (indent : Int) (c : Cursor) : Plain × Cursor :=
  scanPlainWords inFlow indent [] false (c.rest.length + 1) c

end Yaml
end LogBalancer
