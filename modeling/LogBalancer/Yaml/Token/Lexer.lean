/-
# Cutting a text into tokens

`Token.ofText` reads the tokens of a text up to its end or to the first fault.

Two things about a token can be known only later.  A scalar, an alias or a collection in
brackets may turn out to be a key when a colon follows on the same line within 1024 characters;
until then it is a *candidate*, and the key token is put in before it when the colon comes.
And a block collection ends where a later line starts further left; the lexer keeps the columns
of the open ones and closes those that are too deep.
-/

import LogBalancer.Yaml.Token.Scalar

namespace LogBalancer
namespace Yaml

/-- A token that may be the start of a key. -/
structure Candidate where
  /-- The number of tokens before it. -/
  position : Nat
  /-- Whether it can be nothing but a key. -/
  needed : Bool
  index : Nat
  line : Nat
  column : Nat

/-- The state between two tokens. -/
structure Lexer where
  cursor : Cursor
  /-- The tokens so far, the last one first. -/
  done : List Token := []
  count : Nat := 0
  /-- The column of the innermost block collection; -1 outside of all. -/
  indent : Int := -1
  /-- The columns of the collections around it. -/
  outer : List Int := []
  /-- The number of open brackets. -/
  depth : Nat := 0
  /-- Whether a key can start here without an indicator. -/
  keyAllowed : Bool := true
  /-- The candidate at each depth that has one. -/
  candidates : List (Nat × Candidate) := []

namespace Lexer

/-- Whether the lexer is inside brackets. -/
def inFlow (l : Lexer) : Bool := l.depth != 0

/-- Adds a token. -/
def push (l : Lexer) (t : Token) : Lexer := { l with done := t :: l.done, count := l.count + 1 }

/-- Puts a token in so that `position` tokens stand before it. -/
def insertAt (l : Lexer) (position : Nat) (t : Token) : Lexer :=
  let later := l.count - position
  { l with done := l.done.take later ++ t :: l.done.drop later, count := l.count + 1 }

/-- Drops the candidates that a colon can no longer reach. -/
def dropStale (l : Lexer) : Except Fault Lexer := do
  let isLive (k : Candidate) : Bool :=
    k.line == l.cursor.line && l.cursor.index - k.index ≤ 1024
  demand .simpleKeys (l.candidates.all fun (_, k) => isLive k || !k.needed)
  return { l with candidates := l.candidates.filter fun (_, k) => isLive k }

/-- Gives up the candidate at the current depth. -/
def dropCandidate (l : Lexer) : Except Fault Lexer := do
  demand .simpleKeys (l.candidates.all fun (d, k) => d != l.depth || !k.needed)
  return { l with candidates := l.candidates.filter fun (d, _) => d != l.depth }

/-- Makes the next token a candidate, if a key can start here. -/
def saveCandidate (l : Lexer) : Except Fault Lexer := do
  if l.keyAllowed then
    let needed := !l.inFlow && l.indent == (l.cursor.column : Int)
    let l ← l.dropCandidate
    let c := l.cursor
    return { l with candidates := (l.depth, ⟨l.count, needed, c.index, c.line, c.column⟩) ::
                      l.candidates }
  else return l

/-- Closes the block collections that are deeper than a column. -/
def closeTo (column : Int) : List Int → Lexer → Lexer
  | [], l => l
  | parent :: outer, l =>
    if column < l.indent then
      closeTo column outer { l.push .blockEnd with indent := parent, outer := outer }
    else l

/-- Closes the block collections that are deeper than a column; inside brackets columns do not
count. -/
def unwind (l : Lexer) (column : Int) : Lexer :=
  if l.inFlow then l else closeTo column l.outer l

/-- Opens a block collection at a column that is deeper than the current one; tells whether it
did. -/
def deepen (l : Lexer) (column : Nat) : Lexer × Bool :=
  if l.indent < (column : Int) then
    ({ l with indent := column, outer := l.indent :: l.outer }, true)
  else (l, false)

/-- Opens a block collection with a start token if the place is deeper than the current one. -/
def openBlock (l : Lexer) (start : Token) : Lexer :=
  let (l, opened) := l.deepen l.cursor.column
  if opened then l.push start else l

/-- Adds a token and moves over the characters of its indicator. -/
def pushOver (l : Lexer) (t : Token) (size : Nat) : Lexer :=
  { l.push t with cursor := l.cursor.advanceBy size }

/-- The state after spaces, comments and line ends. -/
def skipLayout : Nat → Lexer → Lexer
  | 0, l => l
  | fuel + 1, l =>
    let c := l.cursor.skipSpaces
    let c := if c.peek == some '#' then c.toLineEnd else c
    match c.lineBreak? with
    | some (_, c) => skipLayout fuel { l with cursor := c, keyAllowed := l.keyAllowed || !l.inFlow }
    | none => { l with cursor := c }

/-- The state at the next token: layout skipped and collections closed. -/
def settle (l : Lexer) : Except Fault Lexer := do
  let c := l.cursor
  let c := if c.index == 0 && c.peek == some '\ufeff' then c.advance else c
  let l := skipLayout (c.rest.length + 1) { l with cursor := c }
  let l ← l.dropStale
  return l.unwind l.cursor.column

/-- Ends all open collections and keys, as the marks of a document do. -/
def reset (l : Lexer) : Except Fault Lexer := do
  let l ← (l.unwind (-1)).dropCandidate
  return { l with keyAllowed := false }

/-- Adds a token that describes a node and may start a key. -/
def pushNode (l : Lexer) (scan : Cursor → Except Fault (Token × Cursor)) : Except Fault Lexer := do
  let l ← l.saveCandidate
  let (t, c) ← scan l.cursor
  return { l.push t with cursor := c, keyAllowed := false }

/-- Opens a bracket. -/
def openFlow (l : Lexer) (t : Token) : Except Fault Lexer := do
  let l ← l.saveCandidate
  return { l.pushOver t 1 with depth := l.depth + 1, keyAllowed := true }

/-- Closes a bracket; one must be open. -/
def closeFlow (l : Lexer) (t : Token) : Except Fault Lexer := do
  let l ← l.dropCandidate
  demand .nesting l.inFlow
  return { l.pushOver t 1 with depth := l.depth - 1, keyAllowed := false }

/-- Adds the mark of a list entry. -/
def pushEntry (l : Lexer) : Except Fault Lexer := do
  demand .positions (l.inFlow || l.keyAllowed)
  let l := if l.inFlow then l else l.openBlock .blockSequenceStart
  let l ← ({ l with keyAllowed := true } : Lexer).dropCandidate
  return l.pushOver .blockEntry 1

/-- Adds the mark of an explicit key. -/
def pushKey (l : Lexer) : Except Fault Lexer := do
  demand .positions (l.inFlow || l.keyAllowed)
  let l := if l.inFlow then l else l.openBlock .blockMappingStart
  let l ← ({ l with keyAllowed := !l.inFlow } : Lexer).dropCandidate
  return l.pushOver .key 1

/-- Adds the mark of a value.  If there is a candidate, it is the key. -/
def pushValue (l : Lexer) : Except Fault Lexer := do
  match l.candidates.lookup l.depth with
  | some k =>
    let l := { l with candidates := l.candidates.filter fun (d, _) => d != l.depth }
    let l := l.insertAt k.position .key
    let l :=
      if l.inFlow then l
      else
        let (l, opened) := l.deepen k.column
        if opened then l.insertAt k.position .blockMappingStart else l
    return { l.pushOver .value 1 with keyAllowed := false }
  | none =>
    demand .positions (l.inFlow || l.keyAllowed)
    let l := if l.inFlow then l else l.openBlock .blockMappingStart
    let l ← ({ l with keyAllowed := !l.inFlow } : Lexer).dropCandidate
    return l.pushOver .value 1

/-- Adds a block scalar. -/
def pushBlockScalar (l : Lexer) : Except Fault Lexer := do
  let l ← ({ l with keyAllowed := true } : Lexer).dropCandidate
  let (t, c) ← scanBlockScalar l.indent l.cursor
  return { l.push t with cursor := c }

/-- Adds a plain scalar.  A key can start after it if it ended at the start of a line. -/
def pushPlain (l : Lexer) : Except Fault Lexer := do
  let l ← l.saveCandidate
  let (p, c) := scanPlain l.inFlow l.indent l.cursor
  return { l.push (.scalar (String.ofList p.text) true) with
           cursor := c, keyAllowed := p.atLineStart }

/-- Adds the token that starts with the character `ch` at the cursor. -/
def pushToken (l : Lexer) (ch : Char) : Except Fault Lexer :=
  let c := l.cursor
  let gapAfter := isGap (c.peekAt 1)
  if ch == '%' && c.column == 0 then do
    let l ← l.reset
    let (t, c) ← scanDirective l.cursor
    return { l.push t with cursor := c }
  else if c.column == 0 && c.isRule '-' then do
    return (← l.reset).pushOver .documentStart 3
  else if c.column == 0 && c.isRule '.' then do
    return (← l.reset).pushOver .documentEnd 3
  else if ch == '[' then l.openFlow .flowSequenceStart
  else if ch == '\x7b' then l.openFlow .flowMappingStart
  else if ch == ']' then l.closeFlow .flowSequenceEnd
  else if ch == '\x7d' then l.closeFlow .flowMappingEnd
  else if ch == ',' then do
    return (← ({ l with keyAllowed := true } : Lexer).dropCandidate).pushOver .flowEntry 1
  else if ch == '-' && gapAfter then l.pushEntry
  else if ch == '?' && (l.inFlow || gapAfter) then l.pushKey
  else if ch == ':' && (l.inFlow || gapAfter) then l.pushValue
  else if ch == '*' then l.pushNode fun c => do
    let (name, c) ← scanAnchorName c
    return (.reference name, c)
  else if ch == '&' then l.pushNode fun c => do
    let (name, c) ← scanAnchorName c
    return (.anchor name, c)
  else if ch == '!' then l.pushNode scanTag
  else if (ch == '|' || ch == '>') && !l.inFlow then l.pushBlockScalar
  else if ch == '\'' || ch == '"' then l.pushNode scanQuoted
  else if startsPlain l.inFlow c then l.pushPlain
  else .error (.malformed .tokens)

/-- The tokens from a state on, with the fault that stops the reading if there is one. -/
def run : Nat → Lexer → List Token × Option Fault
  | 0, l => (l.done.reverse, some (.malformed .tokens))
  | fuel + 1, l =>
    match l.settle with
    | .error f => (l.done.reverse, some f)
    | .ok l =>
      match l.cursor.peek with
      | none =>
        match l.reset with
        | .ok l => ((l.push .streamEnd).done.reverse, none)
        | .error f => (l.done.reverse, some f)
      | some ch =>
        match l.pushToken ch with
        | .ok l => run fuel l
        | .error f => (l.done.reverse, some f)

end Lexer

/-- The tokens of a text, up to its end or to the first fault. -/
def Token.ofText (s : List Char) : List Token × Option Fault :=
  Lexer.run (s.length + 2) { cursor := ⟨s, 0, 0, 0⟩ }

end Yaml
end LogBalancer
