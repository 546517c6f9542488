/-
# Positions in a YAML text

The classes of characters by which a text is cut into tokens, and a cursor: what is left of the
text with the index, the line and the column of its first character.  Where the text ends, the
cursor looks at no character, and that counts as the end of a line.
-/

namespace LogBalancer
namespace Yaml

/-- The characters that a text may hold. -/
def isAllowed (c : Char) : Bool :=
  let n := c.toNat
  n == 0x09 || n == 0x0A || n == 0x0D || (0x20 ≤ n && n ≤ 0x7E) || n == 0x85 ||
    (0xA0 ≤ n && n ≤ 0xD7FF) || (0xE000 ≤ n && n ≤ 0xFFFD) || 0x10000 ≤ n

/-- The characters that end a line. -/
def isBreak (c : Char) : Bool :=
  c == '\r' || c == '\n' || c == '\x85' || c == '\u2028' || c == '\u2029'

/-- The end of a line or of the text. -/
def endsLine : Option Char → Bool
  | none => true
  | some c => isBreak c

/-- A space, or the end of a line or of the text. -/
def endsWord : Option Char → Bool
  | none => true
  | some c => c == ' ' || isBreak c

/-- A space or a tab, or the end of a line or of the text. -/
def isGap : Option Char → Bool
  | none => true
  | some c => c == ' ' || c == '\t' || isBreak c

/-- The characters of names: letters, digits, hyphen and underscore. -/
def isNameChar (c : Char) : Bool :=
  ('0' ≤ c && c ≤ '9') || ('A' ≤ c && c ≤ 'Z') || ('a' ≤ c && c ≤ 'z') || c == '-' || c == '_'

/-- A place in a text. -/
structure Cursor where
  rest : List Char
  index : Nat := 0
  line : Nat := 0
  column : Nat := 0

namespace Cursor

/-- The character at the cursor. -/
def peek (c : Cursor) : Option Char := c.rest.head?

/-- The character `n` places after the cursor. -/
def peekAt (c : Cursor) (n : Nat) : Option Char := c.rest[n]?

/-- Moves over one character.  A line feed after a carriage return ends the same line, and the
byte order mark has no width. -/
def advance (c : Cursor) : Cursor :=
  match c.rest with
  | [] => c
  | ch :: rest =>
    if isBreak ch && !(ch == '\r' && rest.head? == some '\n') then
      ⟨rest, c.index + 1, c.line + 1, 0⟩
    else if ch == '\ufeff' then ⟨rest, c.index + 1, c.line, c.column⟩
    else ⟨rest, c.index + 1, c.line, c.column + 1⟩

/-- Moves over `n` characters. -/
def advanceBy (c : Cursor) : Nat → Cursor
  | 0 => c
  | n + 1 => c.advance.advanceBy n

/-- The characters of a class from the cursor on, and the place after them. -/
def span (c : Cursor) (p : Char → Bool) : List Char × Cursor :=
  let taken := c.rest.takeWhile p
  (taken, c.advanceBy taken.length)

/-- The place after the characters of a class. -/
def skip (c : Cursor) (p : Char → Bool) : Cursor := (c.span p).2

/-- The place after the spaces. -/
def skipSpaces (c : Cursor) : Cursor := c.skip (· == ' ')

/-- The end of the line. -/
def toLineEnd (c : Cursor) : Cursor := c.skip fun ch => !isBreak ch

/-- What a line end at the cursor stands for, and the place after it. -/
def lineBreak? (c : Cursor) : Option (Char × Cursor) :=
  match c.rest with
  | '\r' :: '\n' :: _ => some ('\n', c.advanceBy 2)
  | ch :: _ =>
    if ch == '\u2028' || ch == '\u2029' then some (ch, c.advance)
    else if isBreak ch then some ('\n', c.advance)
    else none
  | [] => none

/-- Whether three equal characters stand at the cursor with a gap after them. -/
def isRule (c : Cursor) (ch : Char) : Bool :=
  c.rest.take 3 == [ch, ch, ch] && isGap (c.peekAt 3)

/-- Whether a document starts or ends at the cursor. -/
def isDocumentMark (c : Cursor) : Bool := c.isRule '-' || c.isRule '.'

end Cursor
end Yaml
end LogBalancer
