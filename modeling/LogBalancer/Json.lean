/-
# JSON documents

`Json` is the values of the format, objects keeping their members in order.  `Json.render`
writes them over lines, two spaces for each level; it writes ASCII only: a character outside
the printable ASCII range is escaped, one beyond U+FFFF as a pair of surrogates.
-/

import LogBalancer.Decimal.Numeral
import LogBalancer.Text.Quoted

namespace LogBalancer

/-- A JSON value.  Numbers are the integers. -/
inductive Json
  | null
  | flag (b : Bool)
  | number (n : Int)
  | text (s : String)
  | array (items : List Json)
  | object (members : List (String × Json))
  deriving Repr

namespace Json

/-- The four-digit escape of a number below 0x10000. -/
def escapeUnit (n : Nat) : List Char := '\\' :: 'u' :: Text.hexDigits 4 n

/-- One character inside a string. -/
def escapeChar (c : Char) : List Char :=
  if c == '"' then ['\\', '"']
  else if c == '\\' then ['\\', '\\']
  else if c == '\n' then ['\\', 'n']
  else if c == '\r' then ['\\', 'r']
  else if c == '\t' then ['\\', 't']
  else if c == '\x0c' then ['\\', 'f']
  else if c == '\x08' then ['\\', 'b']
  else if 0x20 ≤ c.toNat && c.toNat < 0x7F then [c]
  else if c.toNat < 0x10000 then escapeUnit c.toNat
  else
    escapeUnit (0xD800 + (c.toNat - 0x10000) / 0x400) ++
      escapeUnit (0xDC00 + (c.toNat - 0x10000) % 0x400)

/-- A string with its marks. -/
def textChars (s : String) : List Char := '"' :: (s.toList.flatMap escapeChar ++ ['"'])

/-- A line end and the indentation of a level. -/
def lineBreak (level : Nat) : List Char := '\n' :: List.replicate (2 * level) ' '

mutual

/-- The text of a value that starts on a line of the given level. -/
def chars (level : Nat) : Json → List Char
  | .null => ['n', 'u', 'l', 'l']
  | .flag true => ['t', 'r', 'u', 'e']
  | .flag false => ['f', 'a', 'l', 's', 'e']
  | .number n => Decimal.numeralChars n
  | .text s => textChars s
  | .array [] => ['[', ']']
  | .array (v :: vs) =>
    '[' :: (lineBreak (level + 1) ++ chars (level + 1) v ++ itemChars (level + 1) vs ++
      lineBreak level ++ [']'])
  | .object [] => ['\x7b', '\x7d']
  | .object ((k, v) :: ms) =>
    '\x7b' :: (lineBreak (level + 1) ++ textChars k ++ [':', ' '] ++ chars (level + 1) v ++
      memberChars (level + 1) ms ++ lineBreak level ++ ['\x7d'])

/-- The further items of an array. -/
def itemChars (level : Nat) : List Json → List Char
  | [] => []
  | v :: vs => ',' :: (lineBreak level ++ chars level v ++ itemChars level vs)

/-- The further members of an object. -/
def memberChars (level : Nat) : List (String × Json) → List Char
  | [] => []
  | (k, v) :: ms =>
    ',' :: (lineBreak level ++ textChars k ++ [':', ' '] ++ chars level v ++ memberChars level ms)

end

/-- The text of a value, without a line end after it. -/
def render (v : Json) : String := String.ofList (chars 0 v)

end Json
end LogBalancer
