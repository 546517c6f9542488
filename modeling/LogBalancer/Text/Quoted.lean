/-
# Quoted texts

How a message shows a text between quotation marks.  The mark is the apostrophe unless the
text holds one and holds no double quote.  The mark and the backslash are escaped by a
backslash, the line feed, carriage return and tab have escapes of two characters, and every
other character that is not printable is written by its code point in two, four or eight
hexadecimal digits after `\x`, `\u` or `\U`.
-/

import LogBalancer.Text.Printable

namespace LogBalancer
namespace Text

/-- The hexadecimal digit of a number below sixteen, in lower case. -/
def hexDigit (n : Nat) : Char :=
  if n < 10 then Char.ofNat (48 + n) else Char.ofNat (87 + n)

/-- The last `width` hexadecimal digits of a number, most significant first. -/
def hexDigits : Nat → Nat → List Char
  | 0, _ => []
  | width + 1, n => hexDigits width (n / 16) ++ [hexDigit (n % 16)]

/-- The mark that encloses a text. -/
def quoteMark (s : List Char) : Char :=
  if s.contains '\'' && !s.contains '"' then '"' else '\''

/-- One character of a text enclosed in `mark`. -/
def quotedChar (mark c : Char) : List Char :=
  if c == mark || c == '\\' then ['\\', c]
  else if c == '\n' then ['\\', 'n']
  else if c == '\r' then ['\\', 'r']
  else if c == '\t' then ['\\', 't']
  else if isPrintable c then [c]
  else if c.toNat < 0x100 then '\\' :: 'x' :: hexDigits 2 c.toNat
  else if c.toNat < 0x10000 then '\\' :: 'u' :: hexDigits 4 c.toNat
  else '\\' :: 'U' :: hexDigits 8 c.toNat

/-- The characters of a quoted text, marks included. -/
def quotedChars (s : List Char) : List Char :=
  let mark := quoteMark s
  mark :: (s.flatMap (quotedChar mark) ++ [mark])

/-- A text as a message quotes it. -/
def quoted (s : String) : String := String.ofList (quotedChars s.toList)

end Text
end LogBalancer
