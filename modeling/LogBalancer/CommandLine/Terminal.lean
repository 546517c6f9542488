/-
# Text on a terminal

Coloured text is put between escape sequences.  Where colours are not wanted, `plain` takes
every escape sequence out of a text, also one that was in it before.
-/

namespace LogBalancer
namespace Terminal

/-- The colours in use. -/
inductive Colour
  | red
  | green
  | yellow
  deriving DecidableEq, Repr

/-- The escape sequence with the given parameter. -/
def sequence (parameter : String) : String := "\x1b[" ++ parameter ++ "m"

/-- The parameter of a colour. -/
def Colour.parameter : Colour → String
  | .red => "31"
  | .green => "32"
  | .yellow => "33"

/-- A text in a colour, in bold if asked for. -/
def paint (colour : Colour) (bold : Bool) (s : String) : String :=
  sequence colour.parameter ++ (if bold then sequence "1" else "") ++ s ++ sequence "0"

/-- The characters between the bracket and the letter of an escape sequence. -/
def isParameter (c : Char) : Bool := c == ';' || c == '?' || ('0' ≤ c && c ≤ '9')

/-- Whether a character is an ASCII letter. -/
def isLetter (c : Char) : Bool := ('a' ≤ c && c ≤ 'z') || ('A' ≤ c && c ≤ 'Z')

/-- What follows the escape sequence that a text starts with. -/
def afterSequence? : List Char → Option (List Char)
  | '\x1b' :: '[' :: s =>
    match s.dropWhile isParameter with
    | c :: rest => if isLetter c then some rest else none
    | [] => none
  | _ => none

/-- The characters outside of escape sequences; `fuel` is at least their number. -/
def plainFrom : Nat → List Char → List Char
  | 0, s => s
  | fuel + 1, s =>
    match afterSequence? s with
    | some rest => plainFrom fuel rest
    | none =>
      match s with
      | [] => []
      | c :: rest => c :: plainFrom fuel rest

/-- A text without its escape sequences. -/
def plain (s : String) : String := String.ofList (plainFrom s.toList.length s.toList)

/-- A line as it is shown. -/
def line (colours : Bool) (s : String) : String :=
  if colours then s ++ "\n" else plain (s ++ "\n")

end Terminal
end LogBalancer
