/-
# Ports as text

Writing and reading the decimal text of a port.

`portText` writes an integer, and fails on one of more than 4300 digits.  `Port.read` takes a
wider grammar than what is written.  A text of at most 4300 characters is trimmed of white
space, and what is left must be

| part | |
| --- | --- |
| sign | at most one `+` or `-` |
| digits | one or more, with single underscores between digits; leading zeros are allowed |
| fraction | nothing, or `.` and one or more `0` |

This is the grammar that a team file can rely on.  There are readers of integers that take more: two
underscores after a leading zero, as in `0__1`, or a text of more than 4300 characters of which no more
than that are left once it is trimmed and its leading zeros are dropped.
-/

import LogBalancer.Decimal.Numeral
import LogBalancer.Text.Blank

namespace LogBalancer

/-- The failure to write an integer in decimal, for its size. -/
structure TooLong
  deriving DecidableEq, Repr

/-- How the failure is reported. -/
def TooLong.message : String :=
  "Exceeds the limit (4300 digits) for integer string conversion; " ++
    "use sys.set_int_max_str_digits() to increase the limit"

/-- The decimal text of a port. -/
def portText (port : Int) : Except TooLong String :=
  match Decimal.numeral? port with
  | some s => .ok s
  | none => .error ⟨⟩

/-- The least port. -/
def minPort : Int := 1

/-- The greatest port. -/
def maxPort : Int := 65535

namespace Port

/-- Why a text is not read as a port. -/
inductive ReadError
  | unreadable
  | tooLong
  deriving DecidableEq, Repr

/-- The digits of a numeral that may have single underscores between its digits. -/
def digits? : List Char → Option (List Char)
  | [] => none
  | [c] => if Decimal.isDigit c then some [c] else none
  | c :: '_' :: s => if Decimal.isDigit c then (digits? s).map (c :: ·) else none
  | c :: s => if Decimal.isDigit c then (digits? s).map (c :: ·) else none

/-- Whether what follows the digits is nothing, or a point and zeros. -/
def isZeroFraction : List Char → Bool
  | [] => true
  | '.' :: zeros => !zeros.isEmpty && zeros.all (· == '0')
  | _ => false

/-- The number of an unsigned text. -/
def natural? (s : List Char) : Option Nat :=
  let whole := s.takeWhile (· != '.')
  if isZeroFraction (s.dropWhile (· != '.')) then (digits? whole).map Decimal.valueOf else none

/-- The integer of a trimmed text. -/
def integer? : List Char → Option Int
  | '+' :: s => (natural? s).map fun n => (n : Int)
  | '-' :: s => (natural? s).map fun n => -(n : Int)
  | s => (natural? s).map fun n => (n : Int)

/-- The integer that a text denotes. -/
def read (s : List Char) : Except ReadError Int :=
  if Decimal.maxDigits < s.length then .error .tooLong
  else match integer? (Text.trim Text.isWhite s) with
    | some n => .ok n
    | none => .error .unreadable

end Port
end LogBalancer
