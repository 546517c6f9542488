/-
# Number literals

How a text denotes a number when its type is asked for.  White space at both ends is
dropped, digits of any script count as digits, and one sign may stand in front.

* `readInteger` reads the digits of a base, after the mark of the base (`0b`, `0o`, `0x`) if
  there is one.  In base ten no more than `maxDigits` digits are taken.
* `readFloat` reads decimal notation with an optional exponent, the infinities and the value
  that is not a number.
-/

import LogBalancer.Decimal.Binary64
import LogBalancer.Decimal.Numeral
import LogBalancer.Text.Blank
import LogBalancer.Text.Digit

namespace LogBalancer
namespace Decimal

/-- Why a text is not an integer literal. -/
inductive LiteralError
  | malformed
  | tooLong (digits : Nat)
  deriving DecidableEq, Repr

/-- The text of a literal without the white space around it, its digits as ASCII digits. -/
def literalChars (s : List Char) : List Char :=
  (Text.trim Text.isWhite s).map fun c =>
    match Text.decimalDigit? c with
    | some d => digitChar d
    | none => c

/-- A sign, true for minus, and what follows it. -/
def splitSign : List Char → Bool × List Char
  | '+' :: s => (false, s)
  | '-' :: s => (true, s)
  | s => (false, s)

/-- The value of a digit in a base up to 36. -/
def baseDigit? (base : Nat) (c : Char) : Option Nat :=
  let value :=
    if '0' ≤ c && c ≤ '9' then c.toNat - 48
    else if 'a' ≤ c && c ≤ 'z' then c.toNat - 87
    else if 'A' ≤ c && c ≤ 'Z' then c.toNat - 55
    else base
  if value < base then some value else none

/-- What follows the mark of a base. -/
def dropBaseMark (base : Nat) : List Char → List Char
  | '0' :: m :: s =>
    let isMark := match base with
      | 2 => m == 'b' || m == 'B'
      | 8 => m == 'o' || m == 'O'
      | 16 => m == 'x' || m == 'X'
      | _ => false
    if isMark then s else '0' :: m :: s
  | s => s

/-- The integer of a literal in a base. -/
def readInteger (base : Nat) (s : List Char) : Except LiteralError Int :=
  let (negative, s) := splitSign (literalChars s)
  let s := dropBaseMark base s
  let values := s.map (baseDigit? base)
  let run := (values.takeWhile Option.isSome).length
  if base == 10 && maxDigits < run then .error (.tooLong run)
  else if run = 0 || run < values.length then .error .malformed
  else
    let n := values.foldl (fun n d => base * n + d.getD 0) 0
    .ok (if negative then -(n : Int) else n)

/-- The exponent after the digits of a decimal; absent means zero. -/
def readExponent : List Char → Option Int
  | [] => some 0
  | e :: s =>
    if e == 'e' || e == 'E' then
      let (negative, ds) := splitSign s
      if !ds.isEmpty && ds.all isDigit then
        some (if negative then -(valueOf ds : Int) else valueOf ds)
      else none
    else none

/-- The value of an unsigned decimal. -/
def readMagnitude (negative : Bool) (s : List Char) : Option Binary64 :=
  let word := s.map fun c => if 'A' ≤ c && c ≤ 'Z' then Char.ofNat (c.toNat + 32) else c
  if word == ['i', 'n', 'f'] || word == ['i', 'n', 'f', 'i', 'n', 'i', 't', 'y'] then
    some (.infinite negative)
  else if word == ['n', 'a', 'n'] then some .nan
  else
    let whole := s.takeWhile isDigit
    let rest := s.dropWhile isDigit
    let (fraction, rest) := match rest with
      | '.' :: r => (r.takeWhile isDigit, r.dropWhile isDigit)
      | r => ([], r)
    let ds := whole ++ fraction
    if ds.isEmpty then none
    else (readExponent rest).map fun e =>
      Binary64.ofDecimal negative (valueOf ds) (e - fraction.length)

/-- The value of a floating-point literal. -/
def readFloat (s : List Char) : Option Binary64 :=
  let (negative, s) := splitSign (literalChars s)
  readMagnitude negative s

end Decimal
end LogBalancer
