/-
# Binary floating point

The values of the 64-bit binary format, in exact integer arithmetic: a finite value is a sign,
a whole significand below 2^53 and a power of two from -1074 to 971.  Every operation computes
its exact result as a quotient of natural numbers and rounds once, to the nearest value, a tie
going to the even significand (`ofRatio`).
-/

namespace LogBalancer
namespace Decimal

/-- A value of the 64-bit binary format.  `finite s m e` is `m * 2 ^ e`, negated if `s`; zero has
the exponent -1074. -/
inductive Binary64
  | nan
  | infinite (negative : Bool)
  | finite (negative : Bool) (significand : Nat) (exponent : Int)
  deriving DecidableEq, Repr

namespace Binary64

/-- Zero with a sign. -/
def zero (negative : Bool) : Binary64 := .finite negative 0 (-1074)

/-- The quotient of two numbers, rounded to the nearest whole number, ties to even. -/
def roundQuotient (num den : Nat) : Nat :=
  let q := num / den
  let r := num % den
  if 2 * r < den || (2 * r == den && q % 2 == 0) then q else q + 1

/-- `num / den * 2 ^ (-e)` as numerator and denominator. -/
def scaled (num den : Nat) (e : Int) : Nat × Nat :=
  if 0 ≤ e then (num, den * Nat.pow 2 e.toNat) else (num * Nat.pow 2 (-e).toNat, den)

/-- The exponent at which a positive quotient has a significand of 53 bits, or -1074 where that
would be smaller. -/
def exponentOf (num den : Nat) : Int :=
  let e : Int := (num.log2 : Int) - (den.log2 : Int) - 53
  let (n, d) := scaled num den (e + 1)
  let e := if n / d < Nat.pow 2 52 then e else e + 1
  max e (-1074)

/-- The value nearest to `num / den`, for a positive denominator. -/
def ofRatio (negative : Bool) (num den : Nat) : Binary64 :=
  if num = 0 then zero negative
  else
    let e := exponentOf num den
    let (n, d) := scaled num den e
    let m := roundQuotient n d
    let (m, e) := if m = Nat.pow 2 53 then (Nat.pow 2 52, e + 1) else (m, e)
    if 971 < e then .infinite negative
    else if m = 0 then zero negative
    else .finite negative m e

/-- The value nearest to `digits * 10 ^ exponent`. -/
def ofDecimal (negative : Bool) (digits : Nat) (exponent : Int) : Binary64 :=
  if digits = 0 then zero negative
  else if 400 < exponent then .infinite negative
  else if exponent + (digits.log2 : Int) < -1500 then zero negative
  else if 0 ≤ exponent then ofRatio negative (digits * Nat.pow 10 exponent.toNat) 1
  else ofRatio negative digits (Nat.pow 10 (-exponent).toNat)

/-- The value with the other sign. -/
def neg : Binary64 → Binary64
  | .nan => .nan
  | .infinite s => .infinite !s
  | .finite s m e => .finite (!s) m e

/-- A finite magnitude as numerator and denominator. -/
def ratio (significand : Nat) (exponent : Int) : Nat × Nat :=
  if 0 ≤ exponent then (significand * Nat.pow 2 exponent.toNat, 1)
  else (significand, Nat.pow 2 (-exponent).toNat)

/-- The rounded product. -/
def mul : Binary64 → Binary64 → Binary64
  | .finite s m e, .finite t n f =>
    let (a, b) := ratio m e
    let (c, d) := ratio n f
    ofRatio (s != t) (a * c) (b * d)
  | .infinite s, .infinite t => .infinite (s != t)
  | .infinite s, .finite t n _ => if n = 0 then .nan else .infinite (s != t)
  | .finite s m _, .infinite t => if m = 0 then .nan else .infinite (s != t)
  | _, _ => .nan

/-- The rounded sum. -/
def add : Binary64 → Binary64 → Binary64
  | .finite s m e, .finite t n f =>
    let (a, b) := ratio m e
    let (c, d) := ratio n f
    let x : Int := (if s then -1 else 1) * ((a * d : Nat) : Int)
    let y : Int := (if t then -1 else 1) * ((c * b : Nat) : Int)
    if x + y = 0 then zero (s && t) else ofRatio (x + y < 0) (x + y).natAbs (b * d)
  | .infinite s, .infinite t => if s = t then .infinite s else .nan
  | .infinite s, .finite .. => .infinite s
  | .finite .., .infinite t => .infinite t
  | _, _ => .nan

/-- The integer that a value equals, if it equals one. -/
def toInt? : Binary64 → Option Int
  | .finite s m e =>
    let (n, d) := ratio m e
    if n % d = 0 then some (if s then -((n / d : Nat) : Int) else ((n / d : Nat) : Int)) else none
  | _ => none

/-- Numeric equality: a value that is not a number equals nothing, and the two zeros are equal. -/
def numEq : Binary64 → Binary64 → Bool
  | .infinite s, .infinite t => s = t
  | .finite s m e, .finite t n f =>
    (m == 0 && n == 0) ||
      (s == t && (ratio m e).1 * (ratio n f).2 == (ratio n f).1 * (ratio m e).2)
  | _, _ => false

end Binary64

end Decimal
end LogBalancer
