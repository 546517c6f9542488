/-
# The shortest decimal of a floating-point value

`shortest` finds the fewest digits that read back as the same binary value, and among those
the digits nearest to it.  The decimals that read back are the ones between the midpoints to
the two neighbouring values, midpoints included when the significand is even.  For one, two,
… seventeen digits the two decimals around the value are tried in exact arithmetic; the first
count of digits with a hit wins, and of two hits the nearer.

`Binary64.text` lays the digits out: positional while the decimal exponent is from -4 to 15,
otherwise with an exponent of at least two digits and a sign.
-/

import LogBalancer.Decimal.Binary64
import LogBalancer.Decimal.Numeral

namespace LogBalancer
namespace Decimal

/-- The decimals that read back as one positive value: bounds and value over one denominator. -/
structure Neighbourhood where
  low : Nat
  value : Nat
  high : Nat
  denominator : Nat
  /-- Whether the bounds themselves read back. -/
  closed : Bool

/-- The neighbourhood of `significand * 2 ^ exponent`.  Below a power of two the values lie twice
as close. -/
def Neighbourhood.of (significand : Nat) (exponent : Int) : Neighbourhood :=
  let below := if significand = Nat.pow 2 52 ∧ -1074 < exponent then 1 else 2
  let (num, den) :=
    if 0 ≤ exponent then (Nat.pow 2 exponent.toNat, 4)
    else (1, 4 * Nat.pow 2 (-exponent).toNat)
  ⟨(4 * significand - below) * num, 4 * significand * num, (4 * significand + 2) * num, den,
    significand % 2 = 0⟩

/-- Whether `q * 10 ^ k` reads back. -/
def Neighbourhood.contains (v : Neighbourhood) (q : Nat) (k : Int) : Bool :=
  let (x, y) := if 0 ≤ k then (q * Nat.pow 10 k.toNat, 1) else (q, Nat.pow 10 (-k).toNat)
  let x := x * v.denominator
  if v.closed then v.low * y ≤ x && x ≤ v.high * y else v.low * y < x && x < v.high * y

/-- The decimal with step `10 ^ k` that reads back and lies nearest, if one does. -/
def Neighbourhood.nearest? (v : Neighbourhood) (k : Int) : Option Nat :=
  let (x, y) :=
    if 0 ≤ k then (v.value, v.denominator * Nat.pow 10 k.toNat)
    else (v.value * Nat.pow 10 (-k).toNat, v.denominator)
  let q := x / y
  let r := x % y
  let lowFirst := 2 * r < y || (2 * r == y && q % 2 == 0)
  let first := if lowFirst then q else q + 1
  let second := if lowFirst then q + 1 else q
  if v.contains first k then some first
  else if v.contains second k then some second
  else none

/-- The decimal exponent of the leading digit, found upwards from a lower bound. -/
def leadingExponent (v : Neighbourhood) : Nat → Int → Int
  | 0, k => k
  | fuel + 1, k =>
    let (x, y) :=
      if 0 ≤ k + 1 then (Nat.pow 10 (k + 1).toNat, 1) else (1, Nat.pow 10 (-(k + 1)).toNat)
    if v.denominator * x ≤ v.value * y then leadingExponent v fuel (k + 1) else k

/-- The first decimal that reads back, from steps `10 ^ k`, `10 ^ (k - 1)`, … -/
def Neighbourhood.search (v : Neighbourhood) : Nat → Int → Nat × Int
  | 0, k => (v.value / v.denominator, k)
  | fuel + 1, k =>
    match v.nearest? k with
    | some q => (q, k)
    | none => v.search fuel (k - 1)

/-- Digits `q` and step `k` of the shortest decimal `q * 10 ^ k` of a positive value. -/
def shortest (significand : Nat) (exponent : Int) : Nat × Int :=
  let v := Neighbourhood.of significand exponent
  v.search 20 (leadingExponent v 640 (-325))

/-- Drops the zeros at the end of a numeral, counting them into the exponent. -/
def stripZeros : Nat → Nat → Int → Nat × Int
  | 0, q, k => (q, k)
  | fuel + 1, q, k => if q % 10 = 0 ∧ q ≠ 0 then stripZeros fuel (q / 10) (k + 1) else (q, k)

/-- Where positional notation ends and how an exponent is written. -/
structure FloatStyle where
  /-- The least decimal exponent written positionally. -/
  least : Int
  /-- The first decimal exponent that is too large for it. -/
  limit : Int
  /-- The least number of digits of an exponent. -/
  exponentDigits : Nat

/-- The digits `q` at step `k`, in a style. -/
def layout (style : FloatStyle) (q : Nat) (k : Int) : List Char :=
  let ds := digits q
  let point : Int := ds.length + k
  let exponent := point - 1
  if exponent < style.least || style.limit ≤ exponent then
    let mantissa := match ds with
      | d :: rest => if rest.isEmpty then [d] else d :: '.' :: rest
      | [] => []
    let size := digits exponent.natAbs
    mantissa ++ 'e' :: (if exponent < 0 then '-' else '+') ::
      (List.replicate (style.exponentDigits - size.length) '0' ++ size)
  else if point ≤ 0 then '0' :: '.' :: (List.replicate (-point).toNat '0' ++ ds)
  else if 0 ≤ k then ds ++ List.replicate k.toNat '0' ++ ['.', '0']
  else ds.take point.toNat ++ '.' :: ds.drop point.toNat

/-- Floating-point values in messages: positional from 1e-4 to below 1e16, exponents of two or
more digits. -/
def messageStyle : FloatStyle := ⟨-4, 16, 2⟩

/-- The text of a value in a message. -/
def Binary64.text : Binary64 → String
  | .nan => "nan"
  | .infinite s => if s then "-inf" else "inf"
  | .finite s m e =>
    let body :=
      if m = 0 then ['0', '.', '0']
      else
        let (q, k) := shortest m e
        let (q, k) := stripZeros 20 q k
        layout messageStyle q k
    String.ofList (if s then '-' :: body else body)

end Decimal
end LogBalancer
