/-
# Decimal numerals of integers

`numeral` writes an integer of any size in decimal: a minus sign if it is negative, no plus
sign, no leading zero.  Output is limited: `numeral?` refuses integers of more than
`maxDigits` decimal digits, and `isWritable` says which integers it takes.
-/

namespace LogBalancer
namespace Decimal

/-- The character of a digit below ten. -/
def digitChar (d : Nat) : Char := Char.ofNat (48 + d)

/-- The decimal digits of a number, put before `tail`. -/
def digitsOnto (n : Nat) (tail : List Char) : List Char :=
  if n < 10 then digitChar n :: tail
  else digitsOnto (n / 10) (digitChar (n % 10) :: tail)
termination_by n
decreasing_by omega

/-- The decimal digits of a number, most significant first. -/
def digits (n : Nat) : List Char := digitsOnto n []

/-- The decimal numeral of an integer, as characters. -/
def numeralChars : Int → List Char
  | .ofNat n => digits n
  | .negSucc n => '-' :: digits (n + 1)

/-- The decimal numeral of an integer. -/
def numeral (p : Int) : String := String.ofList (numeralChars p)

/-- The decimal numeral of a natural number. -/
def natural (n : Nat) : String := String.ofList (digits n)

/-- The largest number of digits that a numeral may have. -/
def maxDigits : Nat := 4300

/-- Whether an integer has at most `maxDigits` decimal digits. -/
def isWritable (p : Int) : Bool := p.natAbs < Nat.pow 10 maxDigits

/-- The numeral of an integer that has at most `maxDigits` digits. -/
def numeral? (p : Int) : Option String := if isWritable p then some (numeral p) else none

/-- Whether a character is one of the ten ASCII digits. -/
def isDigit (c : Char) : Bool := '0' ≤ c && c ≤ '9'

/-- The number that a string of ASCII digits denotes. -/
def valueOf (s : List Char) : Nat := s.foldl (fun n c => 10 * n + (c.toNat - 48)) 0

/-- The digits of a number stand before the tail, which takes no part in them. -/
theorem digitsOnto_append (n : Nat) (tail : List Char) :
    digitsOnto n tail = digitsOnto n [] ++ tail := by
  induction n using Nat.strongRecOn generalizing tail with
  | ind n ih =>
    by_cases h : n < 10
    · rw [digitsOnto, if_pos h, digitsOnto.eq_1 n [], if_pos h, List.singleton_append]
    · rw [digitsOnto, if_neg h, digitsOnto.eq_1 n [], if_neg h,
        ih (n / 10) (by omega) (_ :: tail), ih (n / 10) (by omega) [_], List.append_assoc]
      rfl

/-- A number of several digits is written digit by digit. -/
theorem digits_of_ten_le {n : Nat} (h : 10 ≤ n) :
    digits n = digits (n / 10) ++ [digitChar (n % 10)] := by
  rw [digits, digitsOnto, if_neg (by omega), digitsOnto_append]
  rfl

/-- A number of one digit is written by its digit. -/
theorem digits_of_lt_ten {n : Nat} (h : n < 10) : digits n = [digitChar n] := by
  rw [digits, digitsOnto, if_pos h]

/-- The characters of the digits are the ten from U+0030 on. -/
theorem digitChar_toNat {d : Nat} (h : d < 10) : (digitChar d).toNat = 48 + d := by
  have : d = 0 ∨ d = 1 ∨ d = 2 ∨ d = 3 ∨ d = 4 ∨ d = 5 ∨ d = 6 ∨ d = 7 ∨ d = 8 ∨ d = 9 := by
    omega
  rcases this with rfl | rfl | rfl | rfl | rfl | rfl | rfl | rfl | rfl | rfl <;> rfl

/-- Reading back what was written gives the number. -/
theorem valueOf_digits (n : Nat) : valueOf (digits n) = n := by
  induction n using Nat.strongRecOn with
  | ind n ih =>
    by_cases h : n < 10
    · rw [digits_of_lt_ten h]
      simp [valueOf, digitChar_toNat h]
    · rw [digits_of_ten_le (by omega)]
      have hlast : n % 10 < 10 := Nat.mod_lt _ (by decide)
      have := ih (n / 10) (by omega)
      unfold valueOf at this ⊢
      rw [List.foldl_append, this]
      simp only [List.foldl_cons, List.foldl_nil, digitChar_toNat hlast]
      omega

end Decimal
end LogBalancer
