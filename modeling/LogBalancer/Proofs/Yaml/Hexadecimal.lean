/-
# Hexadecimal scalars

A plain scalar of hexadecimal digits after `0x` is an integer, however many digits it has
(`ofPlain_hexadecimal`, `integer_hexadecimal`).  The limit on the number of digits holds for the
decimal form alone.
-/

import LogBalancer.Proofs.Text.Reading
import LogBalancer.Proofs.Text.Trim
import LogBalancer.Yaml.Number
import LogBalancer.Yaml.Tag

namespace LogBalancer

/-! ### Digits -/

namespace Text

/-- A hexadecimal number of a width has as many digits. -/
theorem length_hexDigits (width n : Nat) : (hexDigits width n).length = width := by
  induction width generalizing n with
  | zero => rfl
  | succ width ih => rw [hexDigits, List.length_append, ih, List.length_singleton]

/-- A hexadecimal number of some width has a digit. -/
theorem hexDigits_ne_nil {width : Nat} (h : 0 < width) (n : Nat) : hexDigits width n ≠ [] := by
  intro hnil
  have hlength := length_hexDigits width n
  rw [hnil] at hlength
  exact absurd h (by rw [← hlength]; decide)

/-- **The value of the digits of a number** that follow those of another. -/
theorem foldl_hexDigits (width a : Nat) {n : Nat} (h : n < Nat.pow 16 width) :
    ((hexDigits width n).map (Decimal.baseDigit? 16)).foldl (fun n d => 16 * n + d.getD 0) a =
      Nat.pow 16 width * a + n := by
  induction width generalizing n with
  | zero =>
    obtain rfl : n = 0 := Nat.lt_one_iff.1 h
    simp [hexDigits]
  | succ width ih =>
    have hdiv : n / 16 < Nat.pow 16 width := by
      rw [Nat.div_lt_iff_lt_mul (by decide)]
      exact h
    rw [hexDigits, List.map_append, List.foldl_append, ih hdiv, List.map_singleton,
      baseDigit?_hexDigit (Nat.mod_lt _ (by decide)), List.foldl_cons, List.foldl_nil,
      Option.getD_some]
    have hpow : Nat.pow 16 (width + 1) * a = 16 * (Nat.pow 16 width * a) := by
      show Nat.pow 16 width * 16 * a = _
      rw [Nat.mul_comm (Nat.pow 16 width), Nat.mul_assoc]
    rw [hpow]
    omega

end Text

/-! ### Integers -/

namespace Decimal

open Text (hexDigit hexDigits forall_mem_hexDigits)

/-- **A literal of hexadecimal digits is the number of its digits**, however many they are. -/
theorem readInteger_hexDigits {width : Nat} (hwidth : 0 < width) {n : Nat}
    (h : n < Nat.pow 16 width) : readInteger 16 (hexDigits width n) = .ok n := by
  have hliteral : literalChars (hexDigits width n) = hexDigits width n := by
    rw [literalChars, Text.trim_eq_self (forall_mem_hexDigits (by decide) width n)]
    refine (List.map_congr_left ?_).trans (List.map_id _)
    exact forall_mem_hexDigits (by decide) width n
  have hsome : ∀ d ∈ (hexDigits width n).map (baseDigit? 16), d.isSome = true := by
    intro d hd
    obtain ⟨c, hc, rfl⟩ := List.mem_map.1 hd
    exact forall_mem_hexDigits (p := fun c => (baseDigit? 16 c).isSome = true) (by decide) width n c
      hc
  have hnot : ∀ m : Char, (∀ d : Fin 16, hexDigit d ≠ m) → m ∉ hexDigits width n := fun m hm hmem =>
    forall_mem_hexDigits (p := (· ≠ m)) hm width n m hmem rfl
  have hsign : splitSign (hexDigits width n) = (false, hexDigits width n) := by
    unfold splitSign
    split
    · rename_i s hs
      exact absurd (by rw [hs]; exact List.mem_cons_self) (hnot '+' (by decide))
    · rename_i s hs
      exact absurd (by rw [hs]; exact List.mem_cons_self) (hnot '-' (by decide))
    · rfl
  have hmark : dropBaseMark 16 (hexDigits width n) = hexDigits width n := by
    unfold dropBaseMark
    split
    · rename_i m s hs
      have hm : m ∈ hexDigits width n := by simp [hs]
      have hx : (m == 'x' || m == 'X') = false :=
        forall_mem_hexDigits (p := fun m => (m == 'x' || m == 'X') = false) (by decide) width n m hm
      simp only [hx, Bool.false_eq_true, if_false, hs]
    · rfl
  have htake : ((hexDigits width n).map (baseDigit? 16)).takeWhile Option.isSome =
      (hexDigits width n).map (baseDigit? 16) := by
    simpa using @List.takeWhile_append_of_pos _ _ _ [] hsome
  simp only [readInteger, hliteral, hsign, hmark, htake, Text.foldl_hexDigits width 0 h,
    List.length_map, Text.length_hexDigits, Nat.mul_zero, Nat.zero_add]
  have hnone : (decide (width = 0) || decide (width < width)) = false := by
    rw [Bool.or_eq_false_iff, decide_eq_false_iff_not, decide_eq_false_iff_not]
    omega
  rw [if_neg Bool.false_ne_true, hnone]
  rfl

end Decimal

namespace Yaml

open Text (hexDigits forall_mem_hexDigits)

/-- A hexadecimal number as a scalar. -/
def hexadecimal (width n : Nat) : List Char := '0' :: 'x' :: hexDigits width n

/-- The characters of a hexadecimal scalar. -/
theorem forall_mem_hexadecimal {p : Char → Prop} (h₀ : p '0') (hx : p 'x')
    (h : ∀ d : Fin 16, p (Text.hexDigit d)) (width n : Nat) : ∀ c ∈ hexadecimal width n, p c :=
  List.forall_mem_cons.2 ⟨h₀, List.forall_mem_cons.2 ⟨hx, forall_mem_hexDigits h width n⟩⟩

/-- **The value of a hexadecimal scalar.** -/
theorem Number.integer_hexadecimal {width : Nat} (hwidth : 0 < width) {n : Nat}
    (h : n < Nat.pow 16 width) : integer (hexadecimal width n) = .ok n := by
  have hfilter : (hexadecimal width n).filter (· != '_') = hexadecimal width n :=
    List.filter_eq_self.2 (forall_mem_hexadecimal (by decide) (by decide) (by decide) width n)
  rw [integer, hfilter]
  show (literal 16 (hexDigits width n) >>= fun n => pure n : Except Misfit Int) = _
  rw [literal, Decimal.readInteger_hexDigits hwidth h]
  rfl

/-- **A hexadecimal scalar is an integer.** -/
theorem Tag.ofPlain_hexadecimal {width : Nat} (hwidth : 0 < width) (n : Nat) :
    ofPlain (hexadecimal width n) = .int := by
  have hbreak : '\n' ∉ hexadecimal width n := fun hmem =>
    forall_mem_hexadecimal (p := (· ≠ '\n')) (by decide) (by decide) (by decide) width n _ hmem rfl
  have hlast : ((hexadecimal width n).getLast? == some '\n') = false := by
    rw [beq_eq_false_iff_ne]
    exact fun h => hbreak (List.mem_of_getLast? h)
  -- no word of the lists of spellings starts with a zero
  have hword : ∀ words : List String, (words.all fun w => w.toList.head? != some '0') = true →
      words.contains (String.ofList (hexadecimal width n)) = false := by
    intro words hall
    rw [List.contains_eq_mem, decide_eq_false_iff_not]
    intro hmem
    have hhead := List.all_eq_true.1 hall _ hmem
    rw [String.toList_ofList] at hhead
    exact Bool.false_ne_true hhead
  have hfloat : isFloat (hexadecimal width n) = false := by
    have hform : isFloat (hexadecimal width n) =
        ([".inf", ".Inf", ".INF"].contains (String.ofList (hexadecimal width n)) ||
          [".nan", ".NaN", ".NAN"].contains (String.ofList (hexadecimal width n))) := rfl
    rw [hform, hword _ (by decide), hword _ (by decide)]
    rfl
  have hinteger : isInteger (hexadecimal width n) = true := by
    show (!(hexDigits width n).isEmpty && (hexDigits width n).all _) = true
    rw [Bool.and_eq_true, List.all_eq_true]
    refine ⟨?_, forall_mem_hexDigits (by decide) width n⟩
    rw [Bool.not_eq_true', List.isEmpty_eq_false_iff]
    exact Text.hexDigits_ne_nil hwidth n
  simp only [ofPlain, hlast, Bool.false_and, Bool.false_eq_true, if_false,
    hword flagWords (by decide), hfloat, hinteger, if_true]

end Yaml
end LogBalancer
