/-
# Numerals of ports

The grammar of ports as text, without a way to read it.  A `Port.Numeral` is a text in its parts:
white space, a sign, groups of digits with single underscores between them, the zeros of a fraction,
and white space again.  It denotes the integer of its digits.

The numeral that is written for an integer is the one with nothing but what is needed
(`Numeral.text_eq_numeralChars_iff`): no white space, plus sign, underscore, leading zero or fraction.
-/

import LogBalancer.Port
import LogBalancer.Proofs.Text.Reading
import Mathlib.Data.List.Induction
import Mathlib.Data.Nat.Digits.Defs

namespace LogBalancer

/-! ### Digits -/

namespace Decimal

/-- The number of a decimal digit. -/
def digitOf (c : Char) : Nat := c.toNat - '0'.toNat

/-- Digits are read in the positional system of base ten, the last one first. -/
theorem valueOf_eq_ofDigits (s : List Char) :
    valueOf s = Nat.ofDigits 10 (s.reverse.map digitOf) := by
  rw [Nat.ofDigits_eq_foldr, List.foldr_map, List.foldr_reverse]
  unfold valueOf
  congr 1
  funext n c
  exact Nat.add_comm _ _

/-- One more digit at the end makes ten times the number and the digit. -/
theorem valueOf_concat (s : List Char) (c : Char) :
    valueOf (s ++ [c]) = 10 * valueOf s + digitOf c := by
  unfold valueOf
  rw [List.foldl_append]
  rfl

/-- The value of a digit is below ten. -/
theorem digitOf_lt_ten {c : Char} (h : isDigit c = true) : digitOf c < 10 := by
  have hrange := Text.isDigit_iff.1 h
  unfold digitOf
  show c.toNat - 48 < 10
  omega

/-- A digit is the character of its value. -/
theorem digitChar_digitOf {c : Char} (h : isDigit c = true) : digitChar (digitOf c) = c := by
  have hrange := Text.isDigit_iff.1 h
  have hcode : 48 + digitOf c = c.toNat := by
    unfold digitOf
    show 48 + (c.toNat - 48) = c.toNat
    omega
  rw [digitChar, hcode]
  exact Char.ofNat_toNat c

/-- Digits that a number is written with have no needless zero in front. -/
def IsReduced (s : List Char) : Prop := ∀ rest, s = '0' :: rest → rest = []

/-- The digits of a number have no leading zero. -/
theorem isReduced_digits (n : Nat) : IsReduced (digits n) := by
  intro rest h
  obtain ⟨d, ds, hd, hzero⟩ := Text.exists_digits_eq_cons n
  obtain ⟨rfl, rfl⟩ := List.cons.inj (hd.symm.trans h)
  exact Classical.byContradiction fun hne => hzero ⟨rfl, hne⟩

/-- **A number has one numeral without a needless zero**: the one that is written. -/
theorem digits_valueOf {s : List Char} (hne : s ≠ []) (hdigits : ∀ c ∈ s, isDigit c = true)
    (hreduced : IsReduced s) : digits (valueOf s) = s := by
  induction s using List.reverseRecOn with
  | nil => exact absurd rfl hne
  | append_singleton s c ih =>
    have hc : isDigit c = true := hdigits c (List.mem_append_right s (List.mem_singleton.2 rfl))
    have hlt : digitOf c < 10 := digitOf_lt_ten hc
    rw [valueOf_concat]
    by_cases hs : s = []
    · subst hs
      have hvalue : 10 * valueOf [] + digitOf c = digitOf c := Nat.zero_add _
      rw [hvalue, digits_of_lt_ten hlt, digitChar_digitOf hc]
      rfl
    · have hreduced' : IsReduced s := by
        rintro rest rfl
        exact absurd (hreduced (rest ++ [c]) rfl) (List.append_ne_nil_of_right_ne_nil rest (by simp))
      have hwritten : digits (valueOf s) = s :=
        ih hs (fun d hd => hdigits d (List.mem_append_left [c] hd)) hreduced'
      -- digits in front that denote zero would be a zero
      have hpos : valueOf s ≠ 0 := by
        intro hzero
        rw [hzero, digits_of_lt_ten (by decide)] at hwritten
        exact absurd (hreduced [c] (hwritten ▸ rfl)) (List.cons_ne_nil c [])
      rw [digits_of_ten_le (by omega)]
      have hdiv : (10 * valueOf s + digitOf c) / 10 = valueOf s := by omega
      have hmod : (10 * valueOf s + digitOf c) % 10 = digitOf c := by omega
      rw [hdiv, hmod, hwritten, digitChar_digitOf hc]

end Decimal

/-! ### Numerals -/

namespace Port

/-- The sign of a numeral. -/
inductive Sign
  | absent
  | plus
  | minus
  deriving DecidableEq, Repr

namespace Sign

/-- How a sign is written. -/
def text : Sign → List Char
  | .absent => []
  | .plus => ['+']
  | .minus => ['-']

/-- The integer of a sign and a number. -/
def of : Sign → Nat → Int
  | .absent, n => n
  | .plus, n => n
  | .minus, n => -n

end Sign

/-- One or more decimal digits. -/
def IsGroup (s : List Char) : Prop := s ≠ [] ∧ ∀ c ∈ s, Decimal.isDigit c = true

instance (s : List Char) : Decidable (IsGroup s) :=
  decidable_of_iff ((!s.isEmpty && s.all Decimal.isDigit) = true) (by simp [IsGroup])

/-- Digits in groups. -/
structure Digits where
  first : List Char
  more : List (List Char)
  first_isGroup : IsGroup first
  more_isGroup : ∀ g ∈ more, IsGroup g

namespace Digits

/-- The groups with an underscore between any two. -/
def text (d : Digits) : List Char := d.first ++ d.more.flatMap ('_' :: ·)

/-- The digits of all groups. -/
def chars (d : Digits) : List Char := d.first ++ d.more.flatten

/-- The number of the digits in base ten. -/
def value (d : Digits) : Nat := Nat.ofDigits 10 (d.chars.reverse.map Decimal.digitOf)

/-- The value of groups of digits is that of all their digits. -/
theorem value_eq (d : Digits) : d.value = Decimal.valueOf d.chars :=
  (Decimal.valueOf_eq_ofDigits d.chars).symm

/-- Groups are written with digits and underscores. -/
theorem forall_mem_text {p : Char → Prop} (hdigit : ∀ c, Decimal.isDigit c = true → p c)
    (hunderscore : p '_') (d : Digits) : ∀ c ∈ d.text, p c := by
  intro c hc
  rcases List.mem_append.1 hc with hc | hc
  · exact hdigit c (d.first_isGroup.2 c hc)
  · obtain ⟨g, hg, hc⟩ := List.mem_flatMap.1 hc
    rcases List.mem_cons.1 hc with rfl | hc
    · exact hunderscore
    · exact hdigit c ((d.more_isGroup g hg).2 c hc)

/-- Groups start with a digit. -/
theorem exists_text_eq_cons (d : Digits) :
    ∃ c s, d.text = c :: s ∧ Decimal.isDigit c = true := by
  obtain ⟨c, s, hfirst⟩ := List.exists_cons_of_ne_nil d.first_isGroup.1
  refine ⟨c, s ++ d.more.flatMap ('_' :: ·), ?_, d.first_isGroup.2 c ?_⟩
  · rw [text, hfirst, List.cons_append]
  · rw [hfirst]
    exact List.mem_cons_self

end Digits

/-- A fraction of so many zeros; nothing is written for none. -/
def zeroFraction : Nat → List Char
  | 0 => []
  | n + 1 => '.' :: List.replicate (n + 1) '0'

/-- A fraction is written with points and zeros. -/
theorem forall_mem_zeroFraction {p : Char → Prop} (hpoint : p '.') (hzero : p '0') (n : Nat) :
    ∀ c ∈ zeroFraction n, p c := by
  intro c hc
  cases n with
  | zero => cases hc
  | succ n =>
    rcases List.mem_cons.1 hc with rfl | hc
    · exact hpoint
    · exact List.eq_of_mem_replicate hc ▸ hzero

/-- A text of the grammar of ports, in its parts. -/
structure Numeral where
  before : List Char
  sign : Sign
  digits : Digits
  zeros : Nat
  after : List Char
  before_isWhite : before.all Text.isWhite = true
  after_isWhite : after.all Text.isWhite = true

/-- A digit is not white. -/
theorem isWhite_of_isDigit {c : Char} (h : Decimal.isDigit c = true) : Text.isWhite c = false := by
  have hrange := Text.isDigit_iff.1 h
  have hdigit : ∀ n : Fin 10, Text.inRanges Text.whiteRanges (48 + n) = false := by decide
  have hcode : 48 + (c.toNat - 48) = c.toNat := by omega
  have hn := hdigit ⟨c.toNat - 48, by omega⟩
  rwa [hcode] at hn

namespace Numeral

/-- The numeral without the white space around it. -/
def core (w : Numeral) : List Char := w.sign.text ++ w.digits.text ++ zeroFraction w.zeros

/-- The characters of a numeral. -/
def text (w : Numeral) : List Char := w.before ++ w.core ++ w.after

/-- The integer that a numeral denotes. -/
def value (w : Numeral) : Int := w.sign.of w.digits.value

/-- A numeral without white space, plus sign, underscore and fraction. -/
structure IsPlain (w : Numeral) : Prop where
  before : w.before = []
  sign : w.sign ≠ .plus
  one_group : w.digits.more = []
  zeros : w.zeros = 0
  after : w.after = []

/-- A plain numeral with no needless zero in front, and no sign if it is zero. -/
structure IsCanonical (w : Numeral) : Prop extends IsPlain w where
  reduced : Decimal.IsReduced w.digits.first
  nonzero : w.sign = .minus → w.digits.value ≠ 0

namespace IsPlain

variable {w : Numeral}

/-- A plain numeral has one group of digits. -/
theorem chars_eq (h : w.IsPlain) : w.digits.chars = w.digits.first := by
  rw [Digits.chars, h.one_group, List.flatten_nil, List.append_nil]

/-- A plain numeral is its sign and its digits. -/
theorem text_eq (h : w.IsPlain) : w.text = w.sign.text ++ w.digits.first := by
  rw [Numeral.text, core, h.before, h.after, h.zeros, Digits.text, h.one_group]
  simp only [zeroFraction, List.flatMap_nil, List.append_nil, List.nil_append]

/-- A numeral is plain if it has no other characters than minus signs and digits. -/
theorem of_forall_mem (h : ∀ c ∈ w.text, c = '-' ∨ Decimal.isDigit c = true) : w.IsPlain := by
  have hcore : ∀ c ∈ w.core, c = '-' ∨ Decimal.isDigit c = true := fun c hc =>
    h c (List.mem_append_left _ (List.mem_append_right _ hc))
  have hwhite : ∀ s : List Char, s.all Text.isWhite = true → (∀ c ∈ s, c ∈ w.text) → s = [] := by
    intro s hs hmem
    refine List.eq_nil_iff_forall_not_mem.2 fun c hc => ?_
    have hc' : Text.isWhite c = true := List.all_eq_true.1 hs c hc
    rcases h c (hmem c hc) with rfl | hdigit
    · exact absurd hc' (by decide)
    · exact absurd hc' (by rw [isWhite_of_isDigit hdigit]; decide)
  exact
    { before := hwhite _ w.before_isWhite fun c hc =>
        List.mem_append_left _ (List.mem_append_left _ hc)
      sign := by
        intro hsign
        have hplus : '+' ∈ w.sign.text := hsign ▸ List.mem_singleton.2 rfl
        exact absurd (hcore _ (List.mem_append_left _ (List.mem_append_left _ hplus))) (by decide)
      one_group := by
        rcases hmore : w.digits.more with _ | ⟨g, gs⟩
        · rfl
        · have hunderscore : '_' ∈ w.digits.text :=
            List.mem_append_right _ (hmore ▸ List.mem_append_left _ List.mem_cons_self)
          exact absurd (hcore _ (List.mem_append_left _ (List.mem_append_right _ hunderscore)))
            (by decide)
      zeros := by
        rcases hzeros : w.zeros with _ | n
        · rfl
        · have hpoint : '.' ∈ zeroFraction w.zeros := hzeros ▸ List.mem_cons_self
          exact absurd (hcore _ (List.mem_append_right _ hpoint)) (by decide)
      after := hwhite _ w.after_isWhite fun c hc => List.mem_append_right _ hc }

end IsPlain

/-- A canonical numeral is the one that is written for its integer. -/
theorem IsCanonical.text_eq_numeralChars {w : Numeral} (h : w.IsCanonical) :
    w.text = Decimal.numeralChars w.value := by
  have hfirst : Decimal.digits w.digits.value = w.digits.first := by
    rw [Digits.value_eq, h.chars_eq]
    exact Decimal.digits_valueOf w.digits.first_isGroup.1 w.digits.first_isGroup.2 h.reduced
  rw [h.text_eq, ← hfirst, value]
  cases hsign : w.sign with
  | absent => rfl
  | plus => exact absurd hsign h.sign
  | minus =>
    obtain ⟨n, hn⟩ := Nat.exists_eq_succ_of_ne_zero (h.nonzero hsign)
    rw [hn]
    rfl

/-- The numeral that is written for a number with a sign. -/
def written (sign : Sign) (n : Nat) : Numeral where
  before := []
  sign := sign
  digits :=
    { first := Decimal.digits n
      more := []
      first_isGroup := by
        obtain ⟨d, ds, hd, -⟩ := Text.exists_digits_eq_cons n
        exact ⟨hd ▸ List.cons_ne_nil d ds, fun _ => Text.isDigit_of_mem_digits⟩
      more_isGroup := fun _ h => nomatch h }
  zeros := 0
  after := []
  before_isWhite := rfl
  after_isWhite := rfl

/-- The numeral that is written for an integer. -/
def ofInt : Int → Numeral
  | .ofNat n => written .absent n
  | .negSucc n => written .minus (n + 1)

/-- **The numeral of an integer is its decimal text.** -/
theorem text_ofInt (p : Int) : (ofInt p).text = Decimal.numeralChars p := by
  have hwritten (sign : Sign) (n : Nat) : (written sign n).text = sign.text ++ Decimal.digits n := by
    show [] ++ (sign.text ++ (Decimal.digits n ++ []) ++ []) ++ [] = _
    simp only [List.append_nil, List.nil_append]
  cases p with
  | ofNat n => exact hwritten .absent n
  | negSucc n => exact hwritten .minus (n + 1)

/-- If a sign and digits are what is written for an integer, they are its sign and its digits. -/
theorem sign_of_text_eq {sign : Sign} {ds : List Char} (hsign : sign ≠ .plus)
    (hds : ∀ c ∈ ds, Decimal.isDigit c = true) {p : Int}
    (h : sign.text ++ ds = Decimal.numeralChars p) :
    (sign = .minus → p ≠ 0) ∧ ds = Decimal.digits p.natAbs ∧ sign.of p.natAbs = p := by
  cases sign with
  | plus => exact absurd rfl hsign
  | absent =>
    cases p with
    | ofNat n => exact ⟨fun h => (nomatch h), h, rfl⟩
    | negSucc n =>
      have hminus : '-' ∈ ds := (show ds = '-' :: _ from h) ▸ List.mem_cons_self
      exact absurd (hds _ hminus) (by decide)
  | minus =>
    cases p with
    | ofNat n =>
      have hminus : '-' ∈ Decimal.digits n := (show '-' :: ds = Decimal.digits n from h) ▸ List.mem_cons_self
      exact absurd (Text.isDigit_of_mem_digits hminus) (by decide)
    | negSucc n => exact ⟨fun _ => Int.negSucc_ne_zero n, (List.cons.inj h).2, rfl⟩

/-- **The numeral that is written for an integer is its canonical one**, and no other: its text is
that of exactly the numerals that denote the integer and have nothing but what is needed. -/
theorem text_eq_numeralChars_iff (w : Numeral) (p : Int) :
    w.text = Decimal.numeralChars p ↔ w.IsCanonical ∧ w.value = p := by
  constructor
  · intro h
    have hplain : w.IsPlain := .of_forall_mem fun c hc => Text.mem_numeralChars (h ▸ hc)
    rw [hplain.text_eq] at h
    obtain ⟨hpos, hfirst, hof⟩ := sign_of_text_eq hplain.sign w.digits.first_isGroup.2 h
    have hvalue : w.digits.value = p.natAbs := by
      rw [Digits.value_eq, hplain.chars_eq, hfirst, Decimal.valueOf_digits]
    refine ⟨⟨hplain, ?_, fun hminus => ?_⟩, ?_⟩
    · rw [hfirst]
      exact Decimal.isReduced_digits _
    · rw [hvalue]
      exact Int.natAbs_ne_zero.2 (hpos hminus)
    · rw [value, hvalue, hof]
  · rintro ⟨hcanonical, rfl⟩
    exact hcanonical.text_eq_numeralChars

end Numeral
end Port
end LogBalancer
