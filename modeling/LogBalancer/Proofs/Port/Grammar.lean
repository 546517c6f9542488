/-
# Reading ports

`Port.read` recognises exactly the texts of `Port.Numeral` and gives the integer they denote
(`read_eq_ok_iff`).  The parts of the grammar are recognised from the inside out, and each is said in
both directions: the groups of digits, the fraction, the sign, and the white space that is trimmed.
-/

import LogBalancer.Proofs.Port.Numeral
import LogBalancer.Proofs.Text.Trim

namespace LogBalancer
namespace Port

/-! ### Digits -/

/-- An underscore is no digit. -/
theorem ne_underscore_of_isDigit {c : Char} (h : Decimal.isDigit c = true) : c ≠ '_' := by
  rintro rfl
  exact absurd h (by decide)

/-- A digit in front of something that starts with a digit. -/
theorem digits?_cons_cons {c d : Char} (hc : Decimal.isDigit c = true)
    (hd : Decimal.isDigit d = true) (s : List Char) :
    digits? (c :: d :: s) = (digits? (d :: s)).map (c :: ·) := by
  rw [digits?.eq_4 _ _ (by simp) (fun _ h => ne_underscore_of_isDigit hd (List.cons.inj h).1),
    if_pos hc]

/-- A group is read to its end. -/
theorem digits?_group {g : List Char} (h : IsGroup g) : digits? g = some g := by
  obtain ⟨c, g, rfl⟩ := List.exists_cons_of_ne_nil h.1
  induction g generalizing c with
  | nil => exact if_pos (h.2 c List.mem_cons_self)
  | cons d g ih =>
    have htail : IsGroup (d :: g) := ⟨List.cons_ne_nil d g, fun e he => h.2 e (List.mem_cons_of_mem c he)⟩
    rw [digits?_cons_cons (h.2 c List.mem_cons_self) (htail.2 d List.mem_cons_self), ih d htail]
    rfl

/-- A group is read up to the underscore after it. -/
theorem digits?_group_append {g : List Char} (h : IsGroup g) (s : List Char) :
    digits? (g ++ '_' :: s) = (digits? s).map (g ++ ·) := by
  obtain ⟨c, g, rfl⟩ := List.exists_cons_of_ne_nil h.1
  induction g generalizing c with
  | nil =>
    show digits? (c :: '_' :: s) = _
    rw [digits?, if_pos (h.2 c List.mem_cons_self)]
    rfl
  | cons d g ih =>
    have htail : IsGroup (d :: g) := ⟨List.cons_ne_nil d g, fun e he => h.2 e (List.mem_cons_of_mem c he)⟩
    have hrest := ih d htail
    rw [List.cons_append] at hrest
    rw [List.cons_append, List.cons_append,
      digits?_cons_cons (h.2 c List.mem_cons_self) (htail.2 d List.mem_cons_self), hrest,
      Option.map_map]
    rfl

/-- Groups are read as their digits. -/
theorem digits?_text (d : Digits) : digits? d.text = some d.chars := by
  obtain ⟨first, more, hfirst, hmore⟩ := d
  induction more generalizing first with
  | nil =>
    simp only [Digits.text, Digits.chars, List.flatMap_nil, List.flatten_nil, List.append_nil]
    exact digits?_group hfirst
  | cons g gs ih =>
    obtain ⟨hg, hgs⟩ := List.forall_mem_cons.1 hmore
    have hrest := ih g hg hgs
    simp only [Digits.text, Digits.chars] at hrest ⊢
    rw [List.flatMap_cons, List.cons_append, digits?_group_append hfirst, hrest,
      List.flatten_cons]
    rfl

/-- **What is read as digits are groups of digits**, with an underscore between any two. -/
theorem digits?_eq_some_iff {s ds : List Char} :
    digits? s = some ds ↔ ∃ d : Digits, d.text = s ∧ d.chars = ds := by
  constructor
  · intro h
    fun_induction digits? s generalizing ds with
    | case1 => cases h
    | case2 c hc =>
      cases h
      exact ⟨⟨[c], [], ⟨List.cons_ne_nil c [], by simpa using hc⟩, by simp⟩, rfl, rfl⟩
    | case3 c hc => cases h
    | case4 c s hc ih =>
      obtain ⟨ds', hds, rfl⟩ := Option.map_eq_some_iff.1 h
      obtain ⟨d, rfl, rfl⟩ := ih hds
      refine ⟨⟨[c], d.first :: d.more, ⟨List.cons_ne_nil c [], by simpa using hc⟩,
        List.forall_mem_cons.2 ⟨d.first_isGroup, d.more_isGroup⟩⟩, rfl, rfl⟩
    | case5 c s hc => cases h
    | case6 c s hne hunderscore hc ih =>
      obtain ⟨ds', hds, rfl⟩ := Option.map_eq_some_iff.1 h
      obtain ⟨d, rfl, rfl⟩ := ih hds
      exact ⟨⟨c :: d.first, d.more, ⟨List.cons_ne_nil c _,
        List.forall_mem_cons.2 ⟨hc, d.first_isGroup.2⟩⟩, d.more_isGroup⟩, rfl, rfl⟩
    | case7 c s hne hunderscore hc => cases h
  · rintro ⟨d, rfl, rfl⟩
    exact digits?_text d

/-! ### Fractions -/

/-- What passes as a fraction is nothing, or a point and zeros. -/
theorem isZeroFraction_iff {s : List Char} : isZeroFraction s = true ↔ ∃ n, zeroFraction n = s := by
  constructor
  · intro h
    unfold isZeroFraction at h
    split at h
    · exact ⟨0, rfl⟩
    · rename_i zeros
      rw [Bool.and_eq_true, Bool.not_eq_true', List.all_eq_true] at h
      obtain ⟨hne, hall⟩ := h
      have hzeros : zeros = List.replicate zeros.length '0' :=
        List.eq_replicate_iff.2 ⟨rfl, fun c hc => eq_of_beq (hall c hc)⟩
      cases hlength : zeros.length with
      | zero => rw [List.length_eq_zero_iff.1 hlength] at hne; cases hne
      | succ n =>
        refine ⟨n + 1, ?_⟩
        rw [zeroFraction, ← hlength, ← hzeros]
    · cases h
  · rintro ⟨n, rfl⟩
    cases n with
    | zero => rfl
    | succ n => simp [zeroFraction, isZeroFraction, List.replicate_succ]

/-- An unsigned text is read as groups of digits and a fraction. -/
theorem natural?_eq_some_iff {s : List Char} {n : Nat} :
    natural? s = some n ↔ ∃ (d : Digits) (zeros : Nat), d.text ++ zeroFraction zeros = s ∧ d.value = n := by
  unfold natural?
  simp only [Option.ite_none_right_eq_some, Option.map_eq_some_iff, digits?_eq_some_iff,
    isZeroFraction_iff]
  constructor
  · rintro ⟨⟨zeros, hzeros⟩, _, ⟨d, hd, rfl⟩, rfl⟩
    refine ⟨d, zeros, ?_, d.value_eq⟩
    rw [hd, hzeros, List.takeWhile_append_dropWhile]
  · rintro ⟨d, zeros, rfl, rfl⟩
    have hdigits : ∀ c ∈ d.text, (c != '.') = true := by
      refine d.forall_mem_text (fun c hc => bne_iff_ne.2 ?_) (by decide)
      rintro rfl
      exact absurd hc (by decide)
    have hpoint : (zeroFraction zeros).takeWhile (· != '.') = [] ∧
        (zeroFraction zeros).dropWhile (· != '.') = zeroFraction zeros := by
      cases zeros <;> exact ⟨rfl, rfl⟩
    rw [List.takeWhile_append_of_pos hdigits, List.dropWhile_append_of_pos hdigits, hpoint.1,
      hpoint.2, List.append_nil]
    exact ⟨⟨zeros, rfl⟩, d.chars, ⟨d, rfl, rfl⟩, d.value_eq.symm⟩

/-! ### Signs -/

/-- A text has some sign, and what follows the sign is read without it. -/
theorem exists_integer?_eq (s : List Char) :
    ∃ (sign : Sign) (rest : List Char), sign.text ++ rest = s ∧
      integer? s = (natural? rest).map sign.of := by
  unfold integer?
  split
  · rename_i rest
    exact ⟨.plus, rest, rfl, by cases natural? rest <;> rfl⟩
  · rename_i rest
    exact ⟨.minus, rest, rfl, by cases natural? rest <;> rfl⟩
  · exact ⟨.absent, s, rfl, by cases natural? s <;> rfl⟩

/-- A sign in front of a digit is read as that sign. -/
theorem integer?_sign (sign : Sign) {c : Char} (hc : Decimal.isDigit c = true) (s : List Char) :
    integer? (sign.text ++ c :: s) = (natural? (c :: s)).map sign.of := by
  cases sign with
  | plus =>
    show integer? ('+' :: c :: s) = _
    rw [integer?]
    cases natural? (c :: s) <;> rfl
  | minus =>
    show integer? ('-' :: c :: s) = _
    rw [integer?]
    cases natural? (c :: s) <;> rfl
  | absent =>
    have hsign : ∀ d rest, Decimal.isDigit d = false → c :: s ≠ d :: rest := by
      rintro d rest hd h
      rw [← (List.cons.inj h).1, hc] at hd
      cases hd
    show integer? (c :: s) = _
    rw [integer?.eq_3 _ (fun rest => hsign '+' rest (by decide)) fun rest => hsign '-' rest (by decide)]
    cases natural? (c :: s) <;> rfl

/-- A trimmed text is read as a sign and what is read without one. -/
theorem integer?_eq_some_iff {s : List Char} {p : Int} :
    integer? s = some p ↔ ∃ (sign : Sign) (d : Digits) (zeros : Nat),
      sign.text ++ d.text ++ zeroFraction zeros = s ∧ sign.of d.value = p := by
  constructor
  · intro h
    obtain ⟨sign, rest, rfl, hread⟩ := exists_integer?_eq s
    obtain ⟨n, hn, rfl⟩ := Option.map_eq_some_iff.1 (hread.symm.trans h)
    obtain ⟨d, zeros, rfl, rfl⟩ := natural?_eq_some_iff.1 hn
    exact ⟨sign, d, zeros, List.append_assoc _ _ _, rfl⟩
  · rintro ⟨sign, d, zeros, rfl, rfl⟩
    have hread : natural? (d.text ++ zeroFraction zeros) = some d.value :=
      natural?_eq_some_iff.2 ⟨d, zeros, rfl, rfl⟩
    obtain ⟨c, rest, htext, hc⟩ := d.exists_text_eq_cons
    rw [htext, List.cons_append] at hread
    rw [List.append_assoc, htext, List.cons_append, integer?_sign sign hc, hread]
    rfl

/-! ### Whole texts -/

/-- No character of a numeral is white but those around it. -/
theorem Numeral.isWhite_of_mem_core (w : Numeral) : ∀ c ∈ w.core, Text.isWhite c = false := by
  intro c hc
  rw [Numeral.core, List.append_assoc, List.mem_append, List.mem_append] at hc
  rcases hc with hc | hc | hc
  · cases hsign : w.sign <;> rw [hsign] at hc
    · cases hc
    · exact List.mem_singleton.1 hc ▸ (by decide)
    · exact List.mem_singleton.1 hc ▸ (by decide)
  · exact w.digits.forall_mem_text (fun _ => isWhite_of_isDigit) (by decide) c hc
  · exact forall_mem_zeroFraction (p := fun c => Text.isWhite c = false) (by decide) (by decide) _ c hc

/-- What is left of a numeral by trimming is the numeral without the white space around it. -/
theorem Numeral.trim_text (w : Numeral) : Text.trim Text.isWhite w.text = w.core :=
  Text.trim_append w.before_isWhite w.isWhite_of_mem_core w.after_isWhite

/-- **A text of any length is read exactly if it is a numeral of the grammar**, as the integer that
this denotes. -/
theorem integer?_trim_eq_some_iff {s : List Char} {p : Int} :
    integer? (Text.trim Text.isWhite s) = some p ↔ ∃ w : Numeral, w.text = s ∧ w.value = p := by
  constructor
  · intro h
    obtain ⟨before, after, hbefore, hafter, hs⟩ := Text.exists_trim Text.isWhite s
    obtain ⟨sign, d, zeros, htext, rfl⟩ := integer?_eq_some_iff.1 h
    refine ⟨⟨before, sign, d, zeros, after, hbefore, hafter⟩, ?_, rfl⟩
    rw [hs, ← htext]
    rfl
  · rintro ⟨w, rfl, rfl⟩
    rw [w.trim_text]
    exact integer?_eq_some_iff.2 ⟨w.sign, w.digits, w.zeros, rfl, rfl⟩

/-- **A text is read as a port exactly if it is a numeral of at most 4300 characters**, and then as
the integer that the numeral denotes. -/
theorem read_eq_ok_iff {s : List Char} {p : Int} :
    read s = .ok p ↔ s.length ≤ Decimal.maxDigits ∧ ∃ w : Numeral, w.text = s ∧ w.value = p := by
  rw [← integer?_trim_eq_some_iff]
  unfold read
  split_ifs with hlength
  · exact ⟨fun h => (nomatch h), fun h => absurd h.1 (by omega)⟩
  · cases integer? (Text.trim Text.isWhite s) with
    | none => exact ⟨fun h => (nomatch h), fun h => (nomatch h.2)⟩
    | some n =>
      have hlength' : s.length ≤ Decimal.maxDigits := by omega
      exact ⟨fun h => ⟨hlength', congrArg some (Except.ok.inj h)⟩,
        fun h => congrArg Except.ok (Option.some.inj h.2)⟩

end Port
end LogBalancer
