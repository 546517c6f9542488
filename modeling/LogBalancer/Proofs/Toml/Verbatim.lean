/-
# Strings put in as they are

What becomes of a string that is put between quotes as it is.  It is read as itself exactly if it
holds no quote, no backslash and no control character but the tab (`string?_eq_self_iff`).

A string with one of these can still be read, but as another one: a quote ends it early, and an
escape stands for one character where at least two were written.  So what is read up to the closing
quote is shorter than what was written, unless that quote belongs to an escape and the reading goes
on behind it; and then what is read has a quote where the string has none (`read_of_no_quote`).
-/

import LogBalancer.Proofs.Toml.Reading

namespace LogBalancer
namespace Toml

/-- Whether every character of a string stands for itself between quotes. -/
def isVerbatim (s : String) : Bool :=
  s.toList.all fun c => c != '"' && c != '\\' && quotation.isPlain c

/-- A string stands for itself if it has no quote, no backslash and no character that a string must not
have. -/
theorem isVerbatim_iff (s : String) :
    isVerbatim s = true ↔ ∀ c ∈ s.toList, c ≠ '"' ∧ c ≠ '\\' ∧ quotation.isPlain c = true := by
  simp only [isVerbatim, List.all_eq_true, Bool.and_eq_true, bne_iff_ne, ne_eq, and_assoc]

/-! ### Escapes before a quote -/

/-- Hexadecimal digits end before a quote. -/
theorem readHex_before_quote {width n m : Nat} {p after rest : List Char} (hp : '"' ∉ p)
    (h : Text.readHex width n (p ++ '"' :: after) = some (m, rest)) :
    ∃ q, q <:+ p ∧ rest = q ++ '"' :: after := by
  induction width generalizing n p with
  | zero => exact ⟨p, List.suffix_refl p, (Prod.mk.inj (Option.some.inj h)).2.symm⟩
  | succ width ih =>
    cases p with
    | nil => cases h
    | cons c p =>
      rw [List.mem_cons, not_or] at hp
      rw [List.cons_append, Text.readHex] at h
      split at h
      · obtain ⟨q, hq, hrest⟩ := ih hp.2 h
        exact ⟨q, hq.trans (List.suffix_cons c p), hrest⟩
      · cases h

/-- An escape before a quote ends before it, unless it is the escape of the quote. -/
theorem escape?_before_quote {p after rest : List Char} {c : Char} (hp : '"' ∉ p)
    (h : escape? (p ++ '"' :: after) = some (c, rest)) :
    c = '"' ∧ p = [] ∨ ∃ q, q.length < p.length ∧ '"' ∉ q ∧ rest = q ++ '"' :: after := by
  cases p with
  | nil => exact .inl ⟨(Prod.mk.inj (Option.some.inj h)).1.symm, rfl⟩
  | cons d p =>
    rw [List.mem_cons, not_or] at hp
    have hsuffix {q : List Char} (hq : q <:+ p) (hrest : rest = q ++ '"' :: after) :
        ∃ q, q.length < (d :: p).length ∧ '"' ∉ q ∧ rest = q ++ '"' :: after :=
      ⟨q, Nat.lt_succ_of_le hq.length_le, fun hmem => hp.2 (hq.subset hmem), hrest⟩
    have hunicode (width : Nat) (h : unicodeEscape? width (p ++ '"' :: after) = some (c, rest)) :
        ∃ q, q.length < (d :: p).length ∧ '"' ∉ q ∧ rest = q ++ '"' :: after := by
      unfold unicodeEscape? at h
      split at h
      · rename_i m rest' hread
        obtain ⟨q, hq, hrest⟩ := readHex_before_quote hp.2 hread
        split at h
        · obtain ⟨-, rfl⟩ := Prod.mk.inj (Option.some.inj h)
          exact hsuffix hq hrest
        · cases h
      · cases h
    rw [List.cons_append, escape?] at h
    refine .inr ?_
    split at h
    · exact hunicode 4 h
    split at h
    · exact hunicode 8 h
    · obtain ⟨e, -, he⟩ := Option.map_eq_some_iff.1 h
      exact hsuffix (List.suffix_refl p) (Prod.mk.inj he).2.symm

/-! ### Strings -/

/-- **Reading what has no quote before one**: it stands for itself, or what is read is shorter, or
it has a quote before the place where the other ends. -/
theorem read_of_no_quote {p after t rest : List Char} (hp : '"' ∉ p)
    (h : quotation.read (p ++ '"' :: after) = some (t, rest)) :
    (t = p ∧ rest = after ∧ ∀ c ∈ p, c ≠ '"' ∧ c ≠ '\\' ∧ quotation.isPlain c = true) ∨
      t.length < p.length ∨ ∃ i < p.length, t[i]? = some '"' := by
  induction hn : p.length using Nat.strongRecOn generalizing p t with
  | ind n ih =>
    subst hn
    cases p with
    | nil =>
      obtain ⟨rfl, rfl⟩ := Prod.mk.inj (Option.some.inj ((quotation.read_quote after).symm.trans h))
      exact .inl ⟨rfl, rfl, fun _ h => absurd h List.not_mem_nil⟩
    | cons c p =>
      have hpc := hp
      rw [List.mem_cons, not_or] at hp
      have hquote : c ≠ '"' := fun hc => hp.1 hc.symm
      rw [List.cons_append, Text.Quotation.read, if_neg hquote] at h
      split at h
      · -- an escape stands for one character, and what is left of `p` is shorter by two
        split at h
        · cases h
        rename_i d s hescape
        obtain ⟨⟨t', r⟩, hread, he⟩ := Option.map_eq_some_iff.1 h
        obtain ⟨rfl, rfl⟩ := Prod.mk.inj he
        rcases escape?_before_quote hp.2 hescape with ⟨rfl, rfl⟩ | ⟨q, hlength, hq, rfl⟩
        · exact .inr (.inr ⟨0, Nat.zero_lt_one, rfl⟩)
        · rcases ih q.length (Nat.lt_succ_of_lt hlength) hq hread rfl with
            ⟨rfl, -, -⟩ | hshort | ⟨i, hi, hget⟩
          · exact .inr (.inl (Nat.succ_lt_succ hlength))
          · exact .inr (.inl (Nat.succ_lt_succ (Nat.lt_trans hshort hlength)))
          · exact .inr (.inr ⟨i + 1, Nat.succ_lt_succ (Nat.lt_trans hi hlength), hget⟩)
      split at h
      · rename_i hslash hplain
        obtain ⟨⟨t', r⟩, hread, he⟩ := Option.map_eq_some_iff.1 h
        obtain ⟨rfl, rfl⟩ := Prod.mk.inj he
        rcases ih p.length (Nat.lt_succ_self _) hp.2 hread rfl with
          ⟨rfl, rfl, hall⟩ | hshort | ⟨i, hi, hget⟩
        · exact .inl ⟨rfl, rfl, List.forall_mem_cons.2 ⟨⟨hquote, hslash, hplain⟩, hall⟩⟩
        · exact .inr (.inl (Nat.succ_lt_succ hshort))
        · exact .inr (.inr ⟨i + 1, Nat.succ_lt_succ hi, hget⟩)
      · cases h

/-- A string is read as its characters. -/
theorem string?_eq_some_iff {s rest : List Char} {t : String} :
    string? s = some (t, rest) ↔ quotation.read s = some (t.toList, rest) := by
  unfold string?
  constructor
  · intro h
    obtain ⟨⟨u, r⟩, hr, he⟩ := Option.map_eq_some_iff.1 h
    obtain ⟨rfl, rfl⟩ := Prod.mk.inj he
    rw [hr, String.toList_ofList]
  · intro h
    rw [h, Option.map_some]
    show some (String.ofList t.toList, rest) = _
    rw [String.ofList_toList]

/-- **A string that is put in as it is is read as itself exactly if it is verbatim.** -/
theorem string?_eq_self_iff (s : String) (after rest : List Char) :
    string? (s.toList ++ '"' :: after) = some (s, rest) ↔ isVerbatim s = true ∧ rest = after := by
  rw [string?_eq_some_iff, isVerbatim_iff]
  constructor
  · intro h
    by_cases hquote : '"' ∈ s.toList
    · -- up to the first quote there is none, so that what is read differs from `s` before it
      obtain ⟨p, q, hs, hp⟩ := List.eq_append_cons_of_mem hquote
      have hlength : p.length < s.toList.length := by
        rw [hs, List.length_append, List.length_cons]
        omega
      have hfirst : quotation.read (p ++ '"' :: (q ++ '"' :: after)) = some (s.toList, rest) := by
        rw [← h, hs, List.append_assoc, List.cons_append]
      rcases read_of_no_quote hp hfirst with ⟨hself, -, -⟩ | hshort | ⟨i, hi, hget⟩
      · exact absurd (hself ▸ hlength) (Nat.lt_irrefl _)
      · exact absurd (Nat.lt_trans hlength hshort) (Nat.lt_irrefl _)
      · rw [hs, List.getElem?_append_left hi] at hget
        exact absurd (List.mem_of_getElem? hget) hp
    · rcases read_of_no_quote hquote h with ⟨-, hrest, hall⟩ | hshort | ⟨i, hi, hget⟩
      · exact ⟨hall, hrest⟩
      · exact absurd hshort (Nat.lt_irrefl _)
      · exact absurd (List.mem_of_getElem? hget) hquote
  · rintro ⟨hall, rfl⟩
    exact quotation.read_plain_chars hall rest

end Toml
end LogBalancer
