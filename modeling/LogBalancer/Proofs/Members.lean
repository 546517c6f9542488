/-
# Members with names

Lists of named values are used in two ways: looked up by name, and set by name.  A name that is
not there is looked up in vain (`lookup_eq_none_iff_not_mem`) and set at the end
(`setMember_of_not_mem`), so names that are all different are set one after the other
(`foldl_setMember`).  Whether they are or not, the last value that is set for a name is the one that
is found (`lookup_foldl_setMember`), and the names stand in the order in which they first occur
(`map_fst_foldl_setMember`).
-/

import LogBalancer.Document.Json
import Mathlib.Data.List.Induction

namespace LogBalancer

section Lookup

variable {κ α : Type} [DecidableEq κ] {k : κ} {ms : List (κ × α)}

/-- A key has no value exactly if it is none of the keys. -/
theorem lookup_eq_none_iff_not_mem : ms.lookup k = none ↔ k ∉ ms.map Prod.fst := by
  rw [List.lookup_eq_none_iff, List.mem_map]
  constructor
  · rintro h ⟨p, hp, rfl⟩
    exact absurd (h p hp) (by simp)
  · intro h p hp
    have hne : k ≠ p.1 := fun he => h ⟨p, hp, he.symm⟩
    simpa using hne

/-- A member that is put last is found, if none before it has its key. -/
theorem lookup_append_last (h : k ∉ ms.map Prod.fst) (v : α) :
    (ms ++ [(k, v)]).lookup k = some v := by
  rw [List.lookup_append, lookup_eq_none_iff_not_mem.2 h]
  exact List.lookup_cons_self

/-- A value whose name is there once is found. -/
theorem lookup_of_mem {v : α} (hnames : (ms.map Prod.fst).Nodup) (h : (k, v) ∈ ms) :
    ms.lookup k = some v := by
  induction ms with
  | nil => cases h
  | cons m ms ih =>
    rw [List.map_cons, List.nodup_cons] at hnames
    rcases List.mem_cons.1 h with rfl | hrest
    · exact List.lookup_cons_self
    · have hne : k ≠ m.1 := fun he => hnames.1 (he ▸ List.mem_map_of_mem hrest)
      rw [List.lookup_cons, beq_false_of_ne hne]
      exact ih hnames.2 hrest

end Lookup

/-- The first of some new names can be put at the end, and the others are still new. -/
theorem nodup_append_cons {κ α : Type} {k : κ} {ms : List (κ × α)} {ks : List κ}
    (h : (ms.map Prod.fst ++ k :: ks).Nodup) (v : α) :
    k ∉ ms.map Prod.fst ∧ ((ms ++ [(k, v)]).map Prod.fst ++ ks).Nodup := by
  constructor
  · intro hk
    exact (List.nodup_append.1 h).2.2 k hk k List.mem_cons_self rfl
  · rw [List.map_append, List.append_assoc]
    exact h

section Set

variable {α : Type} {k : String} {ms : List (String × α)}

/-- A name that is not there is set at the end. -/
theorem setMember_of_not_mem (h : k ∉ ms.map Prod.fst) (v : α) :
    setMember k v ms = ms ++ [(k, v)] := by
  induction ms with
  | nil => rfl
  | cons m ms ih =>
    rw [List.map_cons, List.mem_cons, not_or] at h
    rw [setMember, if_neg fun he => h.1 he.symm, ih h.2, List.cons_append]

/-- The last name is set in its place. -/
theorem setMember_append_last (h : k ∉ ms.map Prod.fst) (v w : α) :
    setMember k w (ms ++ [(k, v)]) = ms ++ [(k, w)] := by
  induction ms with
  | nil => exact if_pos rfl
  | cons m ms ih =>
    rw [List.map_cons, List.mem_cons, not_or] at h
    rw [List.cons_append, setMember, if_neg fun he => h.1 he.symm, ih h.2, List.cons_append]

/-- Names that are all different are set one after the other. -/
theorem foldl_setMember {β : Type} (name : β → String) (value : β → α) {l : List β}
    (h : (ms.map Prod.fst ++ l.map name).Nodup) :
    l.foldl (fun ms b => setMember (name b) (value b) ms) ms =
      ms ++ l.map fun b => (name b, value b) := by
  induction l generalizing ms with
  | nil => exact (List.append_nil ms).symm
  | cons b l ih =>
    obtain ⟨hb, htail⟩ := nodup_append_cons h (value b)
    rw [List.foldl_cons, setMember_of_not_mem hb, ih htail, List.append_assoc]
    rfl

/-- A member that was set has the value that it was set to. -/
theorem lookup_setMember_self (k : String) (v : α) (ms : List (String × α)) :
    (setMember k v ms).lookup k = some v := by
  induction ms with
  | nil => exact List.lookup_cons_self
  | cons m ms ih =>
    rw [setMember]
    split
    · rename_i hk
      rw [← hk]
      exact List.lookup_cons_self
    · rename_i hk
      rw [List.lookup_cons, beq_false_of_ne fun he => hk he.symm]
      exact ih

/-- Setting a member keeps the values of all others. -/
theorem lookup_setMember_of_ne {l : String} (h : l ≠ k) (v : α) (ms : List (String × α)) :
    (setMember k v ms).lookup l = ms.lookup l := by
  induction ms with
  | nil => rw [setMember, List.lookup_cons, beq_false_of_ne h]
  | cons m ms ih =>
    rw [setMember]
    split
    · rename_i hk
      rw [List.lookup_cons, List.lookup_cons, hk, beq_false_of_ne h]
    · rw [List.lookup_cons, List.lookup_cons, ih]

/-- Setting other names does not change what is found. -/
theorem lookup_foldl_setMember_of_ne {β : Type} (name : β → String) (value : β → α) {l : List β}
    (h : ∀ b ∈ l, name b ≠ k) (ms : List (String × α)) :
    (l.foldl (fun ms b => setMember (name b) (value b) ms) ms).lookup k = ms.lookup k := by
  induction l generalizing ms with
  | nil => rfl
  | cons b l ih =>
    rw [List.forall_mem_cons] at h
    rw [List.foldl_cons, ih h.2, lookup_setMember_of_ne h.1.symm]

/-- The last value that is set for a name is found. -/
theorem lookup_foldl_setMember {β : Type} (name : β → String) (value : β → α) (before : List β)
    {b : β} {after : List β} (h : ∀ c ∈ after, name c ≠ name b) (ms : List (String × α)) :
    ((before ++ b :: after).foldl (fun ms b => setMember (name b) (value b) ms) ms).lookup
      (name b) = some (value b) := by
  rw [List.foldl_append, List.foldl_cons, lookup_foldl_setMember_of_ne name value h,
    lookup_setMember_self]

/-- A name keeps its place, and is put at the end if it has none. -/
theorem map_fst_setMember (k : String) (v : α) (ms : List (String × α)) :
    (setMember k v ms).map Prod.fst =
      if k ∈ ms.map Prod.fst then ms.map Prod.fst else ms.map Prod.fst ++ [k] := by
  induction ms with
  | nil => rfl
  | cons m ms ih =>
    obtain ⟨l, w⟩ := m
    rw [setMember]
    by_cases hl : l = k
    · simp [hl]
    · have hne : k ≠ l := fun he => hl he.symm
      rw [if_neg hl, List.map_cons, ih]
      by_cases hk : k ∈ ms.map Prod.fst
      · simp [hk]
      · simp [hk, hne]

/-- Setting a name does not make it stand twice. -/
theorem nodup_setMember (h : (ms.map Prod.fst).Nodup) (k : String) (v : α) :
    ((setMember k v ms).map Prod.fst).Nodup := by
  rw [map_fst_setMember]
  by_cases hk : k ∈ ms.map Prod.fst
  · rwa [if_pos hk]
  · rw [if_neg hk, List.nodup_append]
    refine ⟨h, List.nodup_cons.2 ⟨List.not_mem_nil, List.nodup_nil⟩, fun a ha b hb => ?_⟩
    rw [List.mem_singleton.1 hb]
    exact fun he => hk (he ▸ ha)

/-- After setting a member, all members are that one and those before. -/
theorem mem_setMember {m : String × α} {v : α} (h : m ∈ setMember k v ms) :
    m = (k, v) ∨ m ∈ ms := by
  induction ms with
  | nil => exact .inl (List.mem_singleton.1 h)
  | cons n ms ih =>
    rw [setMember] at h
    split at h
    · rename_i hn
      rcases List.mem_cons.1 h with rfl | hrest
      · exact .inl (congrArg (·, v) hn)
      · exact .inr (List.mem_cons_of_mem n hrest)
    · rcases List.mem_cons.1 h with rfl | hrest
      · exact .inr List.mem_cons_self
      · exact (ih hrest).imp_right (List.mem_cons_of_mem n)

/-- An item at the end is kept exactly if it does not occur before. -/
theorem eraseDups_concat (ks : List String) (k : String) :
    (ks ++ [k]).eraseDups = if k ∈ ks then ks.eraseDups else ks.eraseDups ++ [k] := by
  rw [List.eraseDups_append]
  by_cases hk : k ∈ ks
  · simp [List.removeAll, hk]
  · simp [List.removeAll, hk, List.eraseDups_cons]

section Fold

variable {β : Type} (name : β → String) (value : β → α)

/-- **Names that are set stand in the order in which they first occur**, by induction from the end:
the last name is put at the end exactly if it does not occur before. -/
theorem map_fst_foldl_setMember (l : List β) :
    (l.foldl (fun ms b => setMember (name b) (value b) ms) []).map Prod.fst =
      (l.map name).eraseDups := by
  induction l using List.reverseRec with
  | nil => rfl
  | append_singleton l b ih =>
    rw [List.foldl_append, List.foldl_cons, List.foldl_nil, map_fst_setMember, ih, List.map_append,
      List.map_singleton, eraseDups_concat]
    simp only [List.mem_eraseDups]

/-- No name is there twice. -/
theorem nodup_foldl_setMember (l : List β) :
    ((l.foldl (fun ms b => setMember (name b) (value b) ms) []).map Prod.fst).Nodup := by
  induction l using List.reverseRec with
  | nil => exact List.nodup_nil
  | append_singleton l b ih =>
    rw [List.foldl_append]
    exact nodup_setMember ih (name b) (value b)

/-- What is there has been set. -/
theorem mem_foldl_setMember {l : List β} {m : String × α}
    (h : m ∈ l.foldl (fun ms b => setMember (name b) (value b) ms) []) :
    ∃ b ∈ l, m = (name b, value b) := by
  induction l using List.reverseRec with
  | nil => cases h
  | append_singleton l b ih =>
    rw [List.foldl_append] at h
    rcases mem_setMember h with hlast | hbefore
    · exact ⟨b, List.mem_append_right l List.mem_cons_self, hlast⟩
    · obtain ⟨c, hc, hm⟩ := ih hbefore
      exact ⟨c, List.mem_append_left _ hc, hm⟩

end Fold

end Set

end LogBalancer
