/-
# The number of problems

Which problems a list has depends on its order, since the first entry with a name or a port owns it
and only the later ones are at fault.  How many it has does not (`length_problemsOf`): one for each
blank name, one for each port out of range, and one for each name that is not blank and each port
beyond the different ones.  So whether a list is valid does not depend on its order either
(`verdict_independent_of_order`).
-/

import LogBalancer.Proofs.Problem.Report
import Mathlib.Data.Finset.Card

namespace LogBalancer

section Repeats

variable {α : Type} [DecidableEq α]

/-- The number of members beyond the different ones. -/
def repeats (xs : List α) : Nat := xs.length - xs.toFinset.card

/-- A member at the end is beyond the different ones exactly if it stands before. -/
theorem repeats_concat (xs : List α) (x : α) :
    repeats (xs ++ [x]) = repeats xs + if x ∈ xs then 1 else 0 := by
  have hle : xs.toFinset.card ≤ xs.length := xs.toFinset_card_le
  have hset : (xs ++ [x]).toFinset = insert x xs.toFinset := by
    rw [List.toFinset_append, Finset.union_comm]
    rfl
  rw [repeats, repeats, hset, List.length_append, List.length_singleton]
  by_cases hx : x ∈ xs
  · rw [Finset.insert_eq_of_mem (List.mem_toFinset.2 hx), if_pos hx]
    omega
  · rw [Finset.card_insert_of_notMem (mt List.mem_toFinset.1 hx), if_neg hx]
    omega

/-- The order does not matter to how many members are repeated. -/
theorem repeats_perm {xs ys : List α} (h : xs.Perm ys) : repeats xs = repeats ys := by
  rw [repeats, repeats, h.length_eq, List.toFinset_eq_of_perm xs ys h]

end Repeats

/-- The names of a list that are not blank. -/
def givenNames (teams : List Team) : List String :=
  (teams.map Team.name).filter fun name => !Text.allBlank name

/-- How many problems a list has: for its blank names, for its ports out of range, for the names that
are not blank beyond the different ones, and for the ports beyond the different ones. -/
def problemCount (teams : List Team) : Nat :=
  teams.countP (fun t => Text.allBlank t.name) +
  teams.countP (fun t => !decide (minPort ≤ t.port ∧ t.port ≤ maxPort)) +
  repeats (givenNames teams) + repeats (teams.map Team.port)

/-- **The order of the teams does not matter to the number of problems.** -/
theorem problemCount_perm {teams others : List Team} (h : others.Perm teams) :
    problemCount others = problemCount teams := by
  have hnames : (givenNames others).Perm (givenNames teams) := (h.map Team.name).filter _
  rw [problemCount, problemCount, h.countP_eq, h.countP_eq, repeats_perm hnames,
    repeats_perm (h.map Team.port)]

/-- **How many flaws an entry has** after some others. -/
theorem length_flawsAfter (before : List Team) (t : Team) :
    (Problem.flawsAfter before t).length =
      (if Text.allBlank t.name then 1 else 0) +
      (if minPort ≤ t.port ∧ t.port ≤ maxPort then 0 else 1) +
      (if Text.allBlank t.name then 0 else if t.name ∈ before.map Team.name then 1 else 0) +
      (if t.port ∈ before.map Team.port then 1 else 0) := by
  have hname : (before.findIdx? (·.name == t.name)).isSome = true ↔
      t.name ∈ before.map Team.name := by
    rw [List.findIdx?_isSome, List.any_eq_true, List.mem_map]
    simp only [beq_iff_eq]
  have hport : (before.find? (·.port == t.port)).isSome = true ↔
      t.port ∈ before.map Team.port := by
    rw [List.find?_isSome, List.mem_map]
    simp only [beq_iff_eq]
  unfold Problem.flawsAfter
  simp only [List.length_append, apply_ite List.length, Option.length_toList, Option.isSome_map,
    List.length_singleton, List.length_nil, hname, hport]

/-- An entry at the end adds its flaws to the count. -/
theorem problemCount_concat (teams : List Team) (t : Team) :
    problemCount (teams ++ [t]) =
      problemCount teams + (Problem.flawsAfter teams t).length := by
  have hports : repeats ((teams ++ [t]).map Team.port) = repeats (teams.map Team.port) +
      if t.port ∈ teams.map Team.port then 1 else 0 := by
    rw [List.map_append, List.map_singleton, repeats_concat]
  have hnames : repeats (givenNames (teams ++ [t])) = repeats (givenNames teams) +
      if Text.allBlank t.name then 0 else if t.name ∈ teams.map Team.name then 1 else 0 := by
    have hgiven : givenNames (teams ++ [t]) =
        givenNames teams ++ if Text.allBlank t.name then [] else [t.name] := by
      rw [givenNames, List.map_append, List.filter_append]
      cases hblank : Text.allBlank t.name <;> simp [givenNames, hblank]
    rw [hgiven]
    cases hblank : Text.allBlank t.name with
    | true => simp
    | false =>
      have hmem : t.name ∈ givenNames teams ↔ t.name ∈ teams.map Team.name := by
        simp [givenNames, hblank]
      simp [repeats_concat, hmem]
  rw [length_flawsAfter, problemCount, problemCount, hports, hnames, List.countP_append,
    List.countP_append, List.countP_singleton, List.countP_singleton]
  have hrange : (if (!decide (minPort ≤ t.port ∧ t.port ≤ maxPort)) = true then 1 else 0) =
      if minPort ≤ t.port ∧ t.port ≤ maxPort then 0 else 1 := by
    by_cases h : minPort ≤ t.port ∧ t.port ≤ maxPort <;> simp [h]
  rw [hrange]
  omega

/-- **The number of problems of a list**, by induction from its end. -/
theorem length_problemsOf (teams : List Team) : (problemsOf teams).length = problemCount teams := by
  induction teams using List.reverseRec with
  | nil => rfl
  | append_singleton teams t ih =>
    rw [problemsOf_concat, List.length_append, List.length_map, ih, problemCount_concat]

/-! ### The verdict -/

/-- A list whose ports can be written is found to have as many problems as it counts. -/
theorem exists_findProblems_of_isWritable {teams : List Team}
    (h : ∀ t ∈ teams, Decimal.isWritable t.port = true) :
    ∃ problems, findProblems teams = .ok problems ∧ problems.length = problemCount teams := by
  refine ⟨_, findProblems_eq_words h, ?_⟩
  rw [List.length_map, length_problemsOf]

/-- **The verdict on a list does not depend on its order.**  If every port has at most 4300 digits, a
list has as many problems as it has blank names, ports out of range, names that are not blank beyond
the different ones and ports beyond the different ones.  Each list with the same entries has as
many, and is accepted if the one is; and a list is accepted exactly if its names are not blank, its
ports are in range, and both are pairwise different. -/
theorem verdict_independent_of_order {teams : List Team}
    (h : ∀ t ∈ teams, (Decimal.digits t.port.natAbs).length ≤ 4300) :
    (∃ problems, findProblems teams = .ok problems ∧
      let names := (teams.map Team.name).filter fun name => !Text.allBlank name
      let ports := teams.map Team.port
      problems.length =
        teams.countP (fun t => Text.allBlank t.name) +
        teams.countP (fun t => !decide (1 ≤ t.port ∧ t.port ≤ 65535)) +
        (names.length - names.toFinset.card) + (teams.length - ports.toFinset.card)) ∧
    (∀ others, others.Perm teams →
      (∃ problems reordered, findProblems teams = .ok problems ∧
        findProblems others = .ok reordered ∧ reordered.length = problems.length) ∧
      (validateTeams others = .ok () ↔ validateTeams teams = .ok ())) ∧
    (validateTeams teams = .ok () ↔
      (∀ t ∈ teams, Text.allBlank t.name = false) ∧ (teams.map Team.name).Nodup ∧
      (∀ t ∈ teams, 1 ≤ t.port ∧ t.port ≤ 65535) ∧ (teams.map Team.port).Nodup) := by
  have hwritable : ∀ t ∈ teams, Decimal.isWritable t.port = true :=
    fun t ht => (Decimal.isWritable_iff t.port).2 (h t ht)
  obtain ⟨problems, hproblems, hcount⟩ := exists_findProblems_of_isWritable hwritable
  -- a list is accepted exactly if the problems that are found are none
  have haccepted : ∀ {ts : List Team} {ps : List String}, findProblems ts = .ok ps →
      (validateTeams ts = .ok () ↔ ps.length = 0) := by
    intro ts ps hps
    rw [validateTeams_eq_ok_iff_findProblems, hps, List.length_eq_zero_iff]
    exact ⟨Except.ok.inj, congrArg _⟩
  refine ⟨⟨problems, hproblems, ?_⟩, ?_, ?_⟩
  · have hlength : (teams.map Team.port).length = teams.length := List.length_map _
    intro names ports
    rw [hcount, ← hlength]
    rfl
  · intro others hperm
    have hothers : ∀ t ∈ others, Decimal.isWritable t.port = true :=
      fun t ht => hwritable t (hperm.mem_iff.1 ht)
    obtain ⟨reordered, hreordered, hcount'⟩ := exists_findProblems_of_isWritable hothers
    have hsame : reordered.length = problems.length := by
      rw [hcount', hcount, problemCount_perm hperm]
    refine ⟨⟨problems, reordered, hproblems, hreordered, hsame⟩, ?_⟩
    rw [haccepted hproblems, haccepted hreordered, hsame]
  · rw [validateTeams_eq_ok_iff]
    constructor
    · intro hvalid
      exact ⟨hvalid.named, hvalid.names, hvalid.inRange, hvalid.ports⟩
    · rintro ⟨hnamed, hnames, hrange, hports⟩
      exact ⟨hnamed, hrange, hnames, hports⟩

/-- A team that stands twice, behind or before one without a name and a port. -/
theorem verdict_independent_of_order_of_repeated_team :
    ∃ problems reordered,
      findProblems [⟨7, "a", false⟩, ⟨0, " ", false⟩, ⟨7, "a", true⟩] = .ok problems ∧
      findProblems [⟨0, " ", false⟩, ⟨7, "a", true⟩, ⟨7, "a", false⟩] = .ok reordered ∧
      problems.length = 4 ∧ reordered.length = 4 ∧
      validateTeams [⟨7, "a", false⟩, ⟨0, " ", false⟩, ⟨7, "a", true⟩] ≠ .ok () := by
  have hports : ∀ t ∈ ([⟨7, "a", false⟩, ⟨0, " ", false⟩, ⟨7, "a", true⟩] : List Team),
      (Decimal.digits t.port.natAbs).length ≤ 4300 := by decide +kernel
  obtain ⟨⟨problems, hproblems, hcount⟩, hperm, haccepted⟩ := verdict_independent_of_order hports
  obtain ⟨⟨problems', reordered, hproblems', hreordered, hsame⟩, -⟩ :=
    hperm [⟨0, " ", false⟩, ⟨7, "a", true⟩, ⟨7, "a", false⟩] (by decide)
  obtain rfl := Except.ok.inj (hproblems.symm.trans hproblems')
  have hfour : problems.length = 4 := hcount.trans (by decide +kernel)
  refine ⟨problems, reordered, hproblems, hreordered, hfour, hsame.trans hfour, ?_⟩
  rw [ne_eq, haccepted]
  exact fun hvalid => absurd hvalid.2.1 (by decide)

end LogBalancer
