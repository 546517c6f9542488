/-
# Valid team lists

A team list has no problems exactly if every name is there and is its own and every port is a port
and is its own (`findProblems_eq_nil_iff`), and exactly then it is accepted
(`validateTeams_eq_ok_iff`).

The list is read once, with tables of first owners.  As long as nothing is wrong, the tables hold
the names and ports of all entries so far, so an entry without flaws has a name and a port that are
in no table (`flawsOf_eq_nil_iff`).
-/

import LogBalancer.Problem
import LogBalancer.Proofs.Members

namespace LogBalancer

/-- A team list worth serving. -/
structure IsValid (teams : List Team) : Prop where
  named : ∀ t ∈ teams, Text.allBlank t.name = false
  inRange : ∀ t ∈ teams, minPort ≤ t.port ∧ t.port ≤ maxPort
  names : (teams.map Team.name).Nodup
  ports : (teams.map Team.port).Nodup

namespace Problem

/-- **An entry has no flaw exactly if its name and its port are good and new.** -/
theorem flawsOf_eq_nil_iff (owners : Owners) (t : Team) :
    flawsOf owners t = [] ↔ Text.allBlank t.name = false ∧
      (minPort ≤ t.port ∧ t.port ≤ maxPort) ∧
      t.name ∉ owners.names.map Prod.fst ∧ t.port ∉ owners.ports.map Prod.fst := by
  have hrange : (if minPort ≤ t.port ∧ t.port ≤ maxPort then [] else [Flaw.portRange t.port]) = [] ↔
      minPort ≤ t.port ∧ t.port ≤ maxPort := by
    by_cases h : minPort ≤ t.port ∧ t.port ≤ maxPort
    · exact ⟨fun _ => h, fun _ => if_pos h⟩
    · rw [if_neg h]
      exact ⟨fun hcons => absurd hcons (List.cons_ne_nil _ _), fun h' => absurd h' h⟩
  simp only [flawsOf, List.append_eq_nil_iff, hrange, Option.toList_eq_nil_iff,
    Option.map_eq_none_iff, lookup_eq_none_iff_not_mem]
  cases ht : Text.allBlank t.name with
  | true => simp
  | false =>
    simp only [Bool.false_eq_true, if_false, Option.toList_eq_nil_iff, Option.map_eq_none_iff,
      lookup_eq_none_iff_not_mem, true_and, and_assoc]

/-- An entry without flaws becomes the owner of its name and of its port. -/
theorem Owners.add_of_flawsOf_eq_nil {owners : Owners} {index : Nat} {t : Team}
    (h : flawsOf owners t = []) :
    owners.add index t = ⟨(t.name, index) :: owners.names, (t.port, t.name) :: owners.ports⟩ := by
  obtain ⟨hnamed, -, hname, hport⟩ := (flawsOf_eq_nil_iff owners t).1 h
  have hnone : owners.names.lookup t.name = none := lookup_eq_none_iff_not_mem.2 hname
  have hnone' : owners.ports.lookup t.port = none := lookup_eq_none_iff_not_mem.2 hport
  simp [Owners.add, hnamed, hnone, hnone']

/-- **The rest of a list has no problems exactly if it is valid and owns nothing that is in the
tables.** -/
theorem scan_eq_nil_iff (owners : Owners) (index : Nat) (teams : List Team) :
    scan owners index teams = [] ↔ IsValid teams ∧
      ∀ t ∈ teams, t.name ∉ owners.names.map Prod.fst ∧ t.port ∉ owners.ports.map Prod.fst := by
  induction teams generalizing owners index with
  | nil =>
    refine ⟨fun _ => ⟨⟨?_, ?_, List.nodup_nil, List.nodup_nil⟩, ?_⟩, fun _ => rfl⟩ <;>
      exact fun _ ht => absurd ht List.not_mem_nil
  | cons t ts ih =>
    rw [scan, List.append_eq_nil_iff, List.map_eq_nil_iff]
    constructor
    · rintro ⟨hflaws, hrest⟩
      obtain ⟨hnamed, hrange, hname, hport⟩ := (flawsOf_eq_nil_iff owners t).1 hflaws
      rw [Owners.add_of_flawsOf_eq_nil hflaws, ih] at hrest
      obtain ⟨hvalid, hnew⟩ := hrest
      simp only [List.map_cons, List.mem_cons, not_or] at hnew
      refine ⟨⟨?_, ?_, ?_, ?_⟩, ?_⟩
      · exact List.forall_mem_cons.2 ⟨hnamed, hvalid.named⟩
      · exact List.forall_mem_cons.2 ⟨hrange, hvalid.inRange⟩
      · refine List.nodup_cons.2 ⟨fun hm => ?_, hvalid.names⟩
        obtain ⟨u, hu, he⟩ := List.mem_map.1 hm
        exact (hnew u hu).1.1 he
      · refine List.nodup_cons.2 ⟨fun hm => ?_, hvalid.ports⟩
        obtain ⟨u, hu, he⟩ := List.mem_map.1 hm
        exact (hnew u hu).2.1 he
      · exact List.forall_mem_cons.2 ⟨⟨hname, hport⟩, fun u hu => ⟨(hnew u hu).1.2, (hnew u hu).2.2⟩⟩
    · rintro ⟨hvalid, hnew⟩
      obtain ⟨hnamed, hnamed'⟩ := List.forall_mem_cons.1 hvalid.named
      obtain ⟨hrange, hrange'⟩ := List.forall_mem_cons.1 hvalid.inRange
      obtain ⟨hname, hnames⟩ := List.nodup_cons.1 hvalid.names
      obtain ⟨hport, hports⟩ := List.nodup_cons.1 hvalid.ports
      obtain ⟨hhead, htail⟩ := List.forall_mem_cons.1 hnew
      have hflaws := (flawsOf_eq_nil_iff owners t).2 ⟨hnamed, hrange, hhead.1, hhead.2⟩
      refine ⟨hflaws, ?_⟩
      rw [Owners.add_of_flawsOf_eq_nil hflaws, ih]
      refine ⟨⟨hnamed', hrange', hnames, hports⟩, fun u hu => ?_⟩
      simp only [List.map_cons, List.mem_cons, not_or]
      refine ⟨⟨fun he => hname ?_, (htail u hu).1⟩, fun he => hport ?_, (htail u hu).2⟩
      · exact he ▸ List.mem_map_of_mem hu
      · exact he ▸ List.mem_map_of_mem hu

end Problem

/-- **A list has no problems exactly if it is valid.** -/
theorem problemsOf_eq_nil_iff (teams : List Team) : problemsOf teams = [] ↔ IsValid teams := by
  rw [problemsOf, Problem.scan_eq_nil_iff]
  exact ⟨And.left, fun h => ⟨h, fun _ _ => ⟨List.not_mem_nil, List.not_mem_nil⟩⟩⟩

/-- **No problems are written exactly for a valid list.** -/
theorem findProblems_eq_nil_iff (teams : List Team) :
    findProblems teams = .ok [] ↔ IsValid teams := by
  rw [← problemsOf_eq_nil_iff, findProblems]
  cases problemsOf teams with
  | nil => exact ⟨fun _ => rfl, fun _ => rfl⟩
  | cons p ps =>
    rw [List.mapM_cons]
    refine ⟨fun h => ?_, fun h => absurd h (List.cons_ne_nil p ps)⟩
    cases hp : p.message with
    | error e =>
      rw [hp] at h
      cases h
    | ok s =>
      rw [hp] at h
      cases hps : ps.mapM Problem.message with
      | error e =>
        rw [hps] at h
        cases h
      | ok ss =>
        rw [hps] at h
        exact absurd (Except.ok.inj h) (List.cons_ne_nil s ss)

/-- A list is accepted exactly if no problems are written. -/
theorem validateTeams_eq_ok_iff_findProblems (teams : List Team) :
    validateTeams teams = .ok () ↔ findProblems teams = .ok [] := by
  unfold validateTeams
  cases findProblems teams with
  | error e => constructor <;> intro h <;> cases h
  | ok problems =>
    cases problems with
    | nil => exact ⟨fun _ => rfl, fun _ => rfl⟩
    | cons p ps => constructor <;> intro h <;> cases h

/-- **Exactly a valid list is accepted.** -/
theorem validateTeams_eq_ok_iff (teams : List Team) :
    validateTeams teams = .ok () ↔ IsValid teams := by
  rw [validateTeams_eq_ok_iff_findProblems, findProblems_eq_nil_iff]

end LogBalancer
