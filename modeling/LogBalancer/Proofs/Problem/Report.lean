/-
# The report on a list

What is said of a list is what is said of its entries, one after the other, and what is said of an
entry is decided by the entries before it: `reportOn` says so in words, from the list alone, without
any table.  `findProblems_eq` says that this is the report on the whole list, and that there is none
exactly if a port has more than 4300 digits; so the report on a list starts with the report on each
part that the list starts with.
-/

import LogBalancer.Proofs.Problem.Messages
import LogBalancer.Proofs.Problem.Owners
import Mathlib.Data.List.Induction

namespace LogBalancer

/-! ### Words -/

namespace Problem

/-- The problem in words, with its port written out whatever its size. -/
def words (p : Problem) : String :=
  let entry := label p.index p.name
  match p.flaw with
  | .noName => entry ++ ": team name is empty"
  | .portRange port => entry ++ ": port " ++ Decimal.numeral port ++ " outside 1-65535"
  | .nameTaken first =>
    entry ++ ": duplicate team name (first at entry " ++ Decimal.natural first ++ ")"
  | .portTaken port owner =>
    entry ++ ": port " ++ Decimal.numeral port ++ " already used by " ++ Text.quoted owner

/-- A problem whose port can be written is put into its words. -/
theorem message_eq_words {p : Problem}
    (h : ∀ port ∈ p.flaw.port?, Decimal.isWritable port = true) : p.message = .ok p.words := by
  obtain ⟨index, name, flaw⟩ := p
  cases flaw with
  | noName => rfl
  | nameTaken first => rfl
  | portRange port =>
    have hmin : Decimal.numeral minPort = "1" := by decide +kernel
    have hmax : Decimal.numeral maxPort = "65535" := by decide +kernel
    have hrange : " outside " ++ ("1" ++ ("-" ++ "65535")) = " outside 1-65535" := by decide
    simp only [message, words, portText_of_isWritable (h port rfl), hmin, hmax, bind, Except.bind,
      pure, Except.pure, String.append_assoc, hrange]
  | portTaken port owner =>
    simp only [message, words, portText_of_isWritable (h port rfl), bind, Except.bind, pure,
      Except.pure]

end Problem

/-- **A list whose ports can be written has all its problems in words.** -/
theorem findProblems_eq_words {teams : List Team}
    (h : ∀ t ∈ teams, Decimal.isWritable t.port = true) :
    findProblems teams = .ok ((problemsOf teams).map Problem.words) := by
  refine mapM_eq_ok_map fun p hp => Problem.message_eq_words fun port hport => ?_
  obtain ⟨t, ht, owners, hflaw⟩ := Problem.exists_team_of_mem_scan hp
  rw [Problem.eq_port_of_mem_flawsOf hflaw hport]
  exact h t ht

/-! ### The report -/

/-- What is said of the entry `team` at `index`, which comes after the entries `before`: that its
name is blank, that its port is out of range, that a name that is not blank stands before, with the
first index at which it does, and that its port does, with the name of the first entry that has
it. -/
def reportOn (before : List Team) (index : Nat) (team : Team) : List String :=
  let blank := Text.allBlank team.name
  let entry := "entry " ++ Decimal.natural index
  let label := if blank then entry else entry ++ " (" ++ team.name ++ ")"
  let port := Decimal.numeral team.port
  (if blank then [label ++ ": team name is empty"] else []) ++
  (if 1 ≤ team.port ∧ team.port ≤ 65535 then []
  else [label ++ ": port " ++ port ++ " outside 1-65535"]) ++
  (match before.findIdx? (·.name == team.name) with
  | some first =>
    if blank then []
    else [label ++ ": duplicate team name (first at entry " ++ Decimal.natural first ++ ")"]
  | none => []) ++
  (match before.find? (·.port == team.port) with
  | some owner => [label ++ ": port " ++ port ++ " already used by " ++ Text.quoted owner.name]
  | none => [])

/-- The report on an entry is what is wrong with it, in words. -/
theorem map_words_flawsAfter (before : List Team) (index : Nat) (team : Team) :
    (Problem.flawsAfter before team).map (fun flaw => Problem.words ⟨index, team.name, flaw⟩) =
      reportOn before index team := by
  have hlabel : Problem.label index team.name =
      if Text.allBlank team.name then "entry " ++ Decimal.natural index
      else "entry " ++ Decimal.natural index ++ " (" ++ team.name ++ ")" := rfl
  have hrange : (minPort ≤ team.port ∧ team.port ≤ maxPort) = (1 ≤ team.port ∧ team.port ≤ 65535) :=
    rfl
  simp only [Problem.flawsAfter, reportOn, Problem.words, List.map_append, hrange, ← hlabel]
  congr 1
  · congr 1
    · congr 1
      · split <;> rfl
      · split <;> rfl
    · cases before.findIdx? (·.name == team.name) <;> split <;> rfl
  · cases before.find? (·.port == team.port) <;> rfl

/-- The problems of a list in words are the reports on its entries, by induction from the end of the
list: the entries before one are the same in every longer list. -/
theorem map_words_problemsOf (teams : List Team) :
    (problemsOf teams).map Problem.words =
      (teams.mapIdx fun index team => reportOn (teams.take index) index team).flatten := by
  induction teams using List.reverseRec with
  | nil => rfl
  | append_singleton teams team ih =>
    have hearlier : (teams.mapIdx fun index t => reportOn ((teams ++ [team]).take index) index t) =
        teams.mapIdx fun index t => reportOn (teams.take index) index t := by
      rw [List.mapIdx_eq_mapIdx_iff]
      intro index hindex
      rw [List.take_append_of_le_length (Nat.le_of_lt hindex)]
    have hlast : (teams ++ [team]).take teams.length = teams := List.take_left
    rw [problemsOf_concat, List.map_append, List.map_map, List.mapIdx_concat, List.flatten_append,
      hearlier, hlast, List.flatten_singleton, ih]
    exact congrArg _ (map_words_flawsAfter teams teams.length team)

/-- **The report on a list.**  It is the reports on the entries, in the order of their indices, and
fails to be exactly if a port has more than 4300 decimal digits.  So it starts with the report on
each part that the list starts with. -/
theorem findProblems_eq (teams : List Team) :
    findProblems teams =
      (if ∀ t ∈ teams, (Decimal.digits t.port.natAbs).length ≤ 4300 then
        .ok (teams.mapIdx fun index team => reportOn (teams.take index) index team).flatten
      else .error ⟨⟩) ∧
    ∀ later problems, findProblems (teams ++ later) = .ok problems →
      ∃ first, findProblems teams = .ok first ∧ first <+: problems := by
  have hwritable : (∀ t ∈ teams, (Decimal.digits t.port.natAbs).length ≤ 4300) ↔
      ∀ t ∈ teams, Decimal.isWritable t.port = true :=
    forall₂_congr fun t _ => (Decimal.isWritable_iff t.port).symm
  refine ⟨?_, ?_⟩
  · split
    · rename_i h
      rw [findProblems_eq_words (hwritable.1 h), map_words_problemsOf]
    · rename_i h
      cases hproblems : findProblems teams with
      | error e => rfl
      | ok problems =>
        exact absurd (hwritable.2 ((findProblems_isOk_iff teams).1 ⟨problems, hproblems⟩)) h
  · intro later problems h
    have hall := (findProblems_isOk_iff (teams ++ later)).1 ⟨problems, h⟩
    have hfirst := findProblems_eq_words fun t ht => hall t (List.mem_append_left _ ht)
    refine ⟨_, hfirst, ?_⟩
    rw [findProblems_eq_words hall, problemsOf_append, List.map_append] at h
    rw [← Except.ok.inj h]
    exact List.prefix_append _ _

/-- A blank name owns its port, but not its name. -/
example : (problemsOf [⟨7, " ", false⟩, ⟨7, "a", false⟩, ⟨7, "a", false⟩]).map Problem.words =
    ["entry 0: team name is empty", "entry 1 (a): port 7 already used by ' '",
      "entry 2 (a): duplicate team name (first at entry 1)",
      "entry 2 (a): port 7 already used by ' '"] := by
  decide +kernel

end LogBalancer
