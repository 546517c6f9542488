/-
# First owners

A list is read once, and two tables are kept on the way: for each name that is not blank the index of
the first entry with it, and for each port the name of the first entry with it, blank or not
(`Owners.Holds`).  An entry that is added keeps this (`Owners.Holds.add`), so it holds after any
number of entries (`Owners.Holds.addAll`).

What is found wrong with an entry therefore depends on the entries before it alone, by
`flawsAfter`, which looks for the first owners in the list itself (`flawsOf_of_holds`).  So the
problems of a list are those of any part that it starts with, and further ones
(`problemsOf_append`, `problemsOf_concat`).
-/

import LogBalancer.Problem

namespace LogBalancer
namespace Problem

/-- **The tables hold the first owners** among some entries: for a name that is not blank the least
index at which it stands, for a port the name at the least index at which it stands. -/
structure Owners.Holds (owners : Owners) (before : List Team) : Prop where
  names : ∀ name, Text.allBlank name = false →
    owners.names.lookup name = before.findIdx? (·.name == name)
  ports : ∀ port,
    owners.ports.lookup port = (before.find? (·.port == port)).map Team.name

/-- What is wrong with an entry that comes after the entries `before`. -/
def flawsAfter (before : List Team) (team : Team) : List Flaw :=
  let blank := Text.allBlank team.name
  (if blank then [.noName] else []) ++
  (if minPort ≤ team.port ∧ team.port ≤ maxPort then [] else [.portRange team.port]) ++
  (if blank then []
  else ((before.findIdx? (·.name == team.name)).map Flaw.nameTaken).toList) ++
  ((before.find? (·.port == team.port)).map fun owner => .portTaken team.port owner.name).toList

/-- The tables after several entries, the first of which is at `index`. -/
def Owners.addAll (owners : Owners) (index : Nat) : List Team → Owners
  | [] => owners
  | team :: rest => (owners.add index team).addAll (index + 1) rest

/-! ### The tables -/

namespace Owners

/-- Empty tables hold the owners among no entries. -/
theorem Holds.nil : ({} : Owners).Holds [] := ⟨fun _ _ => rfl, fun _ => rfl⟩

/-- A key that is put first is found first; if it is put only where it has no value yet, every key
keeps the value that it had. -/
theorem lookup_of_unowned {κ α : Type} [DecidableEq κ] (k : κ) (a : α) (l : List (κ × α)) (j : κ) :
    (if (l.lookup k).isSome then l else (k, a) :: l).lookup j =
      (l.lookup j).or (if k = j then some a else none) := by
  by_cases hj : k = j
  · subst hj
    cases h : l.lookup k with
    | some b => simp [h]
    | none => simp
  · have hne : (j == k) = false := beq_false_of_ne fun he => hj he.symm
    split <;> simp [List.lookup_cons, hne]

/-- **An entry becomes the owner of what had none**, and the tables hold the first owners again. -/
theorem Holds.add {owners : Owners} {before : List Team} (h : owners.Holds before) (team : Team) :
    (owners.add before.length team).Holds (before ++ [team]) := by
  constructor
  · intro name hname
    rw [List.findIdx?_append, ← h.names name hname]
    cases hblank : Text.allBlank team.name with
    | true =>
      -- a blank name is not entered, and is none of the names that are looked up
      have hne : (team.name == name) = false := by
        refine beq_false_of_ne ?_
        rintro rfl
        rw [hblank] at hname
        cases hname
      simp [Owners.add, hblank, hne]
    | false =>
      have hentered : (owners.add before.length team).names =
          if (owners.names.lookup team.name).isSome then owners.names
          else (team.name, before.length) :: owners.names := by
        simp only [Owners.add, hblank, Bool.false_or]
      rw [hentered, lookup_of_unowned]
      by_cases heq : team.name = name <;> simp [heq]
  · intro port
    rw [List.find?_append, Option.map_or, ← h.ports port]
    have hentered : (owners.add before.length team).ports =
        if (owners.ports.lookup team.port).isSome then owners.ports
        else (team.port, team.name) :: owners.ports := rfl
    rw [hentered, lookup_of_unowned]
    by_cases heq : team.port = port <;> simp [heq]

/-- **The tables hold the first owners after any number of entries**, by induction on these. -/
theorem Holds.addAll {owners : Owners} {before : List Team} (h : owners.Holds before)
    (teams : List Team) : (owners.addAll before.length teams).Holds (before ++ teams) := by
  induction teams generalizing owners before with
  | nil => rwa [Owners.addAll, List.append_nil]
  | cons team rest ih =>
    have hrest := ih (h.add team)
    rwa [List.length_append, List.length_singleton, List.append_assoc] at hrest

end Owners

/-! ### The problems -/

/-- **What is wrong with an entry is seen from the entries before it.** -/
theorem flawsOf_of_holds {owners : Owners} {before : List Team} (h : owners.Holds before)
    (team : Team) : flawsOf owners team = flawsAfter before team := by
  unfold flawsOf flawsAfter
  rw [h.ports team.port, Option.map_map]
  cases hblank : Text.allBlank team.name with
  | true => rfl
  | false => rw [h.names team.name hblank]; rfl

/-- A scan goes on from the tables that the entries before have left. -/
theorem scan_append (owners : Owners) (index : Nat) (teams later : List Team) :
    scan owners index (teams ++ later) = scan owners index teams ++
      scan (owners.addAll index teams) (index + teams.length) later := by
  induction teams generalizing owners index with
  | nil => rfl
  | cons team rest ih =>
    have hindex : index + (team :: rest).length = index + 1 + rest.length := by
      rw [List.length_cons]
      omega
    rw [List.cons_append, scan, scan, ih, hindex, List.append_assoc]
    rfl

end Problem

/-- A list has the problems of each part that it starts with. -/
theorem problemsOf_append (teams later : List Team) :
    problemsOf (teams ++ later) = problemsOf teams ++
      Problem.scan (({} : Problem.Owners).addAll 0 teams) teams.length later := by
  rw [problemsOf, Problem.scan_append, Nat.zero_add]
  rfl

/-- **An entry at the end adds what is wrong with it after the others.** -/
theorem problemsOf_concat (teams : List Team) (team : Team) :
    problemsOf (teams ++ [team]) = problemsOf teams ++
      (Problem.flawsAfter teams team).map (⟨teams.length, team.name, ·⟩) := by
  have hholds := Problem.Owners.Holds.nil.addAll teams
  rw [List.nil_append, List.length_nil] at hholds
  rw [problemsOf_append, Problem.scan, Problem.flawsOf_of_holds hholds]
  exact congrArg _ (List.append_nil _)

end LogBalancer
