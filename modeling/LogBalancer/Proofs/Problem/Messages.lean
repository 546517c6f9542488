/-
# Problems in words

A problem is put into words with the port that it names, if it names one, and fails to be where that
port has too many digits.  No problem names a port but that of its own entry, and a port of too many
digits lies outside the range of ports, so it is named.  Hence the problems of a list can be written
exactly if every port can (`findProblems_isOk_iff`).
-/

import LogBalancer.Proofs.Document.Writable
import LogBalancer.Proofs.Problem.Validity

namespace LogBalancer

/-- Every step of a traversal succeeds exactly if the whole of it does. -/
theorem mapM_isOk_iff {α β ε : Type} (f : α → Except ε β) (xs : List α) :
    (∃ ys, xs.mapM f = .ok ys) ↔ ∀ x ∈ xs, ∃ y, f x = .ok y := by
  induction xs with
  | nil => exact ⟨fun _ _ h => absurd h List.not_mem_nil, fun _ => ⟨[], rfl⟩⟩
  | cons x xs ih =>
    rw [List.forall_mem_cons, ← ih, List.mapM_cons]
    constructor
    · rintro ⟨ys, h⟩
      cases hx : f x with
      | error e =>
        rw [hx] at h
        cases h
      | ok y =>
        cases hxs : xs.mapM f with
        | error e =>
          rw [hx, hxs] at h
          cases h
        | ok ys => exact ⟨⟨y, rfl⟩, ys, rfl⟩
    · rintro ⟨⟨y, hy⟩, ys, hys⟩
      rw [hy, hys]
      exact ⟨y :: ys, rfl⟩

/-- What is made of a result succeeds exactly if there is one. -/
theorem map_isOk_iff {α β ε : Type} {x : Except ε α} (f : α → β) :
    (∃ b, f <$> x = .ok b) ↔ ∃ a, x = .ok a := by
  cases x with
  | error e =>
    constructor <;>
    · rintro ⟨_, h⟩
      cases h
  | ok a => exact ⟨fun _ => ⟨a, rfl⟩, fun _ => ⟨f a, rfl⟩⟩

/-- A port has a text exactly if it is not too long. -/
theorem portText_isOk_iff (port : Int) :
    (∃ s, portText port = .ok s) ↔ Decimal.isWritable port = true := by
  constructor
  · rintro ⟨s, h⟩
    unfold portText Decimal.numeral? at h
    cases hport : Decimal.isWritable port with
    | true => rfl
    | false =>
      rw [hport] at h
      cases h
  · intro h
    exact ⟨_, portText_of_isWritable h⟩

/-- The port that a flaw names. -/
def Flaw.port? : Flaw → Option Int
  | .portRange port => some port
  | .portTaken port _ => some port
  | .noName => none
  | .nameTaken _ => none

namespace Problem

/-- **A problem can be put into words exactly if the port that it names can be written.** -/
theorem message_isOk_iff (p : Problem) :
    (∃ s, p.message = .ok s) ↔ ∀ port ∈ p.flaw.port?, Decimal.isWritable port = true := by
  obtain ⟨index, name, flaw⟩ := p
  -- the flaws with a port, whose messages put something around its text
  have hport : ∀ (port : Int) (around : String → String),
      (∃ s, (do let n ← portText port; return around n : Except TooLong String) = .ok s) ↔
        ∀ q ∈ some port, Decimal.isWritable q = true := by
    intro port around
    have hsome : (∀ q ∈ some port, Decimal.isWritable q = true) ↔ ∃ s, portText port = .ok s := by
      rw [portText_isOk_iff]
      exact ⟨fun h => h port rfl, fun h q hq => Option.some.inj hq ▸ h⟩
    rw [hsome, bind_pure_comp]
    exact map_isOk_iff around
  have hnone : ∀ q ∈ (none : Option Int), Decimal.isWritable q = true := by
    intro q hq
    cases hq
  cases flaw with
  | noName => exact ⟨fun _ => hnone, fun _ => ⟨_, rfl⟩⟩
  | nameTaken first => exact ⟨fun _ => hnone, fun _ => ⟨_, rfl⟩⟩
  | portRange port => exact hport port _
  | portTaken port owner => exact hport port _

/-- A flaw names no port but that of its entry. -/
theorem eq_port_of_mem_flawsOf {owners : Owners} {t : Team} {f : Flaw} (hf : f ∈ flawsOf owners t)
    {port : Int} (h : port ∈ f.port?) : port = t.port := by
  have hhead : ∀ (c : Prop) [Decidable c], f ∈ (if c then [] else [Flaw.portRange t.port]) →
      f = .portRange t.port := by
    intro c _ hmem
    split at hmem
    · exact absurd hmem List.not_mem_nil
    · exact List.mem_singleton.1 hmem
  simp only [flawsOf, List.mem_append] at hf
  rcases hf with ((hblank | hrange) | hname) | htaken
  · split at hblank
    · rw [List.mem_singleton.1 hblank] at h
      cases h
    · exact absurd hblank List.not_mem_nil
  · rw [hhead _ hrange] at h
    exact (Option.some.inj h).symm
  · split at hname
    · exact absurd hname List.not_mem_nil
    · obtain ⟨first, -, rfl⟩ := Option.map_eq_some_iff.1 (Option.mem_toList.1 hname)
      cases h
  · obtain ⟨owner, -, rfl⟩ := Option.map_eq_some_iff.1 (Option.mem_toList.1 htaken)
    exact (Option.some.inj h).symm

/-- A port outside the range is a flaw, whoever owns what. -/
theorem portRange_mem_flawsOf (owners : Owners) {t : Team}
    (h : ¬(minPort ≤ t.port ∧ t.port ≤ maxPort)) : .portRange t.port ∈ flawsOf owners t := by
  simp only [flawsOf, List.mem_append, if_neg h, List.mem_singleton]
  exact .inl (.inl (.inr trivial))

/-- The problems of a list are the flaws of its entries, each seen with the owners before it. -/
theorem exists_team_of_mem_scan {owners : Owners} {index : Nat} {teams : List Team} {p : Problem}
    (h : p ∈ scan owners index teams) : ∃ t ∈ teams, ∃ owners, p.flaw ∈ flawsOf owners t := by
  induction teams generalizing owners index with
  | nil => exact absurd h List.not_mem_nil
  | cons t ts ih =>
    rcases List.mem_append.1 h with hown | hrest
    · obtain ⟨f, hf, rfl⟩ := List.mem_map.1 hown
      exact ⟨t, List.mem_cons_self, owners, hf⟩
    · obtain ⟨u, hu, hflaw⟩ := ih hrest
      exact ⟨u, List.mem_cons_of_mem _ hu, hflaw⟩

/-- Every entry is scanned. -/
theorem exists_owners_of_mem {teams : List Team} {t : Team} (h : t ∈ teams) (owners : Owners)
    (index : Nat) :
    ∃ owners' index', ∀ f ∈ flawsOf owners' t, ⟨index', t.name, f⟩ ∈ scan owners index teams := by
  induction teams generalizing owners index with
  | nil => exact absurd h List.not_mem_nil
  | cons u us ih =>
    rcases List.mem_cons.1 h with rfl | hu
    · exact ⟨owners, index, fun f hf => List.mem_append_left _ (List.mem_map_of_mem hf)⟩
    · obtain ⟨owners', index', hscan⟩ := ih hu (owners.add index u) (index + 1)
      exact ⟨owners', index', fun f hf => List.mem_append_right _ (hscan f hf)⟩

end Problem

/-- **The problems of a list can be written exactly if every port can.** -/
theorem findProblems_isOk_iff (teams : List Team) :
    (∃ problems, findProblems teams = .ok problems) ↔
      ∀ t ∈ teams, Decimal.isWritable t.port = true := by
  rw [findProblems, mapM_isOk_iff]
  simp only [Problem.message_isOk_iff]
  constructor
  · intro h t ht
    by_cases hrange : minPort ≤ t.port ∧ t.port ≤ maxPort
    · exact Decimal.isWritable_of_isPort hrange
    · obtain ⟨owners, index, hscan⟩ := Problem.exists_owners_of_mem ht {} 0
      exact h _ (hscan _ (Problem.portRange_mem_flawsOf owners hrange)) t.port rfl
  · intro h p hp port hport
    obtain ⟨t, ht, owners, hflaw⟩ := Problem.exists_team_of_mem_scan hp
    rw [Problem.eq_port_of_mem_flawsOf hflaw hport]
    exact h t ht

end LogBalancer
