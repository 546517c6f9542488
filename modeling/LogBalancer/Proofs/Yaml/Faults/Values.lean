/-
# Faults of a text

Nothing in the making of a document's value fails but the making of a scalar, and the resolving of
merge keys that name each other too deeply (`Graph.toValue_failsOnly`).  So a text that is not malformed
fails for an escape, a version or a scalar, or because it nests too deeply (`read_fault`).
-/

import LogBalancer.Proofs.Yaml.Faults.Nodes
import LogBalancer.Yaml.Graph.ToValue

namespace LogBalancer
namespace Yaml

namespace Graph

/-- The fault of a scalar of a document, or that of merge keys that name each other too deeply. -/
def HasFault (g : Graph) (fault : Fault) : Prop :=
  (∃ i, g.scalarValue? i = .error fault) ∨
    fault = .tooDeep ∧ ∃ resolved i, g.entries resolved i = .error .tooDeep

section Parts

variable {p : Fault → Prop} (g : Graph)

/-- Merging mappings that are well formed fails only for their depth, by induction on the fuel. -/
theorem flatten_failsOnly (resolved : Nat → Bool) (fuel depth : Nat) (open_ : List Nat) (i : Nat) :
    FailsOnly (· = .tooDeep) (g.flatten resolved fuel depth open_ i) := by
  induction fuel generalizing depth open_ i with
  | zero => exact .malformed _
  | succ fuel ih =>
    rw [flatten]
    split
    · have hrest {x : Except Fault (List (Nat × Nat))} (hx : FailsOnly (· = .tooDeep) x) :
          FailsOnly (· = .tooDeep) (do
            if depth = 0 then throw .tooDeep
            x) := .ite (.bind (.fault rfl) fun _ => hx) hx
      refine hrest (.ite (.ok _) (.bind (.mapM ?_ _) fun _ => .ok _))
      rintro ⟨k, v⟩
      dsimp only
      split
      · exact ih _ _ _
      · exact .bind (.mapM (fun _ => ih _ _ _) _) fun _ => .ok _
      · exact .malformed _
    · exact .malformed _

/-- So does finding the entries of a mapping. -/
theorem entries_failsOnly (resolved : Nat → Bool) (i : Nat) :
    FailsOnly g.HasFault (g.entries resolved i) := by
  intro fault h
  have hdeep : FailsOnly (· = .tooDeep) (g.entries resolved i) := by
    unfold entries
    split
    · exact flatten_failsOnly g _ _ _ _ _
    · exact .malformed _
  refine (hdeep fault h).imp_right ?_
  rintro rfl
  exact .inr ⟨rfl, resolved, i, h⟩

/-- Finding the items of a list fails only where there is none. -/
theorem items_failsOnly (i : Nat) : FailsOnly p (g.items i) := by
  unfold items
  split
  · exact .ok _
  · exact .malformed _

/-- So does finding the parts of a pair. -/
theorem pair_failsOnly (i : Nat) : FailsOnly p (g.pair i) := by
  unfold pair
  split
  · exact .ok _
  · exact .malformed _

end Parts

section Making

variable (g : Graph)

/-- A node fails for the fault of its scalar, if it is one. -/
theorem make_failsOnly (i : Nat) (asKey : Bool) (s : Survey) :
    FailsOnly g.HasFault (g.make i asKey s) := by
  refine .ite (.ok _) (.ite (.ok _) (.bind (fun _ h => .inr (.inl ⟨i, h⟩)) fun v => ?_))
  split <;> exact .ok _

/-- An entry fails for its key or its value. -/
theorem makeEntry_failsOnly (s : Survey) (entry : Nat × Nat) :
    FailsOnly g.HasFault (g.makeEntry s entry) :=
  .bind (make_failsOnly _ _ _ _) fun _ => .bind (.demand _ _) fun _ => make_failsOnly _ _ _ _

/-- A collection fails for its merge keys or its parts. -/
theorem makeParts_failsOnly (s : Survey) (i : Nat) : FailsOnly g.HasFault (g.makeParts s i) := by
  unfold makeParts
  split
  · exact .bind (items_failsOnly _ _) fun _ => .foldlM (fun _ _ => make_failsOnly _ _ _ _) _ _
  · exact .bind (entries_failsOnly _ _ _) fun _ => .foldlM (makeEntry_failsOnly g) _ _
  · exact .bind (entries_failsOnly _ _ _) fun _ => .foldlM (makeEntry_failsOnly g) _ _
  · refine .bind (items_failsOnly _ _) fun _ => .foldlM (fun _ _ => ?_) _ _
    exact .bind (pair_failsOnly _ _) fun _ => .bind (make_failsOnly _ _ _ _) fun _ =>
      make_failsOnly _ _ _ _

/-- All collections fail for what one of them fails for, level by level. -/
theorem makeLevels_failsOnly (fuel : Nat) (s : Survey) :
    FailsOnly g.HasFault (g.makeLevels fuel s) := by
  induction fuel generalizing s with
  | zero => exact .ok _
  | succ fuel ih =>
    rw [makeLevels]
    split
    · exact .ok _
    · exact .bind (.foldlM (makeParts_failsOnly g) _ _) fun _ => ih _

/-- **A well-formed document fails only for a scalar or for the depth of its merge keys.** -/
theorem toValue_failsOnly : FailsOnly g.HasFault g.toValue :=
  .bind (.bind (make_failsOnly _ _ _ _) fun _ => makeLevels_failsOnly _ _ _) fun _ => .ok _

end Making

end Graph

/-- **Why a text has no value**: it is malformed, it has a fault of a token, its nodes nest too deeply,
or its document has a fault. -/
theorem read_fault {depth : Nat} {s : List Char} {fault : Fault} (h : read depth s = .error fault) :
    (∃ rule, fault = .malformed rule) ∨ fault.IsOfToken ∨
      (fault = .tooDeep ∧ Graph.ofText depth s = .error .tooDeep) ∨
      ∃ g, Graph.ofText depth s = .ok (some g) ∧ g.HasFault fault := by
  cases hs : Graph.ofText depth s with
  | error e =>
    rw [read, hs] at h
    obtain rfl := Except.error.inj h
    rcases Graph.ofText_failsOnly depth s e hs with hmalformed | htoken | rfl
    · exact .inl hmalformed
    · exact .inr (.inl htoken)
    · exact .inr (.inr (.inl ⟨rfl, rfl⟩))
  | ok document =>
    cases document with
    | none =>
      rw [read, hs] at h
      cases h
    | some g =>
      rw [read, hs] at h
      exact (Graph.toValue_failsOnly g fault h).imp_right fun hfault => .inr (.inr ⟨g, rfl, hfault⟩)

end Yaml
end LogBalancer
