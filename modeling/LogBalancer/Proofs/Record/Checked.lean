/-
# Outcomes of reading

A reader accepts a value or refuses it for at least one fault (`Justified`), so a value without
faults is accepted (`Justified.faults_eq_nil_iff`).  What the combinators of readers do is said for
both outcomes: which faults there are, and when and as what a value is accepted.
-/

import LogBalancer.Record.Team
import Mathlib.Data.List.Forall2

namespace LogBalancer
namespace Record
namespace Fault

/-- The fault as one of the part at `step`, seen from the part; none if it is elsewhere. -/
def below? (step : PathStep) (f : Fault) : Option Fault :=
  match f.path with
  | [] => none
  | first :: rest => if first = step then some ⟨rest, f.cause⟩ else none

/-- Below a step are all the faults of the part there and none of another part's. -/
theorem filterMap_below?_under (s t : PathStep) (fs : List Fault) :
    (fs.map (under s)).filterMap (below? t) = if s = t then fs else [] := by
  rw [List.filterMap_map]
  split_ifs with h
  · have hid : below? t ∘ under s = some := funext fun f => if_pos h
    rw [hid, List.filterMap_some]
  · exact List.filterMap_eq_nil_iff.2 fun f _ => if_neg h

end Fault

namespace Checked

variable {α β : Type}

/-! ### Acceptance -/

/-- What is made of a result is accepted if the result is. -/
theorem map_eq_accepted_iff {f : α → β} {x : Checked α} {b : β} :
    x.map f = .accepted b ↔ ∃ a, x = .accepted a ∧ f a = b := by
  cases x <;> simp [map]

/-- Two outcomes are accepted together if both are. -/
theorem zip_eq_accepted_iff {x : Checked α} {y : Checked β} {a : α} {b : β} :
    x.zip y = .accepted (a, b) ↔ x = .accepted a ∧ y = .accepted b := by
  cases x <;> cases y <;> simp [zip]

/-- An outcome is accepted as that of a part if it is accepted. -/
theorem under_eq_accepted_iff {step : PathStep} {x : Checked α} {a : α} :
    x.under step = .accepted a ↔ x = .accepted a := by
  cases x <;> simp [under]

/-- A list is accepted item by item. -/
theorem allFrom_eq_accepted_iff {read : α → Checked β} {i : Nat} {xs : List α} {ys : List β} :
    allFrom read i xs = .accepted ys ↔ List.Forall₂ (fun x y => read x = .accepted y) xs ys := by
  induction xs generalizing i ys with
  | nil =>
    rw [allFrom, List.forall₂_nil_left_iff]
    exact ⟨fun h => (accepted.inj h).symm, fun h => h ▸ rfl⟩
  | cons x xs ih =>
    rw [allFrom, map_eq_accepted_iff, List.forall₂_cons_left_iff]
    constructor
    · rintro ⟨⟨y, ys'⟩, h, rfl⟩
      obtain ⟨hx, hxs⟩ := zip_eq_accepted_iff.1 h
      exact ⟨y, ys', under_eq_accepted_iff.1 hx, ih.1 hxs, rfl⟩
    · rintro ⟨y, ys', hx, hxs, rfl⟩
      exact ⟨(y, ys'), zip_eq_accepted_iff.2 ⟨under_eq_accepted_iff.2 hx, ih.2 hxs⟩, rfl⟩

/-! ### Faults -/

/-- The faults of a list are those of its items, in order and under their positions. -/
theorem faults_allFrom (read : α → Checked β) (i : Nat) (xs : List α) :
    (allFrom read i xs).faults =
      (xs.zipIdx i).flatMap fun p => (read p.1).faults.map (Fault.under (.index p.2)) := by
  induction xs generalizing i with
  | nil => rfl
  | cons x xs ih =>
    rw [allFrom, faults_map, faults_zip, faults_under, ih, List.zipIdx_cons, List.flatMap_cons]

/-- Of the faults of one part, all are of that part and none of another. -/
theorem filterMap_below?_faults_under (s t : PathStep) (x : Checked α) :
    (x.under s).faults.filterMap (Fault.below? t) = if s = t then x.faults else [] := by
  rw [faults_under, Fault.filterMap_below?_under]

/-- What is found below one position among the faults of a list are the faults of the item there,
whatever is wrong with the others. -/
theorem faults_allFrom_below (read : α → Checked β) {i : Nat} {x : α} {xs : List α}
    (h : xs[i]? = some x) (start : Nat) :
    (allFrom read start xs).faults.filterMap (Fault.below? (.index (start + i))) =
      (read x).faults := by
  rw [faults_allFrom, List.filterMap_flatMap]
  simp only [Fault.filterMap_below?_under, PathStep.index.injEq]
  induction xs generalizing i start with
  | nil => cases h
  | cons y ys ih =>
    rw [List.zipIdx_cons, List.flatMap_cons]
    cases i with
    | zero =>
      obtain rfl : y = x := Option.some.inj h
      have hrest : ∀ p ∈ ys.zipIdx (start + 1), p.2 ≠ start + 0 := fun p hp => by
        have hle : start + 1 ≤ p.2 := List.le_snd_of_mem_zipIdx hp
        omega
      rw [if_pos (Nat.add_zero start).symm, List.flatMap_eq_nil_iff.2 fun p hp => if_neg (hrest p hp),
        List.append_nil]
    | succ i =>
      rw [if_neg (by omega), List.nil_append, ← ih h (start + 1), Nat.add_right_comm, Nat.add_assoc]

/-- An outcome that is no refusal without a fault. -/
def Justified (x : Checked α) : Prop := x ≠ .refused []

namespace Justified

/-- What is accepted is no refusal. -/
theorem accepted (a : α) : Justified (accepted a) := fun h => nomatch h

/-- A refusal for one fault has that fault. -/
theorem fault (cause : Cause) : Justified (fault cause : Checked α) :=
  fun h => List.cons_ne_nil _ _ (refused.inj h)

/-- **A value without faults is accepted.** -/
theorem faults_eq_nil_iff {x : Checked α} (h : x.Justified) :
    x.faults = [] ↔ ∃ a, x = .accepted a := by
  cases x with
  | accepted a => exact ⟨fun _ => ⟨a, rfl⟩, fun _ => rfl⟩
  | refused fs =>
    refine ⟨fun hnil => absurd (congrArg refused hnil) h, ?_⟩
    rintro ⟨_, h⟩
    cases h

/-- An outcome that is accepted if it has no faults is justified. -/
theorem of_faults {x : Checked α} (h : x.faults = [] → ∃ a, x = .accepted a) : x.Justified := by
  rintro rfl
  obtain ⟨_, h⟩ := h rfl
  cases h

/-- Making something of a result leaves the faults there are. -/
theorem map {x : Checked α} (h : x.Justified) (f : α → β) : (x.map f).Justified := by
  cases x with
  | accepted a => exact accepted _
  | refused fs => exact fun hmap => h (congrArg refused (refused.inj hmap))

/-- Seen under a step, a refusal has as many faults. -/
theorem under {x : Checked α} (h : x.Justified) (step : PathStep) : (x.under step).Justified := by
  cases x with
  | accepted a => exact accepted a
  | refused fs => exact fun hunder => h (congrArg refused (List.map_eq_nil_iff.1 (refused.inj hunder)))

/-- Two outcomes that are refused together have the faults of one of them. -/
theorem zip {x : Checked α} {y : Checked β} (hx : x.Justified) (hy : y.Justified) :
    (x.zip y).Justified := by
  refine of_faults fun hnil => ?_
  rw [faults_zip, List.append_eq_nil_iff, hx.faults_eq_nil_iff, hy.faults_eq_nil_iff] at hnil
  obtain ⟨⟨a, rfl⟩, b, rfl⟩ := hnil
  exact ⟨_, rfl⟩

/-- A list that is refused has the faults of some item, by induction on the list. -/
theorem allFrom {read : α → Checked β} (h : ∀ a, (read a).Justified) (i : Nat) (xs : List α) :
    (allFrom read i xs).Justified := by
  induction xs generalizing i with
  | nil => exact accepted []
  | cons x xs ih => exact (((h x).under _).zip (ih (i + 1))).map _

end Justified
end Checked

/-! ### Readers -/

/-- A reader that refuses nothing without a fault. -/
def Reader.Justified {α : Type} (read : Reader α) : Prop := ∀ v, (read v).Justified

open Checked (Justified)

/-- What is refused as a text has a fault. -/
theorem text_justified : Reader.Justified text := by
  intro v
  unfold text
  split
  · exact .accepted _
  · split
    · exact .accepted _
    · exact .fault _
  · exact .fault _

/-- A text that is refused as a flag has a fault. -/
theorem flagText_justified (s : String) : (flagText s).Justified := by
  unfold flagText
  split
  · exact .accepted _
  · exact .fault _

/-- A number that is refused as a flag has a fault. -/
theorem flagNumber_justified (n : Int) (inRange : Bool) : (flagNumber n inRange).Justified := by
  unfold flagNumber
  split
  · exact .accepted _
  · split
    · exact .accepted _
    · exact .fault _

/-- What is refused as a flag has a fault. -/
theorem flag_justified : Reader.Justified flag := by
  intro v
  unfold flag
  split
  · exact .accepted _
  · exact flagText_justified _
  · split
    · exact flagText_justified _
    · exact .fault _
  · exact flagNumber_justified _ _
  · split
    · exact flagNumber_justified _ _
    · exact .fault _
  · exact .fault _

/-- So has what is refused as a flag or null. -/
theorem optionalFlag_justified : Reader.Justified optionalFlag := by
  intro v
  unfold optionalFlag
  split
  · exact .accepted _
  · exact flag_justified v

/-- A text that is refused as a port has a fault. -/
theorem portOfText_justified (s : String) : (portOfText s).Justified := by
  unfold portOfText
  split
  · exact .accepted _
  · exact .fault _
  · exact .fault _

/-- What is refused as a port has a fault. -/
theorem port_justified : Reader.Justified port := by
  intro v
  unfold port
  split
  · exact .fault _
  · exact .fault _
  · exact .accepted _
  · exact portOfText_justified _
  · split
    · exact portOfText_justified _
    · exact .fault _
  · exact .fault _

/-- A sequence that is refused has a fault, its own or that of an item. -/
theorem sequence_justified {α : Type} {read : Reader α} (h : read.Justified) (otherwise : Cause) :
    Reader.Justified (sequence otherwise read) := by
  intro v
  unfold sequence
  split
  · exact .allFrom h 0 _
  · exact .allFrom h 0 _
  · exact .allFrom h 0 _
  · exact .fault _

/-- A record that is refused has a fault, its own or that of a field. -/
theorem record_justified {α : Type} (name : String) {read : Entries → Checked α}
    (h : ∀ es, (read es).Justified) : Reader.Justified (record name read) := by
  intro v
  unfold record
  split
  · exact h _
  · exact .fault _

/-- A field that must be there is refused for its absence or for a fault of its value. -/
theorem required_justified {α : Type} (key : String) {read : Reader α} (h : read.Justified)
    (es : Entries) : (required key read es).Justified := by
  unfold required
  split
  · exact (h _).under _
  · exact fun hnil => List.cons_ne_nil _ _ (Checked.refused.inj hnil)

/-- A field that may be missing is refused for a fault of its value. -/
theorem optional_justified {α : Type} (key : String) {read : Reader α} (h : read.Justified)
    (default_ : α) (es : Entries) : (optional key read default_ es).Justified := by
  unfold optional
  split
  · exact (h _).under _
  · exact .accepted _

/-- The flag of a team is refused for a fault of its value, under either key. -/
theorem teamFlag_justified (es : Entries) : (teamFlag es).Justified := by
  unfold teamFlag
  split
  · exact (optionalFlag_justified _).under _
  · exact optional_justified _ optionalFlag_justified _ es

/-- A team is refused for a fault of a field. -/
theorem team_justified : Reader.Justified team := record_justified _ fun es =>
  (((required_justified _ port_justified es).zip (required_justified _ text_justified es)).zip
    (teamFlag_justified es)).map _

/-- So are the settings of the interface. -/
theorem api_justified : Reader.Justified api := record_justified _ fun es =>
  ((optional_justified _ flag_justified _ es).zip (optional_justified _ text_justified _ es)).map _

/-- So are those of the discovery. -/
theorem discovery_justified : Reader.Justified discovery := record_justified _ fun es =>
  ((optional_justified _ text_justified _ es).zip
    (optional_justified _ (sequence_justified text_justified _) _ es)).map _

/-- So are those of the health check. -/
theorem healthcheck_justified : Reader.Justified healthcheck := record_justified _ fun es => by
  have hsetting (key default_ : String) : (optional key text default_ es).Justified :=
    optional_justified key text_justified default_ es
  exact ((hsetting _ _).zip <| (hsetting _ _).zip <| (hsetting _ _).zip <| (hsetting _ _).zip <|
    (hsetting _ _).zip <| (hsetting _ _).zip (hsetting _ _)).map _

end Record
end LogBalancer
