/-
# A configuration by its parts

The faults of a configuration are those of its parts, each under the key of the part and in the
order in which the configuration declares them (`faults_config`); those of the teams are the faults
of the items, each under its position (`teamFaults`).  It is accepted exactly if there are none, and
then it is put together from the parts, each read on its own (`config_eq_accepted_iff`).  So what is
wrong with one team changes nothing of what is said about another (`faults_config_of_item`).

The teams are taken from any sequence: from a list, a pair or a set.
-/

import LogBalancer.Proofs.Record.Checked

namespace LogBalancer

/-- The items of a sequence of any kind. -/
def Value.items? : Value → Option (List Value)
  | .list items | .set items => some items
  | .pair a b => some [a, b]
  | _ => none

namespace Record

/-- The same fault, seen from a whole of which the value is the part at `path`. -/
def Fault.within (path : List PathStep) (f : Fault) : Fault := ⟨path ++ f.path, f.cause⟩

section Parts

variable {α : Type} (key : String) (read : Reader α)

/-- The faults of the value of a key; none if the key is not there. -/
def partFaults (es : Entries) : List Fault :=
  match Value.lookup key es with
  | none => []
  | some v => (read v).faults.map (Fault.within [.key key])

/-- `a` is what the value of a key is read as, or the default if the key is not there. -/
def IsPart (default_ : α) (es : Entries) (a : α) : Prop :=
  match Value.lookup key es with
  | none => a = default_
  | some v => read v = .accepted a

/-- The faults of a field are those of its value; if it is missing there are none. -/
theorem faults_optional (default_ : α) (es : Entries) :
    (optional key read default_ es).faults = partFaults key read es := by
  unfold optional partFaults
  cases Value.lookup key es with
  | none => rfl
  | some v => exact Checked.faults_under _ _

/-- A field is accepted with its value, or with the default if it is missing. -/
theorem optional_eq_accepted_iff {default_ : α} {es : Entries} {a : α} :
    optional key read default_ es = .accepted a ↔ IsPart key read default_ es a := by
  unfold optional IsPart
  cases Value.lookup key es with
  | none => exact ⟨fun h => (Checked.accepted.inj h).symm, fun h => h ▸ rfl⟩
  | some v => exact Checked.under_eq_accepted_iff

/-- Below a key are all the faults of its value and none of another key's. -/
theorem filterMap_below?_partFaults (other : String) (es : Entries) :
    (partFaults key read es).filterMap (Fault.below? (.key other)) =
      if key = other then ((Value.lookup key es).map read).elim [] Checked.faults else [] := by
  unfold partFaults
  cases Value.lookup key es with
  | none => exact (ite_self _).symm
  | some v =>
    have hbelow := Fault.filterMap_below?_under (.key key) (.key other) (read v).faults
    simp only [PathStep.key.injEq] at hbelow
    exact hbelow

end Parts

section Sequences

variable {α : Type} (otherwise : Cause) (read : Reader α)

/-- A sequence of any kind is read by its items. -/
theorem sequence_eq (v : Value) :
    sequence otherwise read v =
      match v.items? with
      | none => .fault otherwise
      | some items => .allFrom read 0 items := by
  cases v <;> rfl

/-- The faults of a sequence are those of its items, each under its position. -/
theorem faults_sequence (v : Value) :
    (sequence otherwise read v).faults =
      match v.items? with
      | none => [⟨[], otherwise⟩]
      | some items => items.zipIdx.flatMap fun (item, i) =>
          (read item).faults.map (Fault.under (.index i)) := by
  rw [sequence_eq]
  cases v.items? with
  | none => rfl
  | some items => exact Checked.faults_allFrom read 0 items

/-- A sequence is accepted item by item. -/
theorem sequence_eq_accepted_iff {v : Value} {xs : List α} :
    sequence otherwise read v = .accepted xs ↔
      ∃ items, v.items? = some items ∧ List.Forall₂ (fun item x => read item = .accepted x) items xs := by
  rw [sequence_eq]
  cases v.items? with
  | none =>
    constructor
    · exact fun h => nomatch h
    · rintro ⟨_, h, -⟩
      cases h
  | some items =>
    constructor
    · exact fun h => ⟨items, rfl, Checked.allFrom_eq_accepted_iff.1 h⟩
    · rintro ⟨_, hitems, h⟩
      cases hitems
      exact Checked.allFrom_eq_accepted_iff.2 h

end Sequences

/-! ### The whole -/

/-- The faults of the value of the teams: one if it is no sequence, and otherwise those of the items,
each under its position.  None if there is no such key. -/
def teamFaults (es : Entries) : List Fault :=
  match Value.lookup "teams" es with
  | none => []
  | some v =>
    match v.items? with
    | none => [⟨[.key "teams"], .notList⟩]
    | some items => items.zipIdx.flatMap fun (item, i) =>
        (team item).faults.map (Fault.within [.key "teams", .index i])

/-- As many teams as the sequence has items, each of them its item read on its own.  No team if there
is no such key. -/
def AreTeams (es : Entries) (ts : List Team) : Prop :=
  match Value.lookup "teams" es with
  | none => ts = []
  | some v => ∃ items, v.items? = some items ∧
      List.Forall₂ (fun item t => team item = .accepted t) items ts

/-- A configuration that is put together from parts, each read on its own. -/
structure IsComposed (es : Entries) (c : Config) : Prop where
  api : IsPart "api" api {} es c.api
  discovery : IsPart "discovery" discovery {} es c.discovery
  healthcheck : IsPart "healthcheck" healthcheck {} es c.healthcheck
  teams : AreTeams es c.teams

/-- The faults of the teams are those of the items, each under its position. -/
theorem partFaults_teams (es : Entries) :
    partFaults "teams" (sequence .notList team) es = teamFaults es := by
  unfold partFaults teamFaults
  cases Value.lookup "teams" es with
  | none => rfl
  | some v =>
    dsimp only
    rw [faults_sequence]
    cases v.items? with
    | none => rfl
    | some items =>
      simp only [List.map_flatMap, List.map_map]
      rfl

/-- The teams are accepted item by item. -/
theorem isPart_teams_iff {es : Entries} {ts : List Team} :
    IsPart "teams" (sequence .notList team) [] es ts ↔ AreTeams es ts := by
  unfold IsPart AreTeams
  cases Value.lookup "teams" es with
  | none => exact Iff.rfl
  | some v => exact sequence_eq_accepted_iff .notList team

/-- The faults of a configuration are those of its parts, in order. -/
theorem faults_config (es : Entries) :
    (config (.mapping es)).faults =
      partFaults "api" api es ++ partFaults "discovery" discovery es ++
        partFaults "healthcheck" healthcheck es ++ teamFaults es := by
  rw [← partFaults_teams]
  simp only [config, record, Checked.faults_map, Checked.faults_zip, faults_optional,
    List.append_assoc]

/-- A configuration is accepted exactly as what its parts are read as. -/
theorem config_eq_accepted_iff {es : Entries} {c : Config} :
    config (.mapping es) = .accepted c ↔ IsComposed es c := by
  rw [config, record, Checked.map_eq_accepted_iff]
  constructor
  · rintro ⟨⟨a, d, h, ts⟩, hparts, rfl⟩
    obtain ⟨hapi, hparts⟩ := Checked.zip_eq_accepted_iff.1 hparts
    obtain ⟨hdiscovery, hparts⟩ := Checked.zip_eq_accepted_iff.1 hparts
    obtain ⟨hhealthcheck, hteams⟩ := Checked.zip_eq_accepted_iff.1 hparts
    exact
      { api := (optional_eq_accepted_iff _ _).1 hapi
        discovery := (optional_eq_accepted_iff _ _).1 hdiscovery
        healthcheck := (optional_eq_accepted_iff _ _).1 hhealthcheck
        teams := isPart_teams_iff.1 ((optional_eq_accepted_iff _ _).1 hteams) }
  · intro h
    have hteams := (optional_eq_accepted_iff _ _).2 (isPart_teams_iff.2 h.teams)
    exact ⟨(c.api, c.discovery, c.healthcheck, c.teams),
      Checked.zip_eq_accepted_iff.2 ⟨(optional_eq_accepted_iff _ _).2 h.api,
        Checked.zip_eq_accepted_iff.2 ⟨(optional_eq_accepted_iff _ _).2 h.discovery,
          Checked.zip_eq_accepted_iff.2 ⟨(optional_eq_accepted_iff _ _).2 h.healthcheck, hteams⟩⟩⟩,
      rfl⟩

/-- A configuration is refused for a fault of one of its parts. -/
theorem config_justified : Reader.Justified config := record_justified _ fun es =>
  ((optional_justified _ api_justified _ es).zip <|
    (optional_justified _ discovery_justified _ es).zip <|
    (optional_justified _ healthcheck_justified _ es).zip <|
    optional_justified _ (sequence_justified team_justified _) _ es).map _

/-- What is said about a team is what is wrong with its item, whatever the other items are. -/
theorem faults_config_of_item {es : Entries} {v : Value} {items : List Value} {i : Nat} {item : Value}
    (hv : Value.lookup "teams" es = some v) (hitems : v.items? = some items)
    (hi : items[i]? = some item) :
    ((config (.mapping es)).faults.filterMap (Fault.below? (.key "teams"))).filterMap
      (Fault.below? (.index i)) = (team item).faults := by
  have hteams : (config (.mapping es)).faults.filterMap (Fault.below? (.key "teams")) =
      (Checked.allFrom team 0 items).faults := by
    rw [faults_config, ← partFaults_teams]
    simp only [List.filterMap_append, filterMap_below?_partFaults]
    have hothers : "api" ≠ "teams" ∧ "discovery" ≠ "teams" ∧ "healthcheck" ≠ "teams" := by decide
    rw [if_neg hothers.1, if_neg hothers.2.1, if_neg hothers.2.2, if_pos trivial, hv]
    simp only [List.nil_append, Option.map_some, Option.elim_some, sequence_eq, hitems]
  have hbelow := Checked.faults_allFrom_below team hi 0
  rw [Nat.zero_add] at hbelow
  rw [hteams, hbelow]

/-- **Faults are complete and composed entry by entry.**  For every mapping, the faults of the
configuration are those of its parts and of its items, each under the path of what it is about and in
order; it is accepted exactly if there are none, and then it is put together from what the parts and
the items are read as on their own; and the faults found at an item are those of the item. -/
theorem config_by_parts (es : Entries) :
    (config (.mapping es)).faults =
      partFaults "api" api es ++ partFaults "discovery" discovery es ++
        partFaults "healthcheck" healthcheck es ++ teamFaults es ∧
    ((∃ c, config (.mapping es) = .accepted c) ↔ (config (.mapping es)).faults = []) ∧
    (∀ c, config (.mapping es) = .accepted c ↔ IsComposed es c) ∧
    ∀ v items i item, Value.lookup "teams" es = some v → v.items? = some items →
      items[i]? = some item →
        ((config (.mapping es)).faults.filterMap (Fault.below? (.key "teams"))).filterMap
          (Fault.below? (.index i)) = (team item).faults :=
  ⟨faults_config es, (config_justified _).faults_eq_nil_iff.symm, fun _ => config_eq_accepted_iff,
    fun _ _ _ _ => faults_config_of_item⟩

/-- A set is a sequence, although it is no list. -/
theorem config_accepts_set :
    (config (.mapping [(.text "teams", .set [])])).faults ≠ [⟨[.key "teams"], .notList⟩] := by
  decide

end Record
end LogBalancer
