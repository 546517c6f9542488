/-
# Keys that matter

A record takes the values of its own keys and no notice of others, nor of the order of any.  Of the
two keys of the flag of a team, the second one does not matter where the first one is there.

`Alike` says that two mappings differ in nothing else, in themselves or in the records in them: it is
what changes that do not matter make of a mapping, one after the other.  What a record takes from two
such mappings is the same (`Alike.agree`), so they are read alike, with the same faults in the same
order if they are refused (`Alike.read_eq`).
-/

import LogBalancer.Proofs.Record.Written

namespace LogBalancer

/-! ### Entries -/

namespace Value

/-- A key at the front has the value beside it. -/
theorem lookup_cons_self (key : String) (v : Value) (es : List (Value × Value)) :
    lookup key ((.text key, v) :: es) = some v := if_pos rfl

/-- Another key at the front does not matter. -/
theorem lookup_cons_of_ne {key : String} {k : Value} (h : k ≠ .text key) (v : Value)
    (es : List (Value × Value)) : lookup key ((k, v) :: es) = lookup key es := by
  cases k with
  | text s => exact if_neg fun hs => h (congrArg Value.text hs)
  | _ => rfl

end Value

namespace Record

open Value (lookup lookup_cons_self lookup_cons_of_ne)

namespace Model

/-- The keys of a kind of records, both of those of the flag of a team among them. -/
def keys : Model → List String
  | .team => ["port", "team", flagAlias, flagKey]
  | .api => ["enabled", "bind"]
  | .discovery => ["kind", "hosts"]
  | .healthcheck =>
    ["kind", "interval", "timeout", "true_script", "cache_script", "expected_positive_output",
      "expected_negative_output"]
  | .config => ["api", "discovery", "healthcheck", "teams"]
  | .file => ["path", "content", "reason"]

/-- Whether a key is one of a kind of records. -/
def knows (m : Model) : Value → Bool
  | .text name => m.keys.contains name
  | _ => false

/-- The keys of a configuration whose values are records. -/
def parts : List (String × Model) :=
  [("api", .api), ("discovery", .discovery), ("healthcheck", .healthcheck)]

end Model

/-- **Mappings that differ in nothing that matters** for a kind of records. -/
inductive Alike : Model → Entries → Entries → Prop
  | refl (m : Model) (es : Entries) : Alike m es es
  | symm {m : Model} {es es' : Entries} (h : Alike m es es') : Alike m es' es
  | trans {m : Model} {es es' es'' : Entries} (h : Alike m es es') (h' : Alike m es' es'') :
      Alike m es es''
  /-- They may differ behind a common entry. -/
  | cons {m : Model} {es es' : Entries} (e : Value × Value) (h : Alike m es es') :
      Alike m (e :: es) (e :: es')
  /-- Entries may change places. -/
  | swap (m : Model) {k k' : Value} (h : k ≠ k') (v v' : Value) (es : Entries) :
      Alike m ((k, v) :: (k', v') :: es) ((k', v') :: (k, v) :: es)
  /-- A key may be there or not that is none of the record. -/
  | unknown {m : Model} {k : Value} (h : m.knows k = false) (v : Value) (es : Entries) :
      Alike m ((k, v) :: es) es
  /-- The second key of the flag of a team may be there or not where the first one is. -/
  | shadowed {es : Entries} (h : lookup flagAlias es ≠ none) (v : Value) :
      Alike .team ((.text flagKey, v) :: es) es
  /-- A record in a configuration may differ in what does not matter for it. -/
  | part {key : String} {m : Model} (hkey : (key, m) ∈ Model.parts) {es es' : Entries}
      (h : Alike m es es') (rest : Entries) :
      Alike .config ((.text key, .mapping es) :: rest) ((.text key, .mapping es') :: rest)
  /-- So may a team in the teams of a configuration. -/
  | item {v v' : Value} {before after : List Value} {es es' : Entries}
      (hv : v.items? = some (before ++ .mapping es :: after))
      (hv' : v'.items? = some (before ++ .mapping es' :: after)) (h : Alike .team es es')
      (rest : Entries) : Alike .config ((.text "teams", v) :: rest) ((.text "teams", v') :: rest)

namespace Alike

/-- Entries in another order are alike, if no key is there twice. -/
theorem of_perm {m : Model} {es es' : Entries} (h : es.Perm es') (hkeys : (es.map Prod.fst).Nodup) :
    Alike m es es' := by
  induction h with
  | nil => exact .refl m []
  | cons e _ ih => exact .cons e (ih (List.nodup_cons.1 hkeys).2)
  | swap e e' es =>
    have hne : e'.1 ≠ e.1 := fun heq => (List.nodup_cons.1 hkeys).1 (heq ▸ List.mem_cons_self)
    exact .swap m hne e'.2 e.2 es
  | trans h _ ih ih' => exact .trans (ih hkeys) (ih' ((h.map Prod.fst).nodup hkeys))

/-- A mapping is alike to what the record knows of it. -/
theorem filter_knows (m : Model) (es : Entries) : Alike m (es.filter fun e => m.knows e.1) es := by
  induction es with
  | nil => exact .refl m []
  | cons e es ih =>
    cases hknown : m.knows e.1 with
    | true =>
      rw [List.filter_cons, hknown, if_pos rfl]
      exact .cons e ih
    | false =>
      rw [List.filter_cons, hknown, if_neg Bool.false_ne_true]
      exact .trans ih (.symm (.unknown hknown e.2 es))

/-- Mappings with the same known entries are alike, in whatever order these stand and whatever is
between them. -/
theorem of_known_perm {m : Model} {es es' : Entries}
    (h : (es.filter fun e => m.knows e.1).Perm (es'.filter fun e => m.knows e.1))
    (hkeys : ((es.filter fun e => m.knows e.1).map Prod.fst).Nodup) : Alike m es es' :=
  (filter_knows m es).symm.trans ((of_perm h hkeys).trans (filter_knows m es'))

end Alike

/-! ### What a record takes -/

/-- What a record takes from the value of a key. -/
inductive Taken
  | value (v : Value)
  | api (x : Checked Api)
  | discovery (x : Checked Discovery)
  | healthcheck (x : Checked Healthcheck)
  | teams (x : Checked (List Team))

namespace Model

/-- A configuration reads the values of its keys, other records take them as they are. -/
def take (m : Model) (name : String) (v : Value) : Taken :=
  if m ≠ .config then .value v
  else if name = "api" then .api (Record.api v)
  else if name = "discovery" then .discovery (Record.discovery v)
  else if name = "healthcheck" then .healthcheck (Record.healthcheck v)
  else .teams (sequence .notList Record.team v)

end Model

/-- Mappings from which the same is taken for every key that a record looks at. -/
def Agree (m : Model) (es es' : Entries) : Prop :=
  ∀ name ∈ m.keys, (name = flagKey → lookup flagAlias es = none) →
    (lookup name es).map (m.take name) = (lookup name es').map (m.take name)

namespace Agree

variable {m : Model} {es es' es'' : Entries}

/-- A mapping agrees with itself. -/
theorem refl (m : Model) (es : Entries) : Agree m es es := fun _ _ _ => rfl

/-- Where a record looks at the second key of a flag in one mapping, it does in the other. -/
theorem lookup_alias (h : Agree m es es') (hm : flagKey ∈ m.keys) :
    lookup flagAlias es = none ↔ lookup flagAlias es' = none := by
  have hkeys : flagAlias ∈ m.keys := by
    cases m <;> revert hm <;> decide
  have halias := h flagAlias hkeys fun hne => absurd hne (by decide)
  rw [← Option.map_eq_none_iff, halias, Option.map_eq_none_iff]

/-- Agreement holds in both directions, since under the alias both mappings hold something or neither
does. -/
theorem symm (h : Agree m es es') : Agree m es' es := by
  intro name hname hlooks
  refine (h name hname ?_).symm
  rintro rfl
  exact (h.lookup_alias hname).2 (hlooks rfl)

/-- Two mappings that agree with a third agree with each other. -/
theorem trans (h : Agree m es es') (h' : Agree m es' es'') : Agree m es es'' := by
  intro name hname hlooks
  refine (h name hname hlooks).trans (h' name hname ?_)
  rintro rfl
  exact (h.lookup_alias hname).1 (hlooks rfl)

/-- Mappings with the same values for all keys agree. -/
theorem of_lookup (h : ∀ name ∈ m.keys, lookup name es = lookup name es') : Agree m es es' :=
  fun name hname _ => congrArg _ (h name hname)

/-- Mappings that agree still do with the same entry in front. -/
theorem cons (h : Agree m es es') (e : Value × Value) : Agree m (e :: es) (e :: es') := by
  obtain ⟨k, v⟩ := e
  intro name hname hlooks
  by_cases hk : k = .text name
  · rw [hk, lookup_cons_self, lookup_cons_self]
  · rw [lookup_cons_of_ne hk, lookup_cons_of_ne hk]
    refine h name hname fun hflag => ?_
    have hnone := hlooks hflag
    by_cases halias : k = .text flagAlias
    · rw [halias, lookup_cons_self] at hnone
      cases hnone
    · rwa [lookup_cons_of_ne halias] at hnone

/-- Values of one key from which the same is taken. -/
theorem of_take {name : String} {v v' : Value} (h : m.take name v = m.take name v')
    (rest : Entries) : Agree m ((.text name, v) :: rest) ((.text name, v') :: rest) := by
  intro other _ _
  by_cases hname : name = other
  · subst hname
    rw [lookup_cons_self, lookup_cons_self, Option.map_some, Option.map_some, h]
  · have hne : Value.text name ≠ .text other := fun heq => hname (Value.text.inj heq)
    rw [lookup_cons_of_ne hne, lookup_cons_of_ne hne]

end Agree

/-- The order of two entries with different keys does not matter. -/
theorem lookup_swap {k k' : Value} (h : k ≠ k') (v v' : Value) (es : Entries) (name : String) :
    lookup name ((k, v) :: (k', v') :: es) = lookup name ((k', v') :: (k, v) :: es) := by
  by_cases hk : k = .text name
  · have hk' : k' ≠ .text name := fun hk' => h (hk.trans hk'.symm)
    rw [lookup_cons_of_ne hk', hk, lookup_cons_self, lookup_cons_self]
  · rw [lookup_cons_of_ne hk]
    by_cases hk' : k' = .text name
    · rw [hk', lookup_cons_self, lookup_cons_self]
    · rw [lookup_cons_of_ne hk', lookup_cons_of_ne hk', lookup_cons_of_ne hk]

/-! ### Reading -/

/-- A list is read by what its items are read as. -/
theorem Checked.allFrom_congr {α β : Type} {read : α → Checked β} {xs ys : List α}
    (h : xs.map read = ys.map read) (i : Nat) : allFrom read i xs = allFrom read i ys := by
  induction xs generalizing ys i with
  | nil => rw [List.map_eq_nil_iff.1 h.symm]
  | cons x xs ih =>
    obtain ⟨y, ys, rfl, hy, hys⟩ := List.map_eq_cons_iff.1 h.symm
    rw [allFrom, allFrom, hy, ih hys.symm]

/-- A sequence is read alike if one item is. -/
theorem sequence_congr {α : Type} {read : Reader α} (otherwise : Cause) {v v' x x' : Value}
    {before after : List Value} (hv : v.items? = some (before ++ x :: after))
    (hv' : v'.items? = some (before ++ x' :: after)) (h : read x = read x') :
    sequence otherwise read v = sequence otherwise read v' := by
  rw [sequence_eq, sequence_eq, hv, hv']
  dsimp only
  refine Checked.allFrom_congr ?_ 0
  rw [List.map_append, List.map_append, List.map_cons, List.map_cons, h]

section Readers

variable {α : Type} {key : String} {read : Reader α} {es es' : Entries}

/-- A field is read alike from mappings that hold the same under its key. -/
theorem optional_congr (default_ : α) (h : (lookup key es).map read = (lookup key es').map read) :
    optional key read default_ es = optional key read default_ es' := by
  unfold optional
  cases hes : lookup key es with
  | none =>
    rw [hes] at h
    rw [Option.map_eq_none_iff.1 h.symm]
  | some v =>
    rw [hes, Option.map_some] at h
    obtain ⟨v', hes', hread⟩ := Option.map_eq_some_iff.1 h.symm
    rw [hes']
    dsimp only
    rw [hread]

/-- The second key of the flag of a team is looked at only where the first one is missing. -/
theorem teamFlag_congr (halias : lookup flagAlias es = lookup flagAlias es')
    (hkey : lookup flagAlias es = none → lookup flagKey es = lookup flagKey es') :
    teamFlag es = teamFlag es' := by
  unfold teamFlag
  rw [← halias]
  cases hes : lookup flagAlias es with
  | none => exact optional_congr _ (congrArg _ (hkey hes))
  | some v => rfl

end Readers

namespace Agree

variable {m : Model} {es es' : Entries}

/-- A record that takes values as they are finds the same ones. -/
theorem lookup_eq (h : Agree m es es') (hm : m ≠ .config) {name : String} (hname : name ∈ m.keys)
    (hlooks : name = flagKey → lookup flagAlias es = none) : lookup name es = lookup name es' := by
  have htake : m.take name = Taken.value := funext fun v => if_pos hm
  have hmap := h name hname hlooks
  rw [htake] at hmap
  exact Option.map_injective (fun _ _ => Taken.value.inj) hmap

/-- So it does for a key that is not the second one of a flag. -/
theorem lookup_eq_of_ne (h : Agree m es es') (hm : m ≠ .config) {name : String}
    (hname : name ∈ m.keys ∧ name ≠ flagKey) : lookup name es = lookup name es' :=
  h.lookup_eq hm hname.1 fun hflag => absurd hflag hname.2

/-- A field that must be there is read alike from mappings that agree. -/
theorem required_eq (h : Agree m es es') (hm : m ≠ .config) {name : String}
    (hname : name ∈ m.keys ∧ name ≠ flagKey) {α : Type} (read : Reader α) :
    required name read es = required name read es' := by
  rw [required, required, h.lookup_eq_of_ne hm hname]

/-- A field that may be missing is read alike from mappings that agree. -/
theorem optional_eq (h : Agree m es es') (hm : m ≠ .config) {name : String}
    (hname : name ∈ m.keys ∧ name ≠ flagKey) {α : Type} (read : Reader α) (default_ : α) :
    optional name read default_ es = optional name read default_ es' :=
  optional_congr default_ (congrArg _ (h.lookup_eq_of_ne hm hname))

/-- A configuration reads the same from the values of its keys. -/
theorem part_eq (h : Agree .config es es') (name : String) (hname : name ∈ Model.config.keys)
    {α : Type} {read : Reader α} (taken : Checked α → Taken) (hinj : Function.Injective taken)
    (htake : Model.config.take name = fun v => taken (read v)) (default_ : α) :
    optional name read default_ es = optional name read default_ es' := by
  have hkey : name ≠ flagKey := by
    rintro rfl
    revert hname
    decide
  have hmap := h name hname fun hflag => absurd hflag hkey
  rw [htake] at hmap
  refine optional_congr default_ (Option.map_injective hinj ?_)
  rw [Option.map_map, Option.map_map]
  exact hmap

/-- **Records that take the same are read alike.** -/
theorem read_eq (h : Agree m es es') : m.read (.mapping es) = m.read (.mapping es') := by
  cases m with
  | team =>
    have hteam : Model.team ≠ .config := by decide
    have hflag : teamFlag es = teamFlag es' :=
      teamFlag_congr (h.lookup_eq_of_ne hteam (by decide)) fun hnone =>
        h.lookup_eq hteam (by decide) fun _ => hnone
    show team (.mapping es) = team (.mapping es')
    simp (disch := decide) only [team, record, h.required_eq, hflag]
  | api =>
    show api (.mapping es) = api (.mapping es')
    simp (disch := decide) only [api, record, h.optional_eq]
  | discovery =>
    show discovery (.mapping es) = discovery (.mapping es')
    simp (disch := decide) only [discovery, record, h.optional_eq]
  | healthcheck =>
    show healthcheck (.mapping es) = healthcheck (.mapping es')
    simp (disch := decide) only [healthcheck, record, h.optional_eq]
  | config =>
    have hapi := h.part_eq "api" (by decide) Taken.api (fun _ _ => Taken.api.inj) rfl {}
    have hdiscovery :=
      h.part_eq "discovery" (by decide) Taken.discovery (fun _ _ => Taken.discovery.inj) rfl {}
    have hhealthcheck :=
      h.part_eq "healthcheck" (by decide) Taken.healthcheck (fun _ _ => Taken.healthcheck.inj) rfl {}
    have hteams := h.part_eq "teams" (by decide) Taken.teams (fun _ _ => Taken.teams.inj) rfl []
    show config (.mapping es) = config (.mapping es')
    simp only [config, record, hapi, hdiscovery, hhealthcheck, hteams]
  | file =>
    show configFile (.mapping es) = configFile (.mapping es')
    simp (disch := decide) only [configFile, record, h.required_eq, h.optional_eq]

end Agree

/-- **What does not matter is not taken**, by induction on the changes. -/
theorem Alike.agree {m : Model} {es es' : Entries} (h : Alike m es es') : Agree m es es' := by
  induction h with
  | refl m es => exact .refl m es
  | symm _ ih => exact ih.symm
  | trans _ _ ih ih' => exact ih.trans ih'
  | cons e _ ih => exact ih.cons e
  | swap m hk v v' es => exact .of_lookup fun name _ => lookup_swap hk v v' es name
  | @unknown m k hk v es =>
    refine .of_lookup fun name hname => lookup_cons_of_ne ?_ v es
    rintro rfl
    exact absurd (hk.symm.trans (List.contains_iff_mem.2 hname)) Bool.false_ne_true
  | shadowed hes v =>
    intro name hname hlooks
    have hne : Value.text flagKey ≠ .text name := by
      intro hname
      have hnone := hlooks (Value.text.inj hname).symm
      have halias : Value.text flagKey ≠ .text flagAlias := fun h =>
        absurd (Value.text.inj h) (by decide)
      rw [lookup_cons_of_ne halias] at hnone
      exact hes hnone
    rw [lookup_cons_of_ne hne]
  | part hkey _ rest ih =>
    refine .of_take ?_ rest
    simp only [Model.parts, List.mem_cons, List.not_mem_nil, or_false, Prod.mk.injEq] at hkey
    rcases hkey with ⟨rfl, rfl⟩ | ⟨rfl, rfl⟩ | ⟨rfl, rfl⟩
    · exact congrArg Taken.api ih.read_eq
    · exact congrArg Taken.discovery ih.read_eq
    · exact congrArg Taken.healthcheck ih.read_eq
  | @item v v' _ _ _ _ hv hv' _ rest ih =>
    have htake : Model.config.take "teams" v = Model.config.take "teams" v' :=
      congrArg Taken.teams (sequence_congr .notList hv hv' ih.read_eq)
    exact .of_take htake rest

/-- **Records that are alike are read alike**: as the same record, or with the same faults at the same
paths and in the same order. -/
theorem Alike.read_eq {m : Model} {es es' : Entries} (h : Alike m es es') :
    m.read (.mapping es) = m.read (.mapping es') := h.agree.read_eq

end Record
end LogBalancer
