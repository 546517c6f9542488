/-
# The fields of a server

Every server has the same keys in the same tables, whatever its team is (`Server.of_keys`,
`Server.of_tables_keys`).  What is between them are strings of the settings, fixed ones, and some
that are put together from these and the port.  A property that strings keep when they are put
together therefore holds of all strings of a server once it holds of the parts (`Server.of_holds`).
-/

import LogBalancer.Document.Basic

namespace LogBalancer

/-- A property of all strings of an item. -/
def Item.Holds (P : String → Prop) : Item → Prop
  | .flag _ | .number _ => True
  | .text s => P s
  | .texts items => ∀ s ∈ items, P s

/-! ### Keys -/

/-- The keys of the `api` table. -/
def apiKeys : List String := ["enabled", "bind"]

/-- The keys of a server's own fields. -/
def serverKeys : List String :=
  ["bind", "protocol", "balance", "backend_idle_timeout", "client_idle_timeout"]

/-- The tables of a server, each with its keys. -/
def serverTableKeys : List (String × List String) :=
  [("udp", ["max_requests", "max_responses"]),
   ("discovery", ["kind", "static_list"]),
   ("healthcheck", ["interval", "kind", "exec_command", "exec_expected_positive_output",
     "exec_expected_negative_output", "timeout"])]

/-- The keys of the table of the interface do not depend on its settings. -/
theorem Api.fields_keys (api : Api) : api.fields.map Field.key = apiKeys := rfl

/-- The keys of a server do not depend on its team. -/
theorem Server.of_keys (settings : Settings) (team : Team) (port : String) :
    (Server.of settings team port).fields.map Field.key = serverKeys := rfl

/-- The names and keys of the tables of a server do not depend on its team either. -/
theorem Server.of_tables_keys (settings : Settings) (team : Team) (port : String) :
    (Server.of settings team port).tables.map (fun t => (t.1, t.2.map Field.key)) =
      serverTableKeys := rfl

/-- What holds of the keys of every table holds of those of a server. -/
theorem Server.forall_tables_keys {P : String → List String → Prop}
    (h : ∀ t ∈ serverTableKeys, P t.1 t.2) (settings : Settings) (team : Team) (port : String) :
    ∀ t ∈ (Server.of settings team port).tables, P t.1 (t.2.map Field.key) := by
  intro t ht
  have hmem : (t.1, t.2.map Field.key) ∈ serverTableKeys := by
    rw [← Server.of_tables_keys settings team port]
    exact List.mem_map_of_mem ht
  exact h _ hmem

/-- No key stands for two parts of a server. -/
theorem Server.of_keys_nodup (settings : Settings) (team : Team) (port : String) :
    ((Server.of settings team port).fields.map Field.key ++
      (Server.of settings team port).tables.map Prod.fst).Nodup := by
  show (serverKeys ++ serverTableKeys.map Prod.fst).Nodup
  decide

/-- No table of a server has a key twice. -/
theorem Server.of_tables_keys_nodup (settings : Settings) (team : Team) (port : String) :
    ∀ t ∈ (Server.of settings team port).tables, (t.2.map Field.key).Nodup := by
  have hkeys : ∀ t ∈ serverTableKeys, t.2.Nodup := by decide
  exact Server.forall_tables_keys (P := fun _ keys => keys.Nodup) hkeys settings team port

/-! ### Strings -/

/-- The strings of the settings. -/
def Settings.texts (settings : Settings) : List String :=
  let check := settings.healthcheck
  settings.api.bind :: settings.discovery.kind :: settings.discovery.hosts ++
    [check.kind, check.interval, check.timeout, check.trueScript, check.cacheScript,
      check.positiveOutput, check.negativeOutput]

/-- The strings that a server is put together from, besides its settings and its port. -/
def fixedTexts : List String := ["0.0.0.0", ":", "udp", "roundrobin", "0", "./"]

section Holds

variable {P : String → Prop} {settings : Settings}

/-- The strings of the settings, one by one. -/
theorem Settings.forall_mem_texts : (∀ s ∈ settings.texts, P s) ↔
    P settings.api.bind ∧ P settings.discovery.kind ∧ (∀ host ∈ settings.discovery.hosts, P host) ∧
    P settings.healthcheck.kind ∧ P settings.healthcheck.interval ∧
    P settings.healthcheck.timeout ∧ P settings.healthcheck.trueScript ∧
    P settings.healthcheck.cacheScript ∧ P settings.healthcheck.positiveOutput ∧
    P settings.healthcheck.negativeOutput := by
  simp only [Settings.texts, List.cons_append, List.forall_mem_cons, List.forall_mem_append,
    List.not_mem_nil, false_imp_iff, implies_true, and_true]

/-- A property of the strings of the settings holds of those of the `api` table. -/
theorem Api.fields_holds (h : ∀ s ∈ settings.texts, P s) :
    ∀ f ∈ settings.api.fields, f.item.Holds P := by
  obtain ⟨hbind, -⟩ := Settings.forall_mem_texts.1 h
  exact List.forall_mem_cons.2 ⟨trivial, List.forall_mem_singleton.2 hbind⟩

/-- **A property that strings keep when they are put together** holds of all strings of a server, if
it holds of the strings of the settings, of the fixed ones and of the port. -/
theorem Server.of_holds (happend : ∀ s t, P s → P t → P (s ++ t)) (hfixed : ∀ s ∈ fixedTexts, P s)
    (h : ∀ s ∈ settings.texts, P s) {port : String} (hport : P port) (team : Team) :
    (∀ f ∈ (Server.of settings team port).fields, f.item.Holds P) ∧
      ∀ t ∈ (Server.of settings team port).tables, ∀ f ∈ t.2, f.item.Holds P := by
  obtain ⟨-, hfound, hhosts, hkind, hinterval, htimeout, htrue, hcache, hpositive, hnegative⟩ :=
    Settings.forall_mem_texts.1 h
  simp only [fixedTexts, List.forall_mem_cons] at hfixed
  obtain ⟨haddress, hcolon, hprotocol, hbalance, hidle, hdot, -⟩ := hfixed
  have htarget : ∀ host, P host → P (target host port) :=
    fun host hhost => happend _ _ (happend _ _ hhost hcolon) hport
  have htargets : ∀ s ∈ settings.discovery.hosts.map (target · port), P s :=
    List.forall_mem_map.2 fun host hhost => htarget host (hhosts host hhost)
  have hscript : P ("./" ++ settings.healthcheck.script team) := by
    refine happend _ _ hdot ?_
    rw [Healthcheck.script]
    split
    · exact htrue
    · exact hcache
  simp only [Server.of, List.forall_mem_cons, List.not_mem_nil, false_imp_iff, implies_true,
    and_true, true_and, Item.Holds]
  exact ⟨⟨htarget _ haddress, hprotocol, hbalance, hidle, hidle⟩, ⟨hfound, htargets⟩,
    hinterval, hkind, hscript, hpositive, hnegative, htimeout⟩

end Holds

end LogBalancer
