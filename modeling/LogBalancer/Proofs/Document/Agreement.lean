/-
# Both texts say the same

The two texts of a team list are written by different rules: one is laid out in sections with
nothing escaped, in the other the servers are the members of one object.  Read back, each by a
reader of its own format, they give the same document (`toml_agrees_with_json`).

What the readers need is that names can stand as keys, that no name is there twice, and that the
settings hold nothing that would end a string early.  Ports need only be short enough to be
written.
-/

import LogBalancer.Proofs.Document.Fields
import LogBalancer.Proofs.Document.Writable
import LogBalancer.Proofs.Json.RoundTrip
import LogBalancer.Proofs.Toml.RoundTrip

namespace LogBalancer

/-- Settings whose strings stand for themselves between quotes. -/
structure Settings.IsPlain (settings : Settings) : Prop where
  bind : Toml.isPlain settings.api.bind
  kind : Toml.isPlain settings.discovery.kind
  hosts : ∀ host ∈ settings.discovery.hosts, Toml.isPlain host
  check : ∀ s ∈ [settings.healthcheck.kind, settings.healthcheck.interval,
    settings.healthcheck.timeout, settings.healthcheck.trueScript,
    settings.healthcheck.cacheScript, settings.healthcheck.positiveOutput,
    settings.healthcheck.negativeOutput], Toml.isPlain s

/-! ### Plain strings -/

namespace Toml

/-- Two strings in a row are plain exactly if both are. -/
theorem isPlain_append (s t : String) : isPlain (s ++ t) = (isPlain s && isPlain t) := by
  rw [isPlain, String.toList_append, List.all_append]
  rfl

/-- A numeral is plain. -/
theorem isPlain_numeral (n : Int) : isPlain (Decimal.numeral n) = true := by
  have hdigit : ∀ c, Decimal.isDigit c = true → (c != '"' && c != '\\' && !isControl c) = true := by
    intro c hc
    rw [Decimal.isDigit, Bool.and_eq_true, decide_eq_true_eq, decide_eq_true_eq] at hc
    have hlow : 48 ≤ c.toNat := hc.1
    have hhigh : c.toNat ≤ 57 := hc.2
    simp only [isControl, Bool.and_eq_true, bne_iff_ne, ne_eq, Bool.not_eq_true', Bool.or_eq_false_iff,
      decide_eq_false_iff_not, beq_eq_false_iff_ne]
    refine ⟨⟨?_, ?_⟩, by omega, by omega⟩
    · rintro rfl
      exact absurd hlow (by decide)
    · rintro rfl
      exact absurd hhigh (by decide)
  have hdigits : ∀ n, (Decimal.digits n).all fun c => c != '"' && c != '\\' && !isControl c := by
    intro n
    rw [List.all_eq_true]
    exact fun c hc => hdigit c (Text.isDigit_of_mem_digits hc)
  rw [isPlain, Decimal.numeral, String.toList_ofList]
  cases n with
  | ofNat n => exact hdigits n
  | negSucc n =>
    rw [Decimal.numeralChars, List.all_cons, hdigits, Bool.and_true]
    decide

end Toml

/-! ### The document -/

/-- In plain settings, every string is plain. -/
theorem Settings.IsPlain.texts {settings : Settings} (h : settings.IsPlain) :
    ∀ s ∈ settings.texts, Toml.isPlain s := by
  have hcheck := h.check
  simp only [List.forall_mem_cons] at hcheck
  obtain ⟨hkind, hinterval, htimeout, htrue, hcache, hpositive, hnegative, -⟩ := hcheck
  exact Settings.forall_mem_texts.2 ⟨h.bind, h.kind, h.hosts, hkind, hinterval, htimeout, htrue,
    hcache, hpositive, hnegative⟩

/-- An item of plain strings is plain. -/
theorem Item.isPlain_of_holds {i : Item} (h : i.Holds fun s => Toml.isPlain s) : i.IsPlain := by
  cases i with
  | flag b => trivial
  | number n => trivial
  | text s => exact h
  | texts items => exact h

/-- A table is plain if its keys are bare and different and its strings plain. -/
theorem Toml.IsPlainTable.of_keys {table : List Field}
    (hkeys : (∀ k ∈ table.map Field.key, isBare k) ∧ (table.map Field.key).Nodup)
    (hitems : ∀ f ∈ table, f.item.Holds fun s => isPlain s) : IsPlainTable table := by
  refine ⟨fun f hf => ?_, hkeys.2⟩
  exact ⟨hkeys.1 f.key (List.mem_map_of_mem hf), Item.isPlain_of_holds (hitems f hf)⟩

/-- The table of plain settings is plain. -/
theorem Settings.IsPlain.apiTable {settings : Settings} (h : settings.IsPlain) :
    Toml.IsPlainTable settings.api.fields := by
  have hkeys : (∀ k ∈ apiKeys, Toml.isBare k) ∧ apiKeys.Nodup := by decide
  exact .of_keys (Api.fields_keys settings.api ▸ hkeys) (Api.fields_holds h.texts)

/-- **A server of plain settings is plain**, whatever the port. -/
theorem Settings.IsPlain.server {settings : Settings} (h : settings.IsPlain) {team : Team}
    (hname : Toml.isBare team.name = true) :
    (Server.of settings team (Decimal.numeral team.port)).IsPlain := by
  have happend : ∀ s t, Toml.isPlain s → Toml.isPlain t → Toml.isPlain (s ++ t) := by
    intro s t hs ht
    rw [Toml.isPlain_append, hs, ht, Bool.and_true]
  have hfixed : ∀ s ∈ fixedTexts, Toml.isPlain s := by decide
  have hkeys : (∀ k ∈ serverKeys, Toml.isBare k) ∧ serverKeys.Nodup := by decide
  have htableKeys : ∀ t ∈ serverTableKeys,
      Toml.isBare t.1 ∧ (∀ k ∈ t.2, Toml.isBare k) ∧ t.2.Nodup := by decide
  obtain ⟨hfields, htables⟩ :=
    Server.of_holds happend hfixed h.texts (Toml.isPlain_numeral team.port) team
  refine ⟨hname, .of_keys (Server.of_keys settings team _ ▸ hkeys) hfields, fun t ht => ?_,
    Server.of_keys_nodup settings team _⟩
  obtain ⟨hbare, htable⟩ := Server.forall_tables_keys
    (P := fun name keys => Toml.isBare name ∧ (∀ k ∈ keys, Toml.isBare k) ∧ keys.Nodup) htableKeys
    settings team _ t ht
  exact ⟨hbare, .of_keys htable (htables t ht)⟩

/-- **A document of plain settings is plain**, if every team has a name of its own that is a key. -/
theorem Document.ofTeams_isPlain {settings : Settings} (h : settings.IsPlain) {teams : List Team}
    (hnames : (teams.map Team.name).Nodup) (hbare : ∀ t ∈ teams, Toml.isBare t.name = true)
    {d : Document} (hd : Document.ofTeams settings teams = .ok d)
    (hports : ∀ t ∈ teams, Decimal.isWritable t.port = true) : d.IsPlain := by
  rw [Document.ofTeams_eq_ok settings hports] at hd
  obtain rfl := Except.ok.inj hd
  refine ⟨h.apiTable, ?_, ?_⟩
  · intro s hs
    obtain ⟨t, ht, rfl⟩ := List.mem_map.1 hs
    exact h.server (hbare t ht)
  · rw [List.map_map]
    exact hnames

/-! ### Members -/

/-- The members of a document with the table of servers, an empty one if there was none. -/
def withServers (ms : Toml.Members) : Toml.Members :=
  if (ms.lookup "servers").isSome then ms else ms ++ [("servers", .object [])]

/-- A document's members with its servers, if there are none as well. -/
theorem Document.withServers_members (d : Document) :
    withServers d.members = [("api", .object (fieldMembers d.api)),
      ("servers", .object (d.servers.map fun s => (s.name, s.json)))] := by
  rw [Document.members]
  by_cases hnil : d.servers = []
  · rw [hnil, if_pos rfl]
    rfl
  · rw [if_neg hnil]
    rfl

/-- Both formats have the same members, if every server has a name of its own. -/
theorem Document.json_eq_object {d : Document} (h : (d.servers.map Server.name).Nodup) :
    d.json = .object (withServers d.members) := by
  have hservers : d.servers.foldl (fun ms s => setMember s.name s.json ms) [] =
      d.servers.map fun s => (s.name, s.json) :=
    foldl_setMember Server.name Server.json ((List.nil_append _).symm ▸ h)
  rw [Document.json, hservers, Document.withServers_members]

/-! ### Agreement -/

/-- **Both texts of a team list describe the same configuration.**  Each of them is read back, and
the two readings have the same tables with the same keys and values, servers in the order of their
teams. -/
theorem toml_agrees_with_json {settings : Settings} (hsettings : settings.IsPlain)
    {teams : List Team} (hnames : (teams.map Team.name).Nodup)
    (hbare : ∀ t ∈ teams, Toml.isBare t.name = true)
    (hports : ∀ t ∈ teams, Decimal.isWritable t.port = true) :
    ∃ toml json members servers,
      renderToml settings teams = .ok toml ∧ renderJson settings teams = .ok json ∧
      Toml.read toml = some members ∧ Json.read json = some (.object (withServers members)) ∧
      withServers members =
        [("api", .object (fieldMembers settings.api.fields)), ("servers", .object servers)] ∧
      servers.map Prod.fst = teams.map Team.name := by
  have hdocument := Document.ofTeams_eq_ok settings hports
  obtain ⟨d, hd⟩ : ∃ d, Document.ofTeams settings teams = .ok d := ⟨_, hdocument⟩
  have hplain := Document.ofTeams_isPlain hsettings hnames hbare hd hports
  have hspace : ∀ c ∈ "\n".toList, Json.isSpace c = true := by
    intro c hc
    rw [List.mem_singleton.1 hc]
    rfl
  refine ⟨Toml.render d, d.json.render ++ "\n", d.members, d.servers.map fun s => (s.name, s.json),
    ?_, ?_, Toml.read_render hplain, ?_, ?_, ?_⟩
  · rw [renderToml, hd]
    rfl
  · rw [renderJson, hd]
    rfl
  · rw [Json.read_render d.json hspace, Document.json_eq_object hplain.names]
  · obtain rfl := Except.ok.inj (hdocument.symm.trans hd)
    exact Document.withServers_members _
  · obtain rfl := Except.ok.inj (hdocument.symm.trans hd)
    simp only [List.map_map]
    rfl

/-- Without hosts the list of targets is empty in both texts, and a port need not be one. -/
theorem toml_agrees_with_json_without_hosts :
    ∃ toml json members servers,
      renderToml { discovery := { hosts := [] } } [⟨-514, "a-team", true⟩, ⟨0, "b_2", false⟩] =
        .ok toml ∧
      renderJson { discovery := { hosts := [] } } [⟨-514, "a-team", true⟩, ⟨0, "b_2", false⟩] =
        .ok json ∧
      Toml.read toml = some members ∧ Json.read json = some (.object (withServers members)) ∧
      withServers members =
        [("api", .object (fieldMembers (Api.fields {}))), ("servers", .object servers)] ∧
      servers.map Prod.fst = ["a-team", "b_2"] :=
  toml_agrees_with_json ⟨by decide, by decide, by decide, by decide⟩ (by decide) (by decide)
    (by decide +kernel)

end LogBalancer
