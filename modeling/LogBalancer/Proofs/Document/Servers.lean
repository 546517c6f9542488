/-
# The JSON text and its document

What the JSON text of a team list says, read back: an object with the `api` table and the servers,
and each server has the members that `Settings.serverValue` writes out.  Names may stand in a list
more than once.  A server then stands where its name first occurs, and is that of the last team with
the name (`json_round_trip`).
-/

import LogBalancer.Proofs.Document.Fields
import LogBalancer.Proofs.Document.Writable
import LogBalancer.Proofs.Json.RoundTrip
import LogBalancer.Proofs.Json.Shape
import LogBalancer.Proofs.Members
import LogBalancer.Proofs.Problem.Validity
import LogBalancer.Proofs.Text.Lines

namespace LogBalancer

open Json (NoRepeats)

/-! ### The value of a server -/

/-- The server of a team as a JSON value. -/
def Settings.serverValue (settings : Settings) (team : Team) : Json :=
  let port := Decimal.numeral team.port
  let check := settings.healthcheck
  .object
    [("bind", .text ("0.0.0.0:" ++ port)),
     ("protocol", .text "udp"),
     ("balance", .text "roundrobin"),
     ("backend_idle_timeout", .text "0"),
     ("client_idle_timeout", .text "0"),
     ("udp", .object [("max_requests", .number 1), ("max_responses", .number 0)]),
     ("discovery", .object
       [("kind", .text settings.discovery.kind),
        ("static_list",
          .array (settings.discovery.hosts.map fun host => .text (host ++ ":" ++ port)))]),
     ("healthcheck", .object
       [("interval", .text check.interval),
        ("kind", .text check.kind),
        ("exec_command",
          .text ("./" ++ if team.trueCheck then check.trueScript else check.cacheScript)),
        ("exec_expected_positive_output", .text check.positiveOutput),
        ("exec_expected_negative_output", .text check.negativeOutput),
        ("timeout", .text check.timeout)])]

/-- The server that is written for a team is the one that its document holds. -/
theorem Server.json_of (settings : Settings) (team : Team) :
    (Server.of settings team (Decimal.numeral team.port)).json = settings.serverValue team := by
  have htargets : (settings.discovery.hosts.map
      (target · (Decimal.numeral team.port))).map Json.text =
        settings.discovery.hosts.map fun host =>
          .text (host ++ ":" ++ Decimal.numeral team.port) := List.map_map
  simp only [Server.json, Server.of, fieldMembers, Item.json, htargets, List.map_cons,
    List.map_nil, List.cons_append, List.nil_append]
  rfl

/-! ### No name twice -/

/-- A table has no name twice if its fields have keys of their own. -/
theorem fieldMembers_noRepeats {fields : List Field} (h : (fields.map Field.key).Nodup) :
    NoRepeats (.object (fieldMembers fields)) := by
  refine .object ?_ ?_
  · rw [fieldMembers, List.map_map]
    exact h
  · intro m hm
    obtain ⟨f, -, rfl⟩ := List.mem_map.1 hm
    exact f.item.json_noRepeats

/-- A server has no name twice, in it or in its tables, if its keys are different. -/
theorem Server.json_noRepeats {s : Server}
    (hkeys : (s.fields.map Field.key ++ s.tables.map Prod.fst).Nodup)
    (htables : ∀ t ∈ s.tables, (t.2.map Field.key).Nodup) : s.json.NoRepeats := by
  refine .object ?_ ?_
  · rw [List.map_append, fieldMembers, List.map_map, List.map_map]
    exact hkeys
  · intro m hm
    rcases List.mem_append.1 hm with hfield | htable
    · obtain ⟨f, -, rfl⟩ := List.mem_map.1 hfield
      exact f.item.json_noRepeats
    · obtain ⟨t, ht, rfl⟩ := List.mem_map.1 htable
      exact fieldMembers_noRepeats (htables t ht)

/-! ### The servers -/

/-- The servers of some teams, set one after the other. -/
def Settings.servers (settings : Settings) (teams : List Team) : List (String × Json) :=
  teams.foldl (fun ms t => setMember t.name (settings.serverValue t) ms) []

/-- No object in a server has a name twice. -/
theorem Settings.serverValue_noRepeats (settings : Settings) (team : Team) :
    (settings.serverValue team).NoRepeats := by
  rw [← Server.json_of]
  exact Server.json_noRepeats (Server.of_keys_nodup settings team _)
    (Server.of_tables_keys_nodup settings team _)

/-- The servers of any teams have distinct names, also where the teams do not. -/
theorem Settings.servers_noRepeats (settings : Settings) (teams : List Team) :
    NoRepeats (.object (settings.servers teams)) := by
  refine .object (nodup_foldl_setMember Team.name settings.serverValue teams) ?_
  intro m hm
  obtain ⟨t, -, rfl⟩ := mem_foldl_setMember Team.name settings.serverValue hm
  exact settings.serverValue_noRepeats t

/-- **The value of a team list**: the `api` table and the servers. -/
theorem Document.json_ofTeams (settings : Settings) (teams : List Team) :
    Document.json ⟨settings.api.fields,
        teams.map fun t => Server.of settings t (Decimal.numeral t.port)⟩ =
      .object
        [("api", .object
          [("enabled", .flag settings.api.enabled), ("bind", .text settings.api.bind)]),
         ("servers", .object (settings.servers teams))] := by
  have hservers : (teams.map fun t => Server.of settings t (Decimal.numeral t.port)).foldl
      (fun ms s => setMember s.name s.json ms) [] = settings.servers teams := by
    rw [List.foldl_map, Settings.servers]
    simp only [Server.json_of]
    rfl
  rw [Document.json, hservers]
  rfl

/-! ### The round trip -/

/-- **The JSON text of a team list is read back exactly**, whatever its strings and names.  The text
is ASCII and ends with one line end.  Its value has the `api` table and the servers, and no name
twice in any object.  The servers stand in the order in which their names first occur, and each is
that of the last team with its name; so there is one for each team, in order, if the list is
valid. -/
theorem json_round_trip (settings : Settings) {teams : List Team}
    (hports : ∀ t ∈ teams, (Decimal.digits t.port.natAbs).length ≤ 4300) :
    ∃ text document servers, renderJson settings teams = .ok text ∧
      (∀ c ∈ text.toList, c.toNat < 128) ∧ Text.EndsInOneLineEnd text ∧
      Json.read text = some document ∧
      document = .object
        [("api", .object
          [("enabled", .flag settings.api.enabled), ("bind", .text settings.api.bind)]),
         ("servers", .object servers)] ∧
      document.NoRepeats ∧
      servers.map Prod.fst = (teams.map Team.name).eraseDups ∧
      (∀ before team after, teams = before ++ team :: after →
        (∀ t ∈ after, t.name ≠ team.name) →
          servers.lookup team.name = some (settings.serverValue team)) ∧
      (findProblems teams = .ok [] →
        servers = teams.map fun t => (t.name, settings.serverValue t)) := by
  have hwritable : ∀ t ∈ teams, Decimal.isWritable t.port = true :=
    fun t ht => (Decimal.isWritable_iff t.port).2 (hports t ht)
  have hdocument := Document.json_ofTeams settings teams
  have htext := congrArg (Except.map fun d => d.json.render ++ "\n")
    (Document.ofTeams_eq_ok settings hwritable)
  refine ⟨_, _, settings.servers teams, htext, ?_, ?_, Json.read_line _, hdocument, ?_, ?_, ?_, ?_⟩
  · intro c hc
    rw [String.toList_append, List.mem_append] at hc
    rcases hc with hvalue | hend
    · exact Json.isAscii_render _ c hvalue
    · rw [List.mem_singleton.1 hend]
      decide
  · refine ⟨_, rfl, ?_⟩
    rw [hdocument, Json.render_object_getLast?]
    decide
  · rw [hdocument]
    refine .object ?_ (List.forall_mem_cons.2 ⟨?_, List.forall_mem_singleton.2 ?_⟩)
    · show ["api", "servers"].Nodup
      decide
    · have hkeys : (settings.api.fields.map Field.key).Nodup := by
        rw [Api.fields_keys]
        decide
      exact fieldMembers_noRepeats hkeys
    · exact settings.servers_noRepeats teams
  · exact map_fst_foldl_setMember Team.name settings.serverValue teams
  · rintro before team after rfl hlast
    exact lookup_foldl_setMember Team.name settings.serverValue before hlast []
  · intro hvalid
    have hnames := ((findProblems_eq_nil_iff teams).1 hvalid).names
    exact foldl_setMember Team.name settings.serverValue ((List.nil_append _).symm ▸ hnames)

/-- A name may be written with a quote, a line end and a character beyond U+FFFF, and stand in the
list again: the first team with it gives the place, and the last one the port and the script. -/
theorem json_round_trip_of_repeated_name :
    let settings : Settings :=
      { api := { bind := "a\"\\\u0000😀" }, discovery := { hosts := ["\x7f é\t", ""] } }
    let teams : List Team := [⟨-514, "\"\n😀", true⟩, ⟨0, "", false⟩, ⟨99999, "\"\n😀", false⟩]
    ∃ text document servers, renderJson settings teams = .ok text ∧
      (∀ c ∈ text.toList, c.toNat < 128) ∧ Text.EndsInOneLineEnd text ∧
      Json.read text = some document ∧
      document = .object
        [("api", .object [("enabled", .flag true), ("bind", .text "a\"\\\u0000😀")]),
         ("servers", .object servers)] ∧
      document.NoRepeats ∧ servers.map Prod.fst = ["\"\n😀", ""] ∧
      servers.lookup "\"\n😀" = some (settings.serverValue ⟨99999, "\"\n😀", false⟩) := by
  intro settings teams
  have hports : ∀ t ∈ teams, (Decimal.digits t.port.natAbs).length ≤ 4300 := by
    decide +kernel
  obtain ⟨text, document, servers, hrender, hascii, hend, hread, hdocument, hrepeats, hnames, hlast,
    -⟩ := json_round_trip settings hports
  have hdistinct : (teams.map Team.name).eraseDups = ["\"\n😀", ""] := by
    decide +kernel
  exact ⟨text, document, servers, hrender, hascii, hend, hread, hdocument, hrepeats,
    hnames.trans hdistinct, hlast (teams.take 2) _ [] rfl fun _ h => absurd h List.not_mem_nil⟩

end LogBalancer
