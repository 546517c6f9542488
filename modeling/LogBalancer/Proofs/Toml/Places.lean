/-
# Strings in both texts

Which strings a TOML text keeps that puts them between quotes as they are: exactly those that are
verbatim, at every place where a setting stands (`string_kept_iff_isVerbatim`).  The JSON text
keeps every string (`string_not_kept_of_quote` has one that only it keeps).
-/

import LogBalancer.Proofs.Document.Servers
import LogBalancer.Proofs.Toml.Pieces
import LogBalancer.Proofs.Toml.Values
import LogBalancer.Proofs.Toml.Verbatim

namespace LogBalancer

open Record (PathStep)

/-! ### The strings of a configuration -/

/-- The strings of the settings and of a team whose port is written as `port`, each with the path of
its value. -/
def Settings.strings (settings : Settings) (team : Team) (port : String) :
    List (List PathStep × String) :=
  let inServer (below : List PathStep) := Toml.serverPath team.name ++ below
  let check := settings.healthcheck
  [([.key "api", .key "bind"], settings.api.bind),
   (inServer [.key "bind"], "0.0.0.0:" ++ port),
   (inServer [.key "protocol"], "udp"),
   (inServer [.key "balance"], "roundrobin"),
   (inServer [.key "backend_idle_timeout"], "0"),
   (inServer [.key "client_idle_timeout"], "0"),
   (inServer [.key "discovery", .key "kind"], settings.discovery.kind)] ++
  settings.discovery.hosts.zipIdx.map (fun (host, i) =>
    (inServer [.key "discovery", .key "static_list", .index i], host ++ ":" ++ port)) ++
  [(inServer [.key "healthcheck", .key "interval"], check.interval),
   (inServer [.key "healthcheck", .key "kind"], check.kind),
   (inServer [.key "healthcheck", .key "exec_command"], "./" ++ check.script team),
   (inServer [.key "healthcheck", .key "exec_expected_positive_output"], check.positiveOutput),
   (inServer [.key "healthcheck", .key "exec_expected_negative_output"], check.negativeOutput),
   (inServer [.key "healthcheck", .key "timeout"], check.timeout)]

namespace Toml

/-- The strings of the pieces are those of the settings and the team. -/
theorem strings_pieces (settings : Settings) (team : Team) (port : String) :
    strings (preamblePieces settings.api.fields ++ serverPieces (Server.of settings team port)) =
      settings.strings team port := by
  have hhosts (path : List PathStep) : strings (itemPieces serverMargin path
      (.texts (settings.discovery.hosts.map (target · port)))) =
        settings.discovery.hosts.zipIdx.map fun (host, i) =>
          (path ++ [.index i], host ++ ":" ++ port) := by
    rw [strings_itemPieces_texts, List.zipIdx_map, List.map_map]
    rfl
  rw [strings_append, strings_preamblePieces, strings_serverPieces]
  simp only [Server.of, List.map_cons, List.map_nil, List.flatMap_cons, List.flatMap_nil, hhosts,
    List.append_nil, List.append_assoc, Settings.strings]
  rfl

end Toml

/-! ### Their places in the JSON value -/

/-- The last server of a name is the one that the value of a document has. -/
theorem Document.at?_serverPath {d : Document} {before after : List Server} {s : Server}
    (hservers : d.servers = before ++ s :: after) (hlast : ∀ u ∈ after, u.name ≠ s.name) :
    d.json.at? (Toml.serverPath s.name) = some s.json := by
  have hlookup := lookup_foldl_setMember Server.name Server.json before hlast []
  rw [← hservers] at hlookup
  show (Json.object (d.servers.foldl (fun ms s => setMember s.name s.json ms) [])).at?
    [.key s.name] = _
  rw [Json.at?, hlookup]
  rfl

namespace Toml

/-! ### Their places in the TOML text -/

/-- **What is read at the place of a string**: itself up to its closing quote, if it is verbatim,
and otherwise not itself. -/
theorem value?_string_iff (path : List PathStep) (s : String) (rear : List Piece)
    (behind rest : List Char) :
    value? ((text (.string path s :: rear)).toList ++ behind) = some (.text s, rest) ↔
      isVerbatim s = true ∧ rest = (text rear).toList ++ behind := by
  have htext : (text (.string path s :: rear)).toList ++ behind =
      '"' :: (s.toList ++ '"' :: ((text rear).toList ++ behind)) := by
    rw [text_cons, Piece.text, quote]
    simp only [String.toList_append, List.append_assoc]
    rfl
  rw [htext, value?, ← string?_eq_self_iff]
  constructor
  · intro h
    obtain ⟨⟨t, r⟩, hread, he⟩ := Option.map_eq_some_iff.1 h
    obtain ⟨ht, rfl⟩ := Prod.mk.inj he
    rw [hread, Json.text.inj ht]
  · intro h
    rw [h]
    rfl

/-- **A setting is kept by both texts exactly if it is verbatim.**  For the last team of a name,
every string between quotes in the `api` section and in the team's sections is in the JSON text
under its path.  Where it stands in the TOML text it is read as itself, up to the quote that closes
it, exactly if it holds no quote, no backslash and no control character but the tab. -/
theorem string_kept_iff_isVerbatim (settings : Settings) {before after : List Team} {team : Team}
    (hlast : ∀ t ∈ after, t.name ≠ team.name)
    (hports : ∀ t ∈ before ++ team :: after, Decimal.isWritable t.port = true) :
    ∃ server json value,
      Server.ofTeam settings team = .ok server ∧
      renderJson settings (before ++ team :: after) = .ok json ∧ Json.read json = some value ∧
      text (preamblePieces settings.api.fields) = preamble settings.api.fields ∧
      text (serverPieces server) = serverBlock server ∧
      strings (preamblePieces settings.api.fields ++ serverPieces server) =
        settings.strings team (Decimal.numeral team.port) ∧
      ∀ pieces ∈ [preamblePieces settings.api.fields, serverPieces server],
        ∀ front path s rear, pieces = front ++ .string path s :: rear →
          value.at? path = some (.text s) ∧
          ∀ behind rest, value? ((text (.string path s :: rear)).toList ++ behind) =
              some (.text s, rest) ↔
            isVerbatim s = true ∧ rest = (text rear).toList ++ behind := by
  have hteam := hports team (List.mem_append_right _ List.mem_cons_self)
  have hserver : Server.ofTeam settings team =
      .ok (Server.of settings team (Decimal.numeral team.port)) := by
    rw [Server.ofTeam, portText_of_isWritable hteam]
    rfl
  have hjson := congrArg (Except.map fun d => d.json.render ++ "\n")
    (Document.ofTeams_eq_ok settings hports)
  refine ⟨_, _, _, hserver, hjson, Json.read_line _, text_preamblePieces _, text_serverPieces _,
    strings_pieces settings team _, ?_⟩
  intro pieces hpieces front path s rear hsplit
  have hmem : .string path s ∈ pieces := hsplit ▸ List.mem_append_right _ List.mem_cons_self
  refine ⟨?_, value?_string_iff path s rear⟩
  rcases List.mem_cons.1 hpieces with rfl | hpieces
  · have hkeys : (settings.api.fields.map Field.key).Nodup :=
      show ["enabled", "bind"].Nodup by decide
    exact at?_of_mem_preamblePieces hkeys hmem
  · obtain rfl := List.mem_singleton.1 hpieces
    refine at?_of_mem_serverPieces (Server.of_keys_nodup settings team _)
      (Server.of_tables_keys_nodup settings team _) ?_ hmem
    refine Document.at?_serverPath List.map_append ?_
    intro u hu
    obtain ⟨t, ht, rfl⟩ := List.mem_map.1 hu
    exact hlast t ht

/-- A tab stands for itself in both texts. -/
theorem string_kept_of_tab :
    ∃ json value,
      renderJson { api := { bind := "a\tb" } } [⟨514, "a", true⟩, ⟨515, "a", false⟩] = .ok json ∧
      Json.read json = some value ∧
      value.at? [.key "api", .key "bind"] = some (.text "a\tb") ∧
      value? ((text [.string [.key "api", .key "bind"] "a\tb", .fixed "\n"]).toList ++ []) =
        some (.text "a\tb", ['\n']) := by
  obtain ⟨server, json, value, -, hjson, hread, -, -, -, hkept⟩ :=
    @string_kept_iff_isVerbatim { api := { bind := "a\tb" } } [⟨514, "a", true⟩] []
      ⟨515, "a", false⟩ (by decide) (by decide +kernel)
  obtain ⟨hat, hvalue⟩ := hkept _ List.mem_cons_self
    [.fixed ("[" ++ "api" ++ "]"), .fixed "\n", .fixed ("" ++ "enabled" ++ " = "), .fixed "true",
      .fixed "\n", .fixed ("" ++ "bind" ++ " = ")]
    [.key "api", .key "bind"] "a\tb" [.fixed "\n"] rfl
  exact ⟨json, value, hjson, hread, hat, (hvalue [] ['\n']).2 ⟨by decide, by decide⟩⟩

/-- A quote in a setting ends its string early, in the TOML text only. -/
theorem string_not_kept_of_quote :
    preamble (Api.fields { bind := "a\"b" }) =
      text [.fixed "[api]\nenabled = true\nbind = ",
        .string [.key "api", .key "bind"] "a\"b", .fixed "\n"] ∧
    value? (text [.string [.key "api", .key "bind"] "a\"b", .fixed "\n"]).toList =
      some (.text "a", ['b', '"', '\n']) ∧
    ∃ json value,
      renderJson { api := { bind := "a\"b" } } [] = .ok json ∧ Json.read json = some value ∧
      value.at? [.key "api", .key "bind"] = some (.text "a\"b") := by
  have hread : string? ("a".toList ++ '"' :: ['b', '"', '\n']) = some ("a", ['b', '"', '\n']) :=
    string?_of_isPlain (by decide) _
  refine ⟨by decide, ?_, _, _, rfl, Json.read_line _, rfl⟩
  show value? ('"' :: ("a".toList ++ '"' :: ['b', '"', '\n'])) = _
  rw [value?, hread]
  rfl

end Toml
end LogBalancer
