/-
# Complaints

What is wrong with a configuration, in words, when it is asked for in the format of a name: that
there is none, that the format is not known, that a port cannot be written, or, if the list is to
be validated, its problems.  `Resolved.complaints` says so without rendering anything, and
`Resolved.complaints_eq_nil_iff` when there is nothing to say.

Rendering succeeds exactly if there are no complaints, and otherwise leaves them as its errors
(`generate_spec`); so does the whole operation when its text has a place that takes it
(`run_of_resolved`).
-/

import LogBalancer.Proofs.Generation.Outcome
import LogBalancer.Proofs.Problem.Messages

namespace LogBalancer

/-! ### Rendering -/

/-- **A document comes to be exactly if every port can be written.** -/
theorem Document.ofTeams_isOk_iff (settings : Settings) (teams : List Team) :
    (∃ d, Document.ofTeams settings teams = .ok d) ↔
      ∀ t ∈ teams, Decimal.isWritable t.port = true := by
  have hserver (t : Team) : (∃ s, Server.ofTeam settings t = .ok s) ↔
      Decimal.isWritable t.port = true := by
    rw [Server.ofTeam, bind_pure_comp, map_isOk_iff, portText_isOk_iff]
  rw [Document.ofTeams, bind_pure_comp, map_isOk_iff, mapM_isOk_iff]
  simp only [hserver]

/-- **In either format, teams can be written exactly if no port is too long.** -/
theorem Format.render_isOk_iff (format : Format) (settings : Settings) (teams : List Team) :
    (∃ text, format.render settings teams = .ok text) ↔
      ∀ t ∈ teams, Decimal.isWritable t.port = true := by
  rw [← Document.ofTeams_isOk_iff settings]
  cases format with
  | toml => exact map_isOk_iff _
  | json => exact map_isOk_iff _

/-- A format is found by its name. -/
theorem Format.ofName?_name (format : Format) : Format.ofName? format.name = some format := by
  cases format <;> decide

/-! ### What is wrong -/

/-- A configuration and the file it is from, if it is from one, or why there is none. -/
abbrev Resolved := Except ConfigError (Config × Option Path)

namespace Resolved

/-- The file that the configuration is from. -/
def source : Resolved → Option Path
  | .ok (_, source) => source
  | .error _ => none

/-- The number of teams of the configuration. -/
def teamCount : Resolved → Nat
  | .ok (config, _) => config.teams.length
  | .error _ => 0

/-- Whether every port of the configuration can be written. -/
def IsWritable (resolved : Resolved) : Prop :=
  ∀ config source, resolved = .ok (config, source) →
    ∀ t ∈ config.teams, Decimal.isWritable t.port = true

/-- **What is wrong**, in words, with a configuration that is asked for in the format of a name,
validated or not. -/
def complaints (format : String) (validate : Bool) : Resolved → List String
  | .error e => [e.message]
  | .ok (config, _) =>
    match Format.ofName? format, findProblems config.teams with
    | none, _ => [(RenderError.unknownFormat format).message]
    | some _, .error _ => [TooLong.message]
    | some _, .ok problems => if validate then problems else []

/-- A configuration that is asked for in a known format, whose ports can be written and which is
valid if that is asked for. -/
def IsGood (format : String) (validate : Bool) (resolved : Resolved) : Prop :=
  ∃ config source, resolved = .ok (config, source) ∧ (Format.ofName? format).isSome ∧
    (∀ t ∈ config.teams, Decimal.isWritable t.port = true) ∧
    (validate = true → IsValid config.teams)

/-- Nothing depends on which of the known formats is asked for. -/
theorem complaints_of_known (format : Format) (validate : Bool) (resolved : Resolved) :
    resolved.complaints format.name validate = resolved.complaints Format.toml.name validate := by
  cases resolved with
  | error e => rfl
  | ok found =>
    rw [complaints, complaints, Format.ofName?_name, Format.ofName?_name]
    cases findProblems found.1.teams <;> rfl

/-- **There is nothing to say exactly about a good configuration.** -/
theorem complaints_eq_nil_iff (format : String) (validate : Bool) (resolved : Resolved) :
    resolved.complaints format validate = [] ↔ resolved.IsGood format validate := by
  cases resolved with
  | error e =>
    refine ⟨fun h => absurd h (List.cons_ne_nil _ _), ?_⟩
    rintro ⟨_, _, h, -⟩
    cases h
  | ok found =>
    obtain ⟨config, source⟩ := found
    have hunique : IsGood format validate (.ok (config, source)) ↔
        (Format.ofName? format).isSome ∧ (∃ problems, findProblems config.teams = .ok problems) ∧
          (validate = true → findProblems config.teams = .ok []) := by
      rw [findProblems_isOk_iff, findProblems_eq_nil_iff]
      constructor
      · rintro ⟨_, _, h, hrest⟩
        obtain ⟨rfl, rfl⟩ := Prod.mk.inj (Except.ok.inj h)
        exact hrest
      · exact fun hrest => ⟨config, source, rfl, hrest⟩
    rw [hunique, complaints]
    cases Format.ofName? format with
    | none => exact ⟨fun h => absurd h (List.cons_ne_nil _ _), fun h => absurd h.1 (by decide)⟩
    | some f =>
      cases findProblems config.teams with
      | error e =>
        refine ⟨fun h => absurd h (List.cons_ne_nil _ _), ?_⟩
        rintro ⟨-, ⟨_, h⟩, -⟩
        cases h
      | ok problems => cases validate <;> simp

end Resolved

/-! ### Generating -/

namespace Generation

/-- Teams are rendered, or a port cannot be written, or they are refused for their problems. -/
theorem renderTeams_cases (format : Format) (validate : Bool) (settings : Settings)
    (teams : List Team) :
    (∃ problems text, findProblems teams = .ok problems ∧ (validate = true → problems = []) ∧
        renderTeams format validate settings teams = .ok text) ∨
      (∃ long e, findProblems teams = .error long ∧
        renderTeams format validate settings teams = .error e ∧
        renderErrors e = [TooLong.message]) ∨
      ∃ p ps, validate = true ∧ findProblems teams = .ok (p :: ps) ∧
        renderTeams format validate settings teams = .error (.refused (.invalid (p :: ps))) := by
  have hrender := format.render_isOk_iff settings teams
  rw [← findProblems_isOk_iff] at hrender
  cases hproblems : findProblems teams with
  | error long =>
    refine .inr (.inl ?_)
    cases validate with
    | true =>
      refine ⟨long, .refused .tooLong, rfl, ?_, rfl⟩
      simp only [renderTeams, validateTeams, hproblems]
      rfl
    | false =>
      refine ⟨long, .tooLong, rfl, ?_, rfl⟩
      simp only [renderTeams]
      cases htext : format.render settings teams with
      | ok text =>
        obtain ⟨problems, h⟩ := hrender.1 ⟨text, htext⟩
        cases hproblems.symm.trans h
      | error e => rfl
  | ok problems =>
    obtain ⟨text, htext⟩ := hrender.2 ⟨problems, hproblems⟩
    cases validate with
    | false =>
      refine .inl ⟨problems, text, rfl, fun h => absurd h Bool.false_ne_true, ?_⟩
      simp only [renderTeams, htext]
      rfl
    | true =>
      cases problems with
      | nil =>
        refine .inl ⟨[], text, rfl, fun _ => rfl, ?_⟩
        simp only [renderTeams, validateTeams, hproblems, htext]
        rfl
      | cons p ps =>
        refine .inr (.inr ⟨p, ps, rfl, rfl, ?_⟩)
        simp only [renderTeams, validateTeams, hproblems]
        rfl

/-- **A configuration is rendered exactly if there are no complaints**, which else are its
errors. -/
theorem generate_spec (config : Config) (source : Option Path) (format : String)
    (validate : Bool) :
    let complaints := Resolved.complaints format validate (.ok (config, source))
    (complaints = [] ∧ ∃ file, ConfigFile.generate config none format validate = .ok file) ∨
      complaints ≠ [] ∧
        ∃ e, ConfigFile.generate config none format validate = .error e ∧
          renderErrors e = complaints := by
  simp only [Resolved.complaints, ConfigFile.generate]
  cases Format.ofName? format with
  | none => exact .inr ⟨List.cons_ne_nil _ _, _, rfl, rfl⟩
  | some f =>
    rcases renderTeams_cases f validate config.toSettings config.teams with
      ⟨problems, text, hproblems, hnone, hrender⟩ | ⟨long, e, hproblems, hrender, herrors⟩ |
      ⟨p, ps, rfl, hproblems, hrender⟩
    · simp only [hproblems, hrender]
      refine .inl ⟨?_, _, rfl⟩
      cases validate with
      | true => exact hnone rfl
      | false => rfl
    · simp only [hproblems, hrender]
      exact .inr ⟨List.cons_ne_nil _ _, e, rfl, herrors⟩
    · simp only [hproblems, hrender]
      exact .inr ⟨List.cons_ne_nil _ _, _, rfl, rfl⟩

/-- Whether a stream, if there is one, takes a text. -/
def Takes (trouble : Trouble) : Option TextStream → Prop
  | none => True
  | some s => (∃ before, s = .opened before) ∧ trouble.stream = {}

/-- Delivering to a stream that takes the text, or to none, succeeds and leaves the tree as it is. -/
theorem deliver_of_takes {request : Request} (houtput : request.output = none)
    {trouble : Trouble} {stream : Option TextStream} (h : Takes trouble stream) (host : Host)
    (text : String) (done : Result) :
    ∃ stream', (deliver host request stream trouble text done).value =
      ⟨host.tree, stream', .ok done⟩ ∧ (stream = none → stream' = none) := by
  unfold deliver
  rw [houtput]
  cases stream with
  | none => exact ⟨none, rfl, fun _ => rfl⟩
  | some s =>
    obtain ⟨⟨before, rfl⟩, htrouble⟩ := h
    rw [htrouble]
    exact ⟨some (.opened (before ++ text)), rfl, fun h => absurd h (Option.some_ne_none _)⟩

/-- A failure that escapes from the team file ends the generation with nothing done. -/
theorem run_of_escape {host : Host} {request : Request} {e : Escape}
    (h : (TeamFile.resolve host request.path).run.value = .error (.escape e))
    (stream : Option TextStream) (trouble : Trouble) :
    (run host request stream trouble).value = ⟨host.tree, stream, .error (.escape e)⟩ := by
  simp only [run, bind, Noted.bind, h]
  rfl

/-- **Once it is resolved, a configuration is generated or complained about**, and what the result
says of it is right. -/
theorem run_of_resolved {host : Host} (request : Request) {resolved : Resolved}
    (h : (TeamFile.resolve host request.path).run.value = resolved.mapError .config)
    (houtput : request.output = none) (stream : Option TextStream) (trouble : Trouble)
    (hstream : Takes trouble stream) :
    ∃ stream' g, (run host request stream trouble).value = ⟨host.tree, stream', .ok g⟩ ∧
      (stream = none → stream' = none) ∧ (g.ok = true ↔ g.errors = []) ∧
      g.errors = resolved.complaints request.format request.validate ∧
      g.source = resolved.source ∧ g.teamCount = resolved.teamCount := by
  cases resolved with
  | error e =>
    replace h : (TeamFile.resolve host request.path).run.value = .error (.config e) := h
    refine ⟨stream, { format := request.format, errors := [e.message] }, ?_, id, ?_, rfl, rfl, rfl⟩
    · simp only [run, bind, Noted.bind, h]
      rfl
    · simp
  | ok found =>
    obtain ⟨config, source⟩ := found
    replace h : (TeamFile.resolve host request.path).run.value = .ok (config, source) := h
    rcases generate_spec config source request.format request.validate with
      ⟨hnone, file, hfile⟩ | ⟨hsome, e, hrefused, herrors⟩
    · obtain ⟨stream', hdeliver, hsame⟩ := deliver_of_takes houtput hstream host file.content
        (rendered request config source file)
      refine ⟨stream', rendered request config source file, ?_, hsame, ?_, hnone.symm, rfl, rfl⟩
      · simp only [run, bind, Noted.bind, h, render_value, hfile]
        exact hdeliver
      · exact ⟨fun _ => rfl, fun _ => rfl⟩
    · let refused : Result :=
        { format := request.format, teamCount := config.teams.length, source := source,
          errors := renderErrors e }
      refine ⟨stream, refused, ?_, id, ?_, herrors, rfl, rfl⟩
      · simp only [run, bind, Noted.bind, h, render_value, hrefused]
        rfl
      · exact ⟨fun h => absurd h Bool.false_ne_true, fun h => absurd (herrors.symm.trans h) hsome⟩

end Generation
end LogBalancer
