/-
# A check predicts generating

A check and generating with validation agree on every configuration.  When both return, they say the
same of it, whichever of the known formats is asked for; and at the command line the one exits with
success exactly if the other does, also where one of them ends in a failure that nothing handles
(`check_predicts_generate`).

Both commands succeed exactly if a configuration is resolved about which there are no complaints
(`check_exitCode_eq_zero_iff`, `generate_exitCode_eq_zero_iff`).

A standard output that works takes every text here, since texts are strings of Unicode scalar values.
Nothing is said of names with a lone surrogate, which a check accepts and UTF-8 cannot encode (see
`LogBalancer.Yaml.Token.Scalar`).
-/

import LogBalancer.Proofs.CommandLine.Options
import LogBalancer.Proofs.Inspection.Verdict

namespace LogBalancer

/-- Resolving ends in a failure that nothing handles, or with a configuration or the reason why
there is none. -/
theorem TeamFile.resolve_cases (host : Host) (path : Option Path) :
    (∃ e, (resolve host path).run.value = .error (.escape e)) ∨
      ∃ resolved : Resolved, (resolve host path).run.value = resolved.mapError .config := by
  cases (resolve host path).run.value with
  | error e =>
    cases e with
    | config e => exact .inr ⟨.error e, rfl⟩
    | escape e => exact .inl ⟨e, rfl⟩
  | ok found => exact .inr ⟨.ok found, rfl⟩

/-- A configuration is resolved that can be generated with validation. -/
def TeamFile.ResolvesClean (host : Host) (path : Option Path) : Prop :=
  ∃ resolved : Resolved, (resolve host path).run.value = resolved.mapError .config ∧
    resolved.complaints Format.toml.name true = []

/-- If nothing escapes, the configuration resolves cleanly exactly if there is no complaint about
it. -/
theorem TeamFile.resolvesClean_iff {host : Host} {path : Option Path} {resolved : Resolved}
    (h : (resolve host path).run.value = resolved.mapError .config) :
    ResolvesClean host path ↔ resolved.complaints Format.toml.name true = [] := by
  constructor
  · rintro ⟨resolved', h', hclean⟩
    have hsame : (resolved.mapError LoadError.config) = resolved'.mapError .config :=
      h.symm.trans h'
    cases resolved' with
    | error e => exact absurd hclean (List.cons_ne_nil _ _)
    | ok found =>
      cases resolved with
      | error e => cases hsame
      | ok found' =>
        obtain rfl := Except.ok.inj hsame
        exact hclean
  · exact fun hclean => ⟨resolved, h, hclean⟩

/-- Where a failure escapes, nothing resolves cleanly. -/
theorem TeamFile.not_resolvesClean_of_escape {host : Host} {path : Option Path} {e : Escape}
    (h : (resolve host path).run.value = .error (.escape e)) : ¬ResolvesClean host path := by
  rintro ⟨resolved, h', -⟩
  rw [h] at h'
  cases resolved <;> cases h'

/-- A check finds nothing wrong exactly with a clean configuration. -/
theorem Inspection.exists_valid_iff (host : Host) (path : Option Path) :
    (∃ r, (run host path).value = .ok r ∧ r.valid = true) ↔ TeamFile.ResolvesClean host path := by
  rcases TeamFile.resolve_cases host path with ⟨e, h⟩ | ⟨resolved, h⟩
  · rw [run_of_escape h]
    refine ⟨?_, fun hclean => absurd hclean (TeamFile.not_resolvesClean_of_escape h)⟩
    rintro ⟨_, hrun, -⟩
    cases hrun
  · rw [TeamFile.resolvesClean_iff h]
    rcases run_of_resolved h with ⟨-, r, hrun, hvalid, herrors, -⟩ | ⟨hports, hrun⟩
    · rw [hrun, ← herrors, ← hvalid]
      constructor
      · rintro ⟨r', hr', hok⟩
        obtain rfl := Except.ok.inj hr'
        exact hok
      · exact fun hok => ⟨r, rfl, hok⟩
    · rw [hrun]
      refine ⟨?_, fun hclean => absurd ?_ hports⟩
      · rintro ⟨_, hrun, -⟩
        cases hrun
      · obtain ⟨config, source, rfl, -, hall, -⟩ := (Resolved.complaints_eq_nil_iff ..).1 hclean
        intro config' source' he
        obtain ⟨rfl, rfl⟩ := Prod.mk.inj (Except.ok.inj he)
        exact hall

/-- Generating with validation succeeds exactly with a clean configuration, if its text has a place
that takes it. -/
theorem Generation.exists_ok_iff {host : Host} {request : Request} (format : Format)
    (hformat : request.format = format.name) (hvalidate : request.validate = true)
    (houtput : request.output = none) {stream : Option TextStream} {trouble : Trouble}
    (hstream : Takes trouble stream) :
    (∃ g, (run host request stream trouble).value.result = .ok g ∧ g.ok = true) ↔
      TeamFile.ResolvesClean host request.path := by
  rcases TeamFile.resolve_cases host request.path with ⟨e, h⟩ | ⟨resolved, h⟩
  · rw [run_of_escape h]
    refine ⟨?_, fun hclean => absurd hclean (TeamFile.not_resolvesClean_of_escape h)⟩
    rintro ⟨_, hrun, -⟩
    cases hrun
  · obtain ⟨stream', g, hrun, -, hok, herrors, -⟩ :=
      run_of_resolved request h houtput stream trouble hstream
    rw [hformat, hvalidate, Resolved.complaints_of_known] at herrors
    rw [TeamFile.resolvesClean_iff h, hrun, ← herrors, ← hok]
    constructor
    · rintro ⟨g', hg', hok'⟩
      obtain rfl := Except.ok.inj hg'
      exact hok'
    · exact fun hok' => ⟨g, rfl, hok'⟩

/-! ### Exit codes -/

namespace Commands

/-- **Checking succeeds exactly where the configuration resolves cleanly.** -/
theorem check_exitCode_eq_zero_iff (host : Host) (path : Option Path) (asJson colours : Bool) :
    (check host path asJson colours).value.exitCode = 0 ↔ TeamFile.ResolvesClean host path := by
  rw [← Inspection.exists_valid_iff]
  simp only [check, bind, Noted.bind]
  cases (Inspection.run host path).value with
  | error e =>
    refine ⟨fun h => absurd (show (1 : Nat) = 0 from h) (by decide), ?_⟩
    rintro ⟨_, h, -⟩
    cases h
  | ok r =>
    show (if r.valid = true then 0 else 1) = 0 ↔ _
    constructor
    · intro h
      split at h
      · exact ⟨r, rfl, ‹_›⟩
      · cases h
    · rintro ⟨r', hr', hvalid⟩
      obtain rfl := Except.ok.inj hr'
      exact if_pos hvalid

/-- **Generating with validation to a working output succeeds exactly where the configuration resolves
cleanly**, in either format. -/
theorem generate_exitCode_eq_zero_iff {host : Host} {request : Request} (format : Format)
    (hformat : request.format = format.name) (hvalidate : request.validate = true)
    (houtput : request.output = none) (quiet colours : Bool) {trouble : Generation.Trouble}
    (htrouble : trouble.stream = {}) :
    (generate host request quiet colours trouble).value.exitCode = 0 ↔
      TeamFile.ResolvesClean host request.path := by
  have hstream : Generation.Takes trouble (some (.opened "")) := ⟨⟨"", rfl⟩, htrouble⟩
  rw [← Generation.exists_ok_iff format hformat hvalidate houtput hstream]
  simp only [generate, houtput, bind, Noted.bind, Option.isSome_none, Bool.false_eq_true, if_false]
  cases (Generation.run host request (some (.opened "")) trouble).value.result with
  | error e =>
    cases e <;>
    · refine ⟨fun h => absurd (show (1 : Nat) = 0 from h) (by decide), ?_⟩
      rintro ⟨_, h, -⟩
      cases h
  | ok g =>
    by_cases hok : g.ok = true
    · simp only [hok, if_true]
      exact ⟨fun _ => ⟨g, rfl, hok⟩, fun _ => rfl⟩
    · simp only [hok]
      refine ⟨fun h => absurd (show (1 : Nat) = 0 from h) (by decide), ?_⟩
      rintro ⟨g', hg', hok'⟩
      obtain rfl := Except.ok.inj hg'
      exact absurd hok' hok

end Commands

namespace CommandLine

/-- Arguments with which `check` checks. -/
def RunsCheck (args : List String) : Prop :=
  ∃ p, readOptions Arguments.listSpecs true args = .ok p ∧ p.operands = []

/-- Arguments with which `generate` validates a configuration and writes it to standard output. -/
def RunsGenerate (args : List String) : Prop :=
  ∃ p format, readOptions Arguments.generateSpecs true args = .ok p ∧ p.operands = [] ∧
    p.has .noValidate = false ∧ pathValue p .output = .ok none ∧ checkFormat p = .ok format

/-- A line that runs the check runs it with the path of the program. -/
theorem command_check {args : List String} (h : RunsCheck args) (host : Host) (program : Program)
    (colours : Bool) (trouble : Generation.Trouble) :
    ∃ asJson, command host program colours trouble "check" args =
      .ok (Commands.check host program.path asJson colours) := by
  obtain ⟨p, hread, hoperands⟩ := h
  refine ⟨p.has .json, ?_⟩
  rw [command, if_neg (by decide), if_pos (by decide)]
  simp only [hread, noOperands, hoperands, bind, Except.bind]
  rfl

/-- A format that is let through is one of those that are known. -/
theorem exists_format_of_checkFormat {p : Arguments.Parsed} {name : String}
    (h : checkFormat p = .ok name) : ∃ format : Format, name = format.name := by
  unfold checkFormat at h
  split at h
  · exact ⟨.toml, (Except.ok.inj h).symm⟩
  · split at h
    · rename_i v _ hknown
      obtain ⟨format, hformat⟩ := Option.isSome_iff_exists.1 hknown
      have hname := List.find?_some hformat
      exact ⟨format, by rw [← Except.ok.inj h, eq_of_beq hname]⟩
    · cases h

/-- Options without an output file have `generate` write to standard output. -/
theorem command_generate_of_parsed {args : List String} {p : Arguments.Parsed} {name : String}
    (hread : readOptions Arguments.generateSpecs true args = .ok p) (hoperands : p.operands = [])
    (houtput : pathValue p .output = .ok none) (hname : checkFormat p = .ok name) (host : Host)
    (program : Program) (colours : Bool) (trouble : Generation.Trouble) :
    command host program colours trouble "generate" args =
      .ok (Commands.generate host
        { path := program.path, validate := !p.has .noValidate, format := name, output := none }
        (program.options.has .quiet) colours trouble) := by
  have htarget : checkTarget host p = .ok (none, name) := by
    have hnone : checkOutput host p = .ok none := by
      rw [checkOutput, houtput]
      rfl
    unfold checkTarget
    split <;> rw [hnone, hname] <;> rfl
  rw [command, if_pos rfl]
  simp only [hread, readRequest, htarget, noOperands, hoperands, bind, Except.bind]
  rfl

/-- A line that runs the generation with validation to the output runs that request, in one of the
known formats. -/
theorem command_generate {args : List String} (h : RunsGenerate args) (host : Host)
    (program : Program) (colours : Bool) (trouble : Generation.Trouble) :
    ∃ format : Format, command host program colours trouble "generate" args =
      .ok (Commands.generate host
        { path := program.path, validate := true, format := format.name, output := none }
        (program.options.has .quiet) colours trouble) := by
  obtain ⟨p, name, hread, hoperands, hvalidate, houtput, hname⟩ := h
  obtain ⟨format, rfl⟩ := exists_format_of_checkFormat hname
  have hcommand := command_generate_of_parsed hread hoperands houtput hname host program colours
    trouble
  rw [hvalidate] at hcommand
  exact ⟨format, hcommand⟩

/-- **A check predicts generating with validation.**  When both return, they agree on whether the
configuration is good, on all errors, on where it is from and on the number of its teams.  At the
command line, behind the same options of the program, a check exits with success exactly if
generating to a standard output that takes the text does. -/
theorem check_predicts_generate (host : Host) :
    (∀ (path : Option Path) (format : Format) (trouble : Generation.Trouble)
        (r : Inspection.Result) (g : Generation.Result),
      (Inspection.run host path).value = .ok r →
      (Generation.run host
        { path := path, validate := true, format := format.name, output := none } none
        trouble).value.result = .ok g →
      r.valid = g.ok ∧ r.errors = g.errors ∧ r.path = g.source ∧ r.teamCount = g.teamCount) ∧
    ∀ (options : List String) (given : List Arguments.Given),
      Arguments.parse Arguments.programSpecs false options = .ok ⟨given, []⟩ →
      ∀ checkArgs generateArgs : List String, RunsCheck checkArgs → RunsGenerate generateArgs →
      ∀ (colours colours' : Bool) (trouble trouble' : Generation.Trouble),
        trouble'.stream = {} →
        ((run host (options ++ "check" :: checkArgs) colours trouble).exitCode = 0 ↔
          (run host (options ++ "generate" :: generateArgs) colours' trouble').exitCode = 0) := by
  constructor
  · intro path format trouble r g hcheck hgenerate
    rcases TeamFile.resolve_cases host path with ⟨e, h⟩ | ⟨resolved, h⟩
    · rw [Inspection.run_of_escape h] at hcheck
      cases hcheck
    · rcases Inspection.run_of_resolved h with ⟨-, r', hr', hvalid, herrors, hpath, hcount⟩ |
        ⟨-, hfailed⟩
      · obtain ⟨_, g', hg', -, hok, herrors', hsource, hcount'⟩ :=
          Generation.run_of_resolved
            { path := path, validate := true, format := format.name, output := none }
            h rfl none trouble trivial
        obtain rfl := Except.ok.inj (hcheck.symm.trans hr')
        rw [hg'] at hgenerate
        obtain rfl := Except.ok.inj hgenerate
        rw [Resolved.complaints_of_known] at herrors'
        have hsame : r.errors = g'.errors := herrors.trans herrors'.symm
        refine ⟨?_, hsame, hpath.trans hsource.symm, hcount.trans hcount'.symm⟩
        rw [Bool.eq_iff_iff, hvalid, hok, hsame]
      · rw [hfailed] at hcheck
        cases hcheck
  · intro options given hoptions checkArgs generateArgs hcheck hgenerate colours colours' trouble
      trouble' htrouble
    have hcheckName : Arguments.isOption "check" = false := by decide
    have hgenerateName : Arguments.isOption "generate" = false := by decide
    rcases run_append hoptions hcheckName host checkArgs colours trouble with
      ⟨stop, hstop, hrun⟩ | ⟨program, hprogram, hrun⟩
    · rcases run_append hoptions hgenerateName host generateArgs colours'
        trouble' with ⟨stop', hstop', hrun'⟩ | ⟨program, hprogram, -⟩
      · obtain rfl := Except.error.inj (hstop.symm.trans hstop')
        rw [hrun, hrun']
      · cases hstop.symm.trans hprogram
    · rcases run_append hoptions hgenerateName host generateArgs colours'
        trouble' with ⟨stop', hstop', -⟩ | ⟨program', hprogram', hrun'⟩
      · cases hprogram.symm.trans hstop'
      · obtain rfl := Except.ok.inj (hprogram.symm.trans hprogram')
        obtain ⟨asJson, hcommand⟩ := command_check hcheck host
          (program.followedBy ("check" :: checkArgs)) colours trouble
        obtain ⟨format, hcommand'⟩ := command_generate hgenerate host
          (program.followedBy ("generate" :: generateArgs)) colours' trouble'
        rw [hrun _ hcommand, hrun' _ hcommand', Commands.check_exitCode_eq_zero_iff,
          Commands.generate_exitCode_eq_zero_iff format rfl rfl rfl _ _ htrouble]
        rfl

/-- The built-in catalog passes a check, so it can be generated as JSON. -/
theorem generate_of_builtin_check :
    (run {} ["-v", "check", "--json"]).exitCode = 0 ∧
      (run {} ["-v", "generate", "-f", "json"]).exitCode = 0 ∧
      ∃ r g, (Inspection.run {} none).value = .ok r ∧
        (Generation.run {} { format := Format.json.name } none).value.result = .ok g ∧
        r.valid = true ∧ g.ok = true := by
  have hpredicts := check_predicts_generate {}
  have hchecked : (run {} ["-v", "check", "--json"]).exitCode = 0 := by decide +kernel
  have hexit := hpredicts.2 ["-v"] [(.verbose, none)] rfl ["--json"] ["-f", "json"]
    ⟨_, rfl, rfl⟩ ⟨_, Format.json.name, rfl, rfl, rfl, rfl, rfl⟩ false false {} {} rfl
  refine ⟨hchecked, hexit.1 hchecked, ?_⟩
  have hresolve : (TeamFile.resolve {} none).run.value =
      (Except.ok (Catalog.config, none) : Resolved).mapError .config := rfl
  have hports : ∀ t ∈ Catalog.config.teams, minPort ≤ t.port ∧ t.port ≤ maxPort := by decide
  have hwritable : Resolved.IsWritable (.ok (Catalog.config, none)) := by
    intro config source h
    obtain ⟨rfl, rfl⟩ := Prod.mk.inj (Except.ok.inj h)
    exact fun t ht => Decimal.isWritable_of_isPort (hports t ht)
  rcases Inspection.run_of_resolved hresolve with ⟨-, r, hr, hvalid, herrors, -⟩ | ⟨htoo, -⟩
  · obtain ⟨_, g, hg, -⟩ := Generation.run_of_resolved
      { format := Format.json.name } hresolve rfl none {} trivial
    have hgenerated := congrArg Generation.Outcome.result hg
    have hgood : r.valid = true := by
      rw [hvalid, herrors]
      decide +kernel
    have hsame := hpredicts.1 none .json {} r g hr hgenerated
    exact ⟨r, g, hr, hgenerated, hgood, hsame.1.symm.trans hgood⟩
  · exact absurd hwritable htoo

end CommandLine
end LogBalancer
