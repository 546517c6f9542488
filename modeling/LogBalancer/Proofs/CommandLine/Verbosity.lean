/-
# Verbosity

`--verbose`, `--quiet` and `--debug` say how much of a run is reported.  Without them, the options of
the program still say what is run and on which file (`readProgram_essential`), and a command does the
same whether it is quiet or not (`command_unreported`).  So two runs whose arguments differ in these
options alone end alike but for the error stream, wherever among the options of the program they
stand (`verbosity_affects_only_stderr`).
-/

import LogBalancer.Proofs.CommandLine.Options

namespace LogBalancer

/-- Two computations that agree under a map fail alike, or have values that agree under it. -/
theorem map_eq_map_cases {ε α β : Type} {x x' : Except ε α} {f : α → β}
    (h : x.map f = x'.map f) :
    (∃ e, x = .error e ∧ x' = .error e) ∨ ∃ a a', x = .ok a ∧ x' = .ok a' ∧ f a = f a' := by
  cases x with
  | error e =>
    cases x' with
    | error e' => exact .inl ⟨e, rfl, by rw [Except.error.inj h]⟩
    | ok a' => cases h
  | ok a =>
    cases x' with
    | error e' => cases h
    | ok a' => exact .inr ⟨a, a', rfl, rfl, Except.ok.inj h⟩

/-! ### Arguments -/

namespace Arguments

/-- The options that say how much is reported. -/
def Switch.isVerbosity : Switch → Bool
  | .verbose | .quiet | .debug => true
  | _ => false

/-- What is read, without the options that say how much is reported. -/
def Parsed.essential (p : Parsed) : Parsed :=
  { p with given := p.given.filter fun g => !g.1.isVerbosity }

/-- Arguments that are read alike, up to the options that say how much is reported. -/
def SameButVerbosity (args args' : List String) : Prop :=
  (parse programSpecs false args).map Parsed.essential =
    (parse programSpecs false args').map Parsed.essential

/-- What looks for other options finds the same. -/
theorem find?_filter_isVerbosity {q : Given → Bool} (hq : ∀ g, q g = true → g.1.isVerbosity = false)
    (given : List Given) :
    (given.filter fun g => !g.1.isVerbosity).find? q = given.find? q := by
  rw [List.find?_filter]
  congr 1
  funext g
  cases h : q g with
  | false => simp
  | true => simp [hq g h]

/-- Dropping the switches of verbosity drops no request for help. -/
theorem Parsed.essential_asks? (p : Parsed) : p.essential.asks? = p.asks? := by
  refine congrArg (Option.map _) (find?_filter_isVerbosity (fun g hg => ?_) p.given)
  rcases Bool.or_eq_true_iff.1 hg with h | h <;>
  · rw [eq_of_beq h]
    rfl

/-- Dropping the switches of verbosity keeps the values of all others. -/
theorem Parsed.essential_value? (p : Parsed) {switch : Switch} (h : switch.isVerbosity = false) :
    p.essential.value? switch = p.value? switch := by
  unfold value? essential
  rw [← List.filter_reverse, find?_filter_isVerbosity]
  intro g hg
  rw [eq_of_beq hg, h]

/-- The essential part of what is read after some arguments is read after their essential part. -/
theorem Parsed.essential_after (given : List Given) (p : Parsed) :
    (p.after given).essential =
      p.essential.after (given.filter fun g => !g.1.isVerbosity) := by
  simp only [essential, after, List.filter_append]

/-- The arguments that give these options. -/
def verbosityFlags : List String := ["--verbose", "-v", "--quiet", "-q", "--debug"]

/-- They are all there are. -/
example : verbosityFlags = (programSpecs.filter (·.switch.isVerbosity)).map (·.name) := rfl

/-- Each flag of verbosity is read as a switch of verbosity without a value. -/
theorem parse_verbosityFlag {flag : String} (h : flag ∈ verbosityFlags) :
    ∃ switch : Switch, switch.isVerbosity = true ∧ ∀ rest, parse programSpecs false (flag :: rest) =
      (parse programSpecs false rest).map (·.after [(switch, none)]) := by
  simp only [verbosityFlags, List.mem_cons, List.not_mem_nil, or_false] at h
  rcases h with rfl | rfl | rfl | rfl | rfl
  · exact ⟨.verbose, rfl, fun _ => rfl⟩
  · exact ⟨.verbose, rfl, fun _ => rfl⟩
  · exact ⟨.quiet, rfl, fun _ => rfl⟩
  · exact ⟨.quiet, rfl, fun _ => rfl⟩
  · exact ⟨.debug, rfl, fun _ => rfl⟩

/-- Such arguments are not essential. -/
theorem parse_verbosityFlags {flags : List String} (h : ∀ flag ∈ flags, flag ∈ verbosityFlags)
    (rest : List String) :
    (parse programSpecs false (flags ++ rest)).map Parsed.essential =
      (parse programSpecs false rest).map Parsed.essential := by
  induction flags with
  | nil => rfl
  | cons flag flags ih =>
    rw [← ih fun f hf => h f (List.mem_cons_of_mem _ hf)]
    obtain ⟨switch, hswitch, hparse⟩ := parse_verbosityFlag (h flag List.mem_cons_self)
    rw [List.cons_append, hparse]
    cases parse programSpecs false (flags ++ rest) with
    | error e => rfl
    | ok p =>
      simp only [Except.map, Parsed.essential_after]
      simp [hswitch, Parsed.after]

/-- **Exchanging the arguments for verbosity changes nothing else**, wherever among the options of
the program they stand. -/
theorem sameButVerbosity_of_flags {options : List String} {given : List Given}
    (hoptions : parse programSpecs false options = .ok ⟨given, []⟩)
    {flags flags' : List String} (hflags : ∀ flag ∈ flags, flag ∈ verbosityFlags)
    (hflags' : ∀ flag ∈ flags', flag ∈ verbosityFlags) (hlast : options.getLast? ≠ some "--")
    (rest : List String) :
    SameButVerbosity (options ++ (flags ++ rest)) (options ++ (flags' ++ rest)) := by
  cases readsRest_of_parse hoptions with
  | asArguments h =>
    have hessential (args : List String) :
        (parse programSpecs false (options ++ args)).map Parsed.essential =
          ((parse programSpecs false args).map Parsed.essential).map
            (·.after (given.filter fun g => !g.1.isVerbosity)) := by
      rw [h]
      cases parse programSpecs false args with
      | error e => rfl
      | ok p => exact congrArg Except.ok (p.essential_after given)
    rw [SameButVerbosity, hessential, hessential, parse_verbosityFlags hflags,
      parse_verbosityFlags hflags']
  | asOperands last h => exact absurd last hlast

end Arguments

/-! ### Runs -/

namespace Commands

/-- An ending without what is on the error stream. -/
def Ending.unreported (e : Ending) : Ending := { e with stderr := "" }

/-- Being quiet leaves out a report only. -/
theorem generate_unreported (host : Host) (request : Request) (quiet quiet' colours : Bool)
    (trouble : Generation.Trouble) :
    (generate host request quiet colours trouble).value.unreported =
      (generate host request quiet' colours trouble).value.unreported := by
  simp only [generate, bind, Noted.bind]
  cases (Generation.run host request _ trouble).value.result with
  | error e => cases e <;> rfl
  | ok r =>
    by_cases hok : r.ok = true
    · simp only [hok, if_true]
      rfl
    · simp only [hok]
      rfl

end Commands

namespace CommandLine

open Arguments (Parsed SameButVerbosity)

/-- A program without the options that say how much is reported. -/
def Program.essential (program : Program) : Program :=
  { program with options := program.options.essential }

/-- **What a program is to do does not depend on how much it reports.** -/
theorem readProgram_essential {args args' : List String} (h : SameButVerbosity args args') :
    (readProgram args).map Program.essential = (readProgram args').map Program.essential := by
  simp only [readProgram, readOptions]
  rcases map_eq_map_cases h with ⟨e, hp, hp'⟩ | ⟨p, p', hp, hp', hsame⟩
  · rw [hp, hp']
  · have hconfig : Arguments.Switch.isVerbosity .config = false := rfl
    have hasks : p.asks? = p'.asks? := by rw [← p.essential_asks?, hsame, p'.essential_asks?]
    have hpath : pathValue p .config = pathValue p' .config := by
      simp only [pathValue, ← p.essential_value? hconfig, ← p'.essential_value? hconfig, hsame]
    simp only [hp, hp', hasks]
    cases p'.asks? with
    | some switch => cases switch <;> rfl
    | none =>
      simp only [bind, Except.bind, hpath]
      cases pathValue p' .config with
      | error stop => rfl
      | ok path => simp only [pure, Except.pure, Except.map, Program.essential, hsame]

/-- A command does the same for programs with the same path. -/
theorem command_unreported {program program' : Program} (h : program.path = program'.path)
    (host : Host) (colours : Bool) (trouble : Generation.Trouble) (name : String)
    (args : List String) :
    (command host program colours trouble name args).map (·.value.unreported) =
      (command host program' colours trouble name args).map (·.value.unreported) := by
  have hrequest (p : Parsed) : readRequest host program p = readRequest host program' p := by
    simp only [readRequest, h]
  unfold command
  split
  · cases readOptions Arguments.generateSpecs true args with
    | error stop => rfl
    | ok p =>
      simp only [bind, Except.bind, hrequest]
      cases readRequest host program' p with
      | error stop => rfl
      | ok request =>
        cases noOperands p with
        | error stop => rfl
        | ok _ => exact congrArg Except.ok (Commands.generate_unreported ..)
  · rw [h]

/-- What is planned is the same, but for what is reported. -/
theorem plan_unreported {args args' : List String} (h : SameButVerbosity args args') (host : Host)
    (colours : Bool) (trouble : Generation.Trouble) :
    (plan host args colours trouble).map (·.2.value.unreported) =
      (plan host args' colours trouble).map (·.2.value.unreported) := by
  unfold plan
  rcases map_eq_map_cases (readProgram_essential h) with ⟨stop, hread, hread'⟩ |
    ⟨program, program', hread, hread', hsame⟩
  · rw [hread, hread']
  · obtain ⟨hoptions, hpath⟩ := Program.mk.inj hsame
    obtain ⟨-, hoperands⟩ := Parsed.mk.inj hoptions
    simp only [hread, hread', bind, Except.bind, hoperands]
    cases program'.options.operands with
    | nil => rfl
    | cons name rest =>
      rcases map_eq_map_cases (command_unreported hpath host colours trouble name rest) with
        ⟨stop, hcommand, hcommand'⟩ | ⟨noted, noted', hcommand, hcommand', hnoted⟩
      · simp only [hcommand, hcommand']
      · simp only [hcommand, hcommand']
        exact congrArg Except.ok hnoted

/-- **Runs that differ in verbosity end alike**, but for the error stream. -/
theorem run_unreported {args args' : List String} (h : SameButVerbosity args args') (host : Host)
    (colours : Bool) (trouble : Generation.Trouble) :
    (run host args colours trouble).unreported = (run host args' colours trouble).unreported := by
  rcases map_eq_map_cases (plan_unreported h host colours trouble) with ⟨stop, hplan, hplan'⟩ |
    ⟨⟨program, noted⟩, ⟨program', noted'⟩, hplan, hplan', hnoted⟩
  · rw [run_of_stop hplan, run_of_stop hplan']
  · obtain ⟨stderr, hrun⟩ := run_of_plan hplan
    obtain ⟨stderr', hrun'⟩ := run_of_plan hplan'
    rw [hrun, hrun']
    exact hnoted

/-- **Verbosity affects nothing but the error stream.**  Two runs on the same host whose arguments
are read alike up to `--verbose`, `--quiet` and `--debug` have the same exit code, the same standard
output and the same tree, and end with the same failure if they end with one.  These options may
stand anywhere among those of the program, under any of their names. -/
theorem verbosity_affects_only_stderr (host : Host) (colours : Bool)
    (trouble : Generation.Trouble) :
    (∀ args args', SameButVerbosity args args' →
      (run host args colours trouble).exitCode = (run host args' colours trouble).exitCode ∧
      (run host args colours trouble).stdout = (run host args' colours trouble).stdout ∧
      (run host args colours trouble).tree = (run host args' colours trouble).tree ∧
      (run host args colours trouble).escape = (run host args' colours trouble).escape) ∧
    ∀ options given, Arguments.parse Arguments.programSpecs false options = .ok ⟨given, []⟩ →
      options.getLast? ≠ some "--" →
      ∀ flags flags', (∀ flag ∈ flags, flag ∈ Arguments.verbosityFlags) →
        (∀ flag ∈ flags', flag ∈ Arguments.verbosityFlags) →
        ∀ rest, SameButVerbosity (options ++ (flags ++ rest)) (options ++ (flags' ++ rest)) := by
  constructor
  · intro args args' h
    obtain ⟨htree, hcode, hstdout, -, hescape⟩ :=
      Commands.Ending.mk.inj (run_unreported h host colours trouble)
    exact ⟨hcode, hstdout, htree, hescape⟩
  · intro options given hoptions hlast flags flags' hflags hflags' rest
    exact Arguments.sameButVerbosity_of_flags hoptions hflags hflags' hlast rest

/-- What a check of the built-in catalog prints does not depend on its verbosity; what it reports
does. -/
theorem verbosity_affects_stderr_of_check :
    (run {} ["-v", "--debug", "check"]).exitCode = (run {} ["-q", "check"]).exitCode ∧
      (run {} ["-v", "--debug", "check"]).stdout = (run {} ["-q", "check"]).stdout ∧
      (run {} ["-v", "--debug", "check"]).stderr ≠ (run {} ["-q", "check"]).stderr := by
  obtain ⟨hruns, hflags⟩ := verbosity_affects_only_stderr {} false {}
  have hsame : SameButVerbosity ["-v", "--debug", "check"] ["-q", "check"] :=
    hflags [] [] rfl (by decide) ["-v", "--debug"] ["-q"] (by decide) (by decide) ["check"]
  obtain ⟨hcode, hstdout, -⟩ := hruns _ _ hsame
  exact ⟨hcode, hstdout, by decide +kernel⟩

end CommandLine
end LogBalancer
