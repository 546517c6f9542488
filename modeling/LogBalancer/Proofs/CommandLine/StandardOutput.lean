/-
# Standard output of generating

What `generate` leaves on standard output is the configuration as a whole, or nothing.  Notes, error
lists and the report on a written file go to the error stream, and a run that stops, in reading its
arguments or later, prints nothing (`generate_stdout_is_config`).

A list of arguments is for `generate` if it names this command (`ForGenerate`).  Either all of its
options can be read, and say what to generate (`Calls`, `requestOf`), or the run stops before the
command starts (`plan_cases`).
-/

import LogBalancer.Proofs.CommandLine.Options
import LogBalancer.Proofs.Generation.Success

namespace LogBalancer

/-! ### The command -/

namespace Commands

open Generation (Succeeds Intact streamFor run_of_succeeds run_of_not_succeeds)

/-- **A configuration that can be generated is all of standard output**, unless it goes to a file. -/
theorem generate_of_succeeds {host : Host} {request : Request} {trouble : Generation.Trouble}
    {config : Config} {text : String} (h : Succeeds host request trouble config text)
    (htrouble : trouble.stream = {}) (quiet colours : Bool) :
    (generate host request quiet colours trouble).value.exitCode = 0 ∧
      (generate host request quiet colours trouble).value.stdout =
        if request.output.isSome then "" else text := by
  obtain ⟨tree, stream, r, hrun, hok, hstream⟩ := run_of_succeeds h htrouble
  rw [streamFor] at hrun
  simp only [generate, bind, Noted.bind, hrun, hok, if_true, hstream]
  refine ⟨rfl, ?_⟩
  cases request.output <;> rfl

/-- **Otherwise standard output is empty**, and what was there is intact. -/
theorem generate_of_not_succeeds {host : Host} {request : Request} {trouble : Generation.Trouble}
    (h : ¬∃ config text, Succeeds host request trouble config text) (quiet colours : Bool) :
    (generate host request quiet colours trouble).value.exitCode ≠ 0 ∧
      (generate host request quiet colours trouble).value.stdout = "" ∧
      Intact host.tree (generate host request quiet colours trouble).value.tree := by
  obtain ⟨tree, result, hrun, hrefused, hintact⟩ := run_of_not_succeeds h
  have hshown : shown (streamFor request) = "" := by
    unfold streamFor
    cases request.output <;> rfl
  rw [streamFor] at hrun
  simp only [generate, bind, Noted.bind, hrun]
  cases result with
  | error e =>
    cases e with
    | write e => exact ⟨Nat.one_ne_zero, hshown, hintact⟩
    | escape e => exact ⟨Nat.one_ne_zero, hshown, hintact⟩
  | ok r =>
    simp only [hrefused r rfl, Bool.false_eq_true, if_false]
    exact ⟨Nat.one_ne_zero, hshown, hintact⟩

end Commands

namespace CommandLine

open Arguments (Parsed)
open Generation (Succeeds)

/-! ### Reading options -/

/-- A stop that answers nothing on standard output. -/
def Stop.Refuses (stop : Stop) : Prop := ∀ s, stop ≠ .text s

/-- Misuse is no success. -/
theorem Stop.refuses_misuse : Stop.misuse.Refuses := nofun

/-- A refused run has not started. -/
theorem Stop.Refuses.ending {stop : Stop} (h : stop.Refuses) (tree : FileTree) :
    (stop.ending tree).exitCode ≠ 0 ∧ (stop.ending tree).stdout = "" ∧
      (stop.ending tree).tree = tree := by
  cases stop with
  | text s => exact absurd rfl (h s)
  | misuse => exact ⟨Nat.succ_ne_zero 1, rfl, rfl⟩
  | escape e => exact ⟨Nat.one_ne_zero, rfl, rfl⟩

/-- A reading of options that gives a value, if it is not refused. -/
def Gives {α : Type} (x : Except Stop α) (a : α) : Prop :=
  x = .ok a ∨ ∃ stop : Stop, stop.Refuses ∧ x = .error stop

/-- A value gives itself. -/
theorem Gives.ok {α : Type} (a : α) : Gives (.ok a) a := .inl rfl

/-- Misuse gives every value, since no run comes of it. -/
theorem Gives.misuse {α : Type} (a : α) : Gives (.error .misuse) a :=
  .inr ⟨.misuse, Stop.refuses_misuse, rfl⟩

/-- What two steps give, one after the other. -/
theorem Gives.bind {α β : Type} {x : Except Stop α} {f : α → Except Stop β} {a : α} {b : β}
    (hx : Gives x a) (hf : Gives (f a) b) : Gives (x >>= f) b := by
  rcases hx with rfl | ⟨stop, hstop, rfl⟩
  · exact hf
  · exact .inr ⟨stop, hstop, rfl⟩

/-- The value of an option, where there is one and it is not empty. -/
def nonempty? (p : Parsed) (switch : Arguments.Switch) : Option String :=
  (p.value? switch).filter fun v => !v.isEmpty

/-- What options of `generate` ask for, behind those of the program. -/
def requestOf (program : Program) (p : Parsed) : Request where
  path := program.path
  validate := !p.has .noValidate
  format := (p.value? .format).getD Format.toml.name
  output := (nonempty? p .output).map Path.ofString

/-- The path of a switch is given where it is not empty. -/
theorem pathValue_gives (p : Parsed) (switch : Arguments.Switch) :
    Gives (pathValue p switch) (nonempty? p switch) := by
  unfold pathValue nonempty?
  cases p.value? switch with
  | none => exact .ok none
  | some v =>
    show Gives (if v.toList.contains '\x00' = true then .error (.escape .nul)
      else if v.isEmpty then .ok none else .ok (some v)) _
    split
    · exact .inr ⟨.escape .nul, nofun, rfl⟩
    · cases hempty : v.isEmpty <;> simp [Gives, Option.filter, hempty]

/-- The format is the one that is asked for, or TOML. -/
theorem checkFormat_gives (p : Parsed) :
    Gives (checkFormat p) ((p.value? .format).getD Format.toml.name) := by
  unfold checkFormat
  cases p.value? .format with
  | none => exact .ok _
  | some v =>
    show Gives (if (Format.ofName? v).isSome = true then .ok v else .error .misuse) v
    split
    · exact .ok v
    · exact .misuse v

/-- The output is the path that is asked for, if it is not empty. -/
theorem checkOutput_gives (host : Host) (p : Parsed) :
    Gives (checkOutput host p) ((nonempty? p .output).map Path.ofString) := by
  refine (pathValue_gives p .output).bind ?_
  cases nonempty? p .output with
  | none => exact .ok none
  | some v =>
    dsimp only
    split
    · exact .misuse _
    · exact .ok _

/-- **The options of `generate` ask for a request, or are refused.** -/
theorem readRequest_gives (host : Host) (program : Program) (p : Parsed) :
    Gives (readRequest host program p) (requestOf program p) := by
  have htarget : Gives (checkTarget host p)
      ((nonempty? p .output).map Path.ofString, (p.value? .format).getD Format.toml.name) := by
    unfold checkTarget
    split
    · exact (checkFormat_gives p).bind ((checkOutput_gives host p).bind (.ok _))
    · exact (checkOutput_gives host p).bind ((checkFormat_gives p).bind (.ok _))
  exact htarget.bind (.ok _)

/-! ### Arguments for generating -/

/-- Arguments for `generate`, whether they can be read or not: they name this command, if they can be
read so far, and no option asks for a text only. -/
structure ForGenerate (args : List String) : Prop where
  asksNoText : ∀ s, readProgram args ≠ .error (.text s)
  names : ∀ program, readProgram args = .ok program →
    ∃ rest, program.options.operands = "generate" :: rest ∧
      ∀ s, readOptions Arguments.generateSpecs true rest ≠ .error (.text s)

/-- **Arguments that call `generate`**, with the options of the program and those of the command, all
of which can be read. -/
structure Calls (host : Host) (args : List String) (program : Program) (p : Parsed) : Prop where
  readsProgram : readProgram args = .ok program
  readsOptions : ∃ rest, program.options.operands = "generate" :: rest ∧
    readOptions Arguments.generateSpecs true rest = .ok p
  readsRequest : readRequest host program p = .ok (requestOf program p)
  hasNoOperands : p.operands = []

/-- A line that calls the generation plans it with the request that its arguments make. -/
theorem plan_of_calls {host : Host} {args : List String} {program : Program} {p : Parsed}
    (h : Calls host args program p) (colours : Bool) (trouble : Generation.Trouble) :
    plan host args colours trouble = .ok (program, Commands.generate host (requestOf program p)
      (program.options.has .quiet) colours trouble) := by
  obtain ⟨hprogram, ⟨rest, hnamed, hoptions⟩, hrequest, hoperands⟩ := h
  simp only [plan, hprogram, hnamed, command, if_true, hoptions, hrequest, noOperands, hoperands,
    bind, Except.bind, List.isEmpty_nil]
  rfl

/-- **Arguments for `generate` call it, or the run is refused** before the command starts. -/
theorem plan_cases {args : List String} (h : ForGenerate args) (host : Host) (colours : Bool)
    (trouble : Generation.Trouble) :
    (∃ program p, Calls host args program p) ∨
      ∃ stop : Stop, stop.Refuses ∧ plan host args colours trouble = .error stop := by
  cases hprogram : readProgram args with
  | error stop =>
    refine .inr ⟨stop, fun s hs => h.asksNoText s (hs ▸ hprogram), ?_⟩
    simp only [plan, hprogram, bind, Except.bind]
  | ok program =>
    obtain ⟨rest, hnamed, htext⟩ := h.names program hprogram
    cases hoptions : readOptions Arguments.generateSpecs true rest with
    | error stop =>
      refine .inr ⟨stop, fun s hs => htext s (hs ▸ hoptions), ?_⟩
      simp only [plan, hprogram, hnamed, command, if_true, hoptions, bind, Except.bind]
    | ok p =>
      rcases readRequest_gives host program p with hrequest | ⟨stop, hstop, hrequest⟩
      · cases hoperands : p.operands with
        | nil => exact .inl ⟨program, p, hprogram, ⟨rest, hnamed, hoptions⟩, hrequest, hoperands⟩
        | cons operand operands =>
          refine .inr ⟨.misuse, Stop.refuses_misuse, ?_⟩
          simp only [plan, hprogram, hnamed, command, if_true, hoptions, hrequest, noOperands,
            hoperands, bind, Except.bind]
          rfl
      · refine .inr ⟨stop, hstop, ?_⟩
        simp only [plan, hprogram, hnamed, command, if_true, hoptions, hrequest, bind, Except.bind]

/-! ### Whole runs -/

/-- A request has an output exactly if one is asked for that is not empty. -/
theorem requestOf_output_isSome (program : Program) (p : Parsed) :
    (requestOf program p).output.isSome = true ↔ (p.value? .output).getD "" ≠ "" := by
  cases h : p.value? .output <;> simp [requestOf, nonempty?, h]

/-- What can be generated is all of standard output, unless it goes to a file. -/
theorem run_of_calls {host : Host} {args : List String} {program : Program} {p : Parsed}
    {trouble : Generation.Trouble} {config : Config} {text : String}
    (hcalls : Calls host args program p)
    (hsucceeds : Succeeds host (requestOf program p) trouble config text)
    (htrouble : trouble.stream = {}) (colours : Bool) :
    (run host args colours trouble).exitCode = 0 ∧
      (run host args colours trouble).stdout =
        if (p.value? .output).getD "" = "" then text else "" := by
  obtain ⟨stderr, hrun⟩ := run_of_plan (plan_of_calls hcalls colours trouble)
  have hgenerate := Commands.generate_of_succeeds hsucceeds htrouble
    (program.options.has .quiet) colours
  simp only [requestOf_output_isSome, ite_not] at hgenerate
  rw [hrun]
  exact hgenerate

/-- A run for `generate` generates a configuration, or prints nothing and leaves what is there
intact. -/
theorem run_for_generate {args : List String} (h : ForGenerate args) (host : Host) (colours : Bool)
    (trouble : Generation.Trouble) :
    (∃ program p config text, Calls host args program p ∧
        Succeeds host (requestOf program p) trouble config text) ∨
      ((run host args colours trouble).exitCode ≠ 0 ∧ (run host args colours trouble).stdout = "" ∧
        Generation.Intact host.tree (run host args colours trouble).tree) := by
  rcases plan_cases h host colours trouble with ⟨program, p, hcalls⟩ | ⟨stop, hstop, hplan⟩
  · by_cases hsucceeds : ∃ config text, Succeeds host (requestOf program p) trouble config text
    · obtain ⟨config, text, hsucceeds⟩ := hsucceeds
      exact .inl ⟨program, p, config, text, hcalls, hsucceeds⟩
    · obtain ⟨stderr, hrun⟩ := run_of_plan (plan_of_calls hcalls colours trouble)
      rw [hrun]
      exact .inr (Commands.generate_of_not_succeeds hsucceeds _ colours)
  · rw [run_of_stop hplan]
    obtain ⟨hcode, hstdout, htree⟩ := hstop.ending host.tree
    rw [htree]
    exact .inr ⟨hcode, hstdout, fun _ _ => id⟩

/-- **Standard output of `generate` is the configuration and nothing else.**  The exit code is zero
exactly if all options can be read, and the configuration loads, is valid where that is asked for, is
rendered and is written.  Standard output is then its text, character for character, or empty if the
text goes to a file.  With any other exit code it is empty, and all that was there is intact. -/
theorem generate_stdout_is_config (host : Host) {args : List String} (hargs : ForGenerate args)
    (colours : Bool) {trouble : Generation.Trouble} (htrouble : trouble.stream = {}) :
    ((run host args colours trouble).exitCode = 0 ↔
      ∃ program p config text, Calls host args program p ∧
        Succeeds host (requestOf program p) trouble config text) ∧
    (∀ program p config text, Calls host args program p →
      Succeeds host (requestOf program p) trouble config text →
      (run host args colours trouble).stdout =
        if (p.value? .output).getD "" = "" then text else "") ∧
    ((run host args colours trouble).exitCode ≠ 0 →
      (run host args colours trouble).stdout = "" ∧
      ∀ location entry, host.tree.get? location = some entry →
        (run host args colours trouble).tree.get? location = some entry) := by
  refine ⟨⟨fun hzero => ?_, ?_⟩, ?_, fun hcode => ?_⟩
  · rcases run_for_generate hargs host colours trouble with hgenerated | ⟨hcode, -, -⟩
    · exact hgenerated
    · exact absurd hzero hcode
  · rintro ⟨program, p, config, text, hcalls, hsucceeds⟩
    exact (run_of_calls hcalls hsucceeds htrouble colours).1
  · intro program p config text hcalls hsucceeds
    exact (run_of_calls hcalls hsucceeds htrouble colours).2
  · rcases run_for_generate hargs host colours trouble with
      ⟨program, p, config, text, hcalls, hsucceeds⟩ | ⟨-, hstdout, hintact⟩
    · exact absurd (run_of_calls hcalls hsucceeds htrouble colours).1 hcode
    · exact ⟨hstdout, hintact⟩

/-- Standard output is the built-in catalog as JSON, or nothing if the format has no name. -/
theorem generate_stdout_of_builtin :
    (∃ text, Format.json.render Catalog.config.toSettings Catalog.config.teams = .ok text ∧
      (run {} ["-q", "generate", "-f", "json"]).exitCode = 0 ∧
      (run {} ["-q", "generate", "-f", "json"]).stdout = text) ∧
    (run {} ["-q", "generate", "-f"]).exitCode = 2 ∧
      (run {} ["-q", "generate", "-f"]).stdout = "" := by
  have hargs : ∀ rest, (∀ s, readOptions Arguments.generateSpecs true rest ≠ .error (.text s)) →
      ForGenerate ("-q" :: "generate" :: rest) := by
    intro rest hrest
    have hread : readProgram ("-q" :: "generate" :: rest) =
        .ok ⟨⟨[(.quiet, none)], "generate" :: rest⟩, none⟩ := rfl
    refine ⟨fun s hs => ?_, fun program hprogram => ?_⟩
    · cases hread.symm.trans hs
    · obtain rfl := Except.ok.inj (hread.symm.trans hprogram)
      exact ⟨rest, rfl, hrest⟩
  have htrouble : ({} : Generation.Trouble).stream = {} := rfl
  constructor
  · have hports : ∀ t ∈ Catalog.config.teams, minPort ≤ t.port ∧ t.port ≤ maxPort := by decide
    obtain ⟨text, htext⟩ := (Format.json.render_isOk_iff Catalog.config.toSettings
      Catalog.config.teams).2 fun t ht => Decimal.isWritable_of_isPort (hports t ht)
    have hcalls : Calls {} ["-q", "generate", "-f", "json"]
        ⟨⟨[(.quiet, none)], ["generate", "-f", "json"]⟩, none⟩ ⟨[(.format, some "json")], []⟩ :=
      ⟨rfl, ⟨_, rfl, rfl⟩, rfl, rfl⟩
    have hsucceeds : Succeeds {} { format := "json" } {} Catalog.config text :=
      ⟨⟨none, rfl⟩, fun _ => (problemsOf_eq_nil_iff _).1 (by decide +kernel),
        ⟨.json, by decide, htext⟩, fun _ h => nomatch h⟩
    obtain ⟨hzero, hstdout, -⟩ := generate_stdout_is_config {} (hargs ["-f", "json"] (by
      intro s hs
      cases hs)) false htrouble
    exact ⟨text, htext, hzero.2 ⟨_, _, _, _, hcalls, hsucceeds⟩,
      hstdout _ _ _ _ hcalls hsucceeds⟩
  · have hcode : (run {} ["-q", "generate", "-f"]).exitCode = 2 := rfl
    obtain ⟨-, -, hrefused⟩ := generate_stdout_is_config {} (hargs ["-f"] (by
      intro s hs
      cases hs)) false htrouble
    exact ⟨hcode, (hrefused (by rw [hcode]; decide)).1⟩

end CommandLine
end LogBalancer
