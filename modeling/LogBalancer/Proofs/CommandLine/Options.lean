/-
# Options before a command

A list of arguments is options of the program, the name of a command and the arguments of the
command.  What comes behind options is read by itself, unless two hyphens have made all of it
operands (`readsRest_of_parse`).  A name that is no option ends them, so what options ask for does
not depend on the command behind them (`parse_append`, `readProgram_append`).  `plan_append` and
`run_append` say what is left of a run then: options that stop it stop it, whatever the command is,
and otherwise the command is run.
-/

import LogBalancer.CommandLine.Run

namespace LogBalancer
namespace Arguments

/-- What was read after some arguments starts with these. -/
theorem exists_of_map_after_eq_ok {x : Except Misuse Parsed} {before given : List Given}
    {operands : List String} (h : x.map (·.after before) = .ok ⟨given, operands⟩) :
    ∃ later, x = .ok ⟨later, operands⟩ ∧ given = before ++ later := by
  cases x with
  | error e => cases h
  | ok p =>
    obtain ⟨later, operands'⟩ := p
    obtain ⟨rfl, rfl⟩ := Parsed.mk.inj (Except.ok.inj h)
    exact ⟨later, rfl, rfl⟩

/-- Two groups of arguments read before are one group. -/
theorem map_after_map_after (x : Except Misuse Parsed) (before later : List Given) :
    (x.map (·.after later)).map (·.after before) = x.map (·.after (before ++ later)) := by
  cases x with
  | error e => rfl
  | ok p => simp only [Except.map, Parsed.after, List.append_assoc]

/-- What becomes of a rest behind options: it is read by itself, or two hyphens at the end of the
options have made all of it operands. -/
inductive ReadsRest (specs : List Spec) (options : List String) (given : List Given) : Prop
  | asArguments (h : ∀ rest, parse specs false (options ++ rest) =
      (parse specs false rest).map (·.after given))
  | asOperands (last : options.getLast? = some "--")
      (h : ∀ rest, parse specs false (options ++ rest) = .ok ⟨given, rest⟩)

/-- An option before others does not change what becomes of the rest. -/
theorem ReadsRest.of_suffix {specs : List Spec} (option : List String)
    {options : List String} {before later : List Given}
    (hoption : ∀ rest, parse specs false (option ++ (options ++ rest)) =
      (parse specs false (options ++ rest)).map (·.after before))
    (h : ReadsRest specs options later) : ReadsRest specs (option ++ options) (before ++ later) := by
  cases h with
  | asArguments h =>
    refine .asArguments fun rest => ?_
    rw [List.append_assoc, hoption, h, map_after_map_after]
  | asOperands last h =>
    refine .asOperands ?_ fun rest => ?_
    · rw [List.getLast?_append, last]
      rfl
    · rw [List.append_assoc, hoption, h]
      rfl

/-- **Options are read up to their end.** -/
theorem readsRest_of_parse {specs : List Spec} {options : List String} {given : List Given}
    (h : parse specs false options = .ok ⟨given, []⟩) : ReadsRest specs options given := by
  fun_induction parse specs false options generalizing given with
  | case1 =>
    obtain ⟨rfl, -⟩ := Parsed.mk.inj (Except.ok.inj h)
    refine .asArguments fun rest => ?_
    rw [List.nil_append]
    cases parse specs false rest <;> rfl
  | case2 options =>
    obtain ⟨rfl, rfl⟩ := Parsed.mk.inj (Except.ok.inj h)
    refine .asOperands rfl fun rest => ?_
    rw [List.cons_append, parse, if_pos rfl]
    rfl
  | case3 => cases h
  | case4 arg options harg hoption r hr hopen ih =>
    obtain ⟨later, hlater, rfl⟩ := exists_of_map_after_eq_ok h
    refine ReadsRest.of_suffix [arg] (fun rest => ?_) (ih hlater)
    rw [List.singleton_append, parse, if_neg harg, if_pos hoption, hr]
    simp only [hopen]
  | case5 => cases h
  | case6 arg harg hoption r hr switch hopen value options ih =>
    obtain ⟨later, hlater, rfl⟩ := exists_of_map_after_eq_ok h
    refine ReadsRest.of_suffix [arg, value] (fun rest => ?_) (ih hlater)
    rw [List.cons_append, List.singleton_append, parse, if_neg harg, if_pos hoption, hr]
    simp only [hopen]
  | case7 => contradiction
  | case8 => cases h

/-- **A name that is no option ends a list of options**, which is read as if nothing came after
it. -/
theorem parse_append {specs : List Spec} {options : List String} {given : List Given}
    (h : parse specs false options = .ok ⟨given, []⟩) {name : String}
    (hname : isOption name = false) (rest : List String) :
    parse specs false (options ++ name :: rest) = .ok ⟨given, name :: rest⟩ := by
  cases readsRest_of_parse h with
  | asArguments h =>
    have hdash : name ≠ "--" := by
      rintro rfl
      exact absurd hname (by decide)
    rw [h, parse, if_neg hdash, hname, if_neg Bool.false_ne_true, if_neg Bool.false_ne_true]
    simp only [Except.map, Parsed.after, List.append_nil]
  | asOperands _ h => exact h _

end Arguments

namespace CommandLine

open Arguments (Given)

/-- A run that stops early ends as its stop says. -/
theorem run_of_stop {host : Host} {args : List String} {colours : Bool}
    {trouble : Generation.Trouble} {stop : Stop} (h : plan host args colours trouble = .error stop) :
    run host args colours trouble = stop.ending host.tree := by
  simp only [run, h]

/-- A run of a command ends as the command does, up to what is on the error stream. -/
theorem run_of_plan {host : Host} {args : List String} {colours : Bool}
    {trouble : Generation.Trouble} {program : Program} {noted : Noted Commands.Ending}
    (h : plan host args colours trouble = .ok (program, noted)) :
    ∃ stderr, run host args colours trouble = { noted.value with stderr := stderr } := by
  simp only [run, h]
  exact ⟨_, rfl⟩

/-- A program with the operands that follow its options. -/
def Program.followedBy (program : Program) (operands : List String) : Program :=
  { program with options := { program.options with operands := operands } }

/-- **What options ask for does not depend on the command behind them.** -/
theorem readProgram_append {options : List String} {given : List Given}
    (h : Arguments.parse Arguments.programSpecs false options = .ok ⟨given, []⟩) {name : String}
    (hname : Arguments.isOption name = false) (rest : List String) :
    readProgram (options ++ name :: rest) =
      (readProgram options).map (·.followedBy (name :: rest)) := by
  have happend := Arguments.parse_append h hname rest
  have hasks : (⟨given, name :: rest⟩ : Arguments.Parsed).asks? =
      (⟨given, []⟩ : Arguments.Parsed).asks? := rfl
  have hpath : pathValue ⟨given, name :: rest⟩ .config = pathValue ⟨given, []⟩ .config := rfl
  simp only [readProgram, readOptions, h, happend, hasks, bind, Except.bind]
  cases (⟨given, []⟩ : Arguments.Parsed).asks? with
  | some switch => cases switch <;> rfl
  | none =>
    simp only [hpath]
    cases pathValue ⟨given, []⟩ .config <;> rfl

/-- What is planned is the command, once the options are read. -/
theorem plan_append {options : List String} {given : List Given}
    (h : Arguments.parse Arguments.programSpecs false options = .ok ⟨given, []⟩) {name : String}
    (hname : Arguments.isOption name = false) (host : Host) (rest : List String) (colours : Bool)
    (trouble : Generation.Trouble) :
    plan host (options ++ name :: rest) colours trouble =
      (readProgram options).bind fun program =>
        (command host (program.followedBy (name :: rest)) colours trouble name rest).map fun noted =>
          (program.followedBy (name :: rest), noted) := by
  rw [plan, readProgram_append h hname rest]
  cases readProgram options with
  | error stop => rfl
  | ok program =>
    show (command host (program.followedBy (name :: rest)) colours trouble name rest).bind _ =
      (command host (program.followedBy (name :: rest)) colours trouble name rest).map _
    cases command host (program.followedBy (name :: rest)) colours trouble name rest <;> rfl

section Append

variable {options : List String} {given : List Given}
  (h : Arguments.parse Arguments.programSpecs false options = .ok ⟨given, []⟩) {name : String}
  (hname : Arguments.isOption name = false)

include h hname

/-- Options that stop a run stop it, whatever the command is. -/
theorem run_append_of_stop {stop : Stop} (hstop : readProgram options = .error stop) (host : Host)
    (rest : List String) (colours : Bool) (trouble : Generation.Trouble) :
    run host (options ++ name :: rest) colours trouble = stop.ending host.tree := by
  refine run_of_stop ?_
  rw [plan_append h hname, hstop]
  rfl

/-- Behind other options a command ends as it does by itself, up to what is on the error stream. -/
theorem run_append_of_command {program : Program} (hprogram : readProgram options = .ok program)
    {host : Host} {rest : List String} {colours : Bool} {trouble : Generation.Trouble}
    {noted : Noted Commands.Ending}
    (hcommand : command host (program.followedBy (name :: rest)) colours trouble name rest =
      .ok noted) :
    ∃ stderr, run host (options ++ name :: rest) colours trouble =
      { noted.value with stderr := stderr } := by
  have hplan : plan host (options ++ name :: rest) colours trouble =
      .ok (program.followedBy (name :: rest), noted) := by
    rw [plan_append h hname, hprogram, Except.bind, hcommand]
    rfl
  exact run_of_plan hplan

/-- A command, once the options are read, as it is run or stopped. -/
theorem run_append (host : Host) (rest : List String) (colours : Bool)
    (trouble : Generation.Trouble) :
    (∃ stop, readProgram options = .error stop ∧
        run host (options ++ name :: rest) colours trouble = stop.ending host.tree) ∨
      ∃ program, readProgram options = .ok program ∧
        ∀ noted, command host (program.followedBy (name :: rest)) colours trouble name rest =
            .ok noted →
          (run host (options ++ name :: rest) colours trouble).exitCode = noted.value.exitCode := by
  cases hread : readProgram options with
  | error stop => exact .inl ⟨stop, rfl, run_append_of_stop h hname hread host rest colours trouble⟩
  | ok program =>
    refine .inr ⟨program, rfl, fun noted hcommand => ?_⟩
    obtain ⟨stderr, hrun⟩ := run_append_of_command h hname hread hcommand
    rw [hrun]

end Append

end CommandLine
end LogBalancer
