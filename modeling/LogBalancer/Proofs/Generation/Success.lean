/-
# When generating succeeds

Generating succeeds exactly if each of its steps does: the configuration loads, is valid where that
is asked for, is rendered in the format that is asked for, and its text is written to the output
file, where there is one (`Succeeds`).  The text then goes to the stream exactly if there is no
output file (`run_of_succeeds`).  Otherwise nothing goes to the stream, and everything that was there
is intact (`run_of_not_succeeds`).
-/

import LogBalancer.Proofs.Generation.Complaints

namespace LogBalancer

/-! ### Rendering -/

/-- Two steps succeed together exactly if the first does and the second does after it. -/
theorem bind_eq_ok_iff {ε α β : Type} {x : Except ε α} {f : α → Except ε β} {b : β} :
    x >>= f = .ok b ↔ ∃ a, x = .ok a ∧ f a = .ok b := by
  cases x <;> simp [bind, Except.bind]

/-- Changing failures changes no success. -/
theorem mapError_eq_ok_iff {ε ε' α : Type} {x : Except ε α} {f : ε → ε'} {a : α} :
    x.mapError f = .ok a ↔ x = .ok a := by
  cases x with
  | error e => exact ⟨nofun, nofun⟩
  | ok b => exact ⟨fun h => congrArg Except.ok (Except.ok.inj h),
      fun h => congrArg Except.ok (Except.ok.inj h)⟩

/-- **Teams are rendered exactly if they are valid, where that is asked for, and the format renders
them.** -/
theorem renderTeams_eq_ok_iff {format : Format} {validate : Bool} {settings : Settings}
    {teams : List Team} {text : String} :
    renderTeams format validate settings teams = .ok text ↔
      (validate = true → IsValid teams) ∧ format.render settings teams = .ok text := by
  rw [← validateTeams_eq_ok_iff, renderTeams]
  cases validate with
  | false =>
    rw [if_neg Bool.false_ne_true, mapError_eq_ok_iff]
    exact ⟨fun h => ⟨fun hfalse => absurd hfalse Bool.false_ne_true, h⟩, And.right⟩
  | true =>
    rw [if_pos rfl, bind_eq_ok_iff]
    constructor
    · rintro ⟨_, hvalid, htext⟩
      exact ⟨fun _ => mapError_eq_ok_iff.1 hvalid, mapError_eq_ok_iff.1 htext⟩
    · rintro ⟨hvalid, htext⟩
      exact ⟨(), mapError_eq_ok_iff.2 (hvalid rfl), mapError_eq_ok_iff.2 htext⟩

/-- A configuration has a file in the format of a name exactly if the name is that of a format in
which its teams are rendered. -/
theorem ConfigFile.generate_eq_ok_iff {config : Config} {name : String} {validate : Bool}
    {file : ConfigFile} :
    ConfigFile.generate config none name validate = .ok file ↔
      ∃ format, Format.ofName? name = some format ∧ ∃ text,
        (validate = true → IsValid config.teams) ∧
        format.render config.toSettings config.teams = .ok text ∧
        file = ⟨defaultPath format, text, reasonFor format config.teams.length⟩ := by
  unfold ConfigFile.generate
  cases Format.ofName? name with
  | none =>
    constructor
    · intro h
      cases h
    · rintro ⟨_, h, -⟩
      cases h
  | some format =>
    simp only [bind_eq_ok_iff, renderTeams_eq_ok_iff]
    constructor
    · rintro ⟨text, ⟨hvalid, htext⟩, hfile⟩
      exact ⟨format, rfl, text, hvalid, htext, (Except.ok.inj hfile).symm⟩
    · rintro ⟨_, hformat, text, hvalid, htext, rfl⟩
      obtain rfl := Option.some.inj hformat
      exact ⟨text, ⟨hvalid, htext⟩, rfl⟩

/-! ### The whole operation -/

namespace Generation

/-- **What it takes to generate**: `config` is loaded, is valid where that is asked for, is rendered
as `text`, and the text is written to the output file, where there is one. -/
structure Succeeds (host : Host) (request : Request) (trouble : Trouble) (config : Config)
    (text : String) : Prop where
  loads : ∃ source, (TeamFile.resolve host request.path).run.value = .ok (config, source)
  valid : request.validate = true → IsValid config.teams
  renders : ∃ format, Format.ofName? request.format = some format ∧
    format.render config.toSettings config.teams = .ok text
  written : ∀ output, request.output = some output →
    ∃ tree, (Output.toFile host.tree host.cwd text output trouble.file).value = (tree, .ok ())

/-- The stream that a text is put out to: none if there is an output file. -/
def streamFor (request : Request) : Option TextStream :=
  if request.output.isSome then none else some (.opened "")

/-- What is rendered is delivered. -/
theorem run_of_rendered {host : Host} {request : Request} {config : Config} {source : Option Path}
    {file : ConfigFile}
    (hresolve : (TeamFile.resolve host request.path).run.value = .ok (config, source))
    (hfile : ConfigFile.generate config none request.format request.validate = .ok file)
    (stream : Option TextStream) (trouble : Trouble) :
    (run host request stream trouble).value =
      (deliver host request stream trouble file.content
        (rendered request config source file)).value := by
  simp only [run, bind, Noted.bind, hresolve, render_value, hfile]
  rfl

/-- **What can be generated is generated**, and its text goes to the stream exactly if there is no
output file. -/
theorem run_of_succeeds {host : Host} {request : Request} {trouble : Trouble} {config : Config}
    {text : String} (h : Succeeds host request trouble config text)
    (htrouble : trouble.stream = {}) :
    ∃ tree stream r, (run host request (streamFor request) trouble).value =
        ⟨tree, stream, .ok r⟩ ∧ r.ok = true ∧
      stream = if request.output.isSome then none else some (.opened text) := by
  obtain ⟨⟨source, hresolve⟩, hvalid, ⟨format, hformat, htext⟩, hwritten⟩ := h
  obtain ⟨file, hfile, rfl⟩ : ∃ file, ConfigFile.generate config none request.format
      request.validate = .ok file ∧ file.content = text :=
    ⟨_, ConfigFile.generate_eq_ok_iff.2 ⟨format, hformat, text, hvalid, htext, rfl⟩, rfl⟩
  rw [run_of_rendered hresolve hfile]
  cases houtput : request.output with
  | none =>
    have hemit : (Output.emit (.opened "") file.content trouble.stream).value =
        (.opened ("" ++ file.content), .ok ()) := by
      rw [htrouble]
      rfl
    rw [String.empty_append] at hemit
    refine ⟨host.tree, _, rendered request config source file, ?_, rfl, rfl⟩
    simp only [deliver, houtput, streamFor, Option.isSome_none, Bool.false_eq_true, if_false, bind,
      Noted.bind, hemit]
    rfl
  | some output =>
    obtain ⟨tree, htree⟩ := hwritten output houtput
    let r := { rendered request config source file with destination := some output }
    refine ⟨tree, _, r, ?_, rfl, rfl⟩
    simp only [deliver, houtput, streamFor, Option.isSome_some, if_true, bind, Noted.bind, htree]
    rfl

/-- **What cannot be generated leaves everything as it was**: nothing goes to the stream, and there
is no result that is good. -/
theorem run_of_not_succeeds {host : Host} {request : Request} {trouble : Trouble}
    (h : ¬∃ config text, Succeeds host request trouble config text) :
    ∃ tree result, (run host request (streamFor request) trouble).value =
        ⟨tree, streamFor request, result⟩ ∧
      (∀ r, result = .ok r → r.ok = false) ∧ Intact host.tree tree := by
  rcases run_cases host request (streamFor request) trouble with ⟨result, hrun, hrefused⟩ |
    ⟨config, source, file, hresolve, hfile, hrun⟩
  · exact ⟨host.tree, result, hrun, fun r hr => (hrefused r hr).1, fun _ _ => id⟩
  · obtain ⟨format, hformat, text, hvalid, htext, rfl⟩ := ConfigFile.generate_eq_ok_iff.1 hfile
    -- all but the last step succeed, so it is the output file that is not written
    have hrest : (∀ output, request.output = some output → ∃ tree,
        (Output.toFile host.tree host.cwd text output trouble.file).value = (tree, .ok ())) →
        False :=
      fun hwritten => h ⟨config, text, ⟨source, hresolve⟩, hvalid, ⟨format, hformat, htext⟩,
        hwritten⟩
    cases houtput : request.output with
    | none => exact (hrest fun output hsome => nomatch houtput.symm.trans hsome).elim
    | some output =>
      rcases toFile_spec host text output trouble.file with ⟨tree, hwritten, -⟩ |
        ⟨tree, e, hfailed, hintact⟩
      · refine (hrest fun output' hsome => ?_).elim
        obtain rfl := Option.some.inj (houtput.symm.trans hsome)
        exact ⟨tree, hwritten⟩
      · refine ⟨tree, .error e, ?_, fun r hr => (nomatch hr), hintact⟩
        rw [hrun]
        simp only [deliver, houtput, bind, Noted.bind, hfailed]
        rfl

end Generation
end LogBalancer
