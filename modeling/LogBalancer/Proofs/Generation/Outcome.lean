/-
# Generating is all or nothing

Generating resolves the configuration, renders it and delivers the text.  The first two steps look
at the host and change nothing, so an operation that stops in one of them leaves everything as it
was, with at least one error in its result (`renderErrors_ne_nil`).  A text that is there is
delivered to one place as a whole, or not at all (`deliver_spec`).  `run_all_or_nothing` puts the
two together.
-/

import LogBalancer.Generation
import LogBalancer.Proofs.Output.Runs

namespace LogBalancer

/-! ### Refusals -/

/-- A list that is refused for its problems has some. -/
theorem ne_nil_of_validateTeams {teams : List Team} {problems : List String}
    (h : validateTeams teams = .error (.invalid problems)) : problems ≠ [] := by
  unfold validateTeams at h
  split at h
  · cases h
  · cases h
  · rename_i hne _
    obtain rfl := Refusal.invalid.inj (Except.error.inj h)
    exact hne

/-- Rendering refuses a list only for the reason for which validation does. -/
theorem validateTeams_of_renderTeams {format : Format} {validate : Bool} {settings : Settings}
    {teams : List Team} {reason : Refusal}
    (h : renderTeams format validate settings teams = .error (.refused reason)) :
    validateTeams teams = .error reason := by
  have hrender : (format.render settings teams).mapError (fun _ => RenderError.tooLong) ≠
      .error (.refused reason) := by
    cases format.render settings teams <;> exact fun h => nomatch h
  unfold renderTeams at h
  split at h
  · cases hvalid : validateTeams teams with
    | error r =>
      rw [hvalid] at h
      obtain rfl := RenderError.refused.inj (Except.error.inj h)
      rfl
    | ok u =>
      rw [hvalid] at h
      exact absurd h hrender
  · exact absurd h hrender

namespace Generation

/-- **A configuration that is not rendered leaves at least one error.** -/
theorem renderErrors_ne_nil {config : Config} {path : Option String} {formatName : String}
    {validate : Bool} {e : RenderError}
    (h : ConfigFile.generate config path formatName validate = .error e) :
    renderErrors e ≠ [] := by
  unfold renderErrors
  split
  · rename_i problems
    unfold ConfigFile.generate at h
    split at h
    · cases h
    rename_i format _
    cases hcontent : renderTeams format validate config.toSettings config.teams with
    | ok content =>
      rw [hcontent] at h
      cases h
    | error e =>
      rw [hcontent] at h
      obtain rfl := Except.error.inj h
      exact ne_nil_of_validateTeams (validateTeams_of_renderTeams hcontent)
  · exact List.cons_ne_nil _ _

/-! ### Delivery -/

/-- The file at a path reads as a text, and nothing else has changed but that directories may have
come to be. -/
def FileHolds (host : Host) (output : Path) (text : String) (tree : FileTree) : Prop :=
  (∃ octets, tree.octetsAt host.cwd output = .ok octets ∧ Text.decode octets = .ok text) ∧
    ∀ l ≠ FileTree.resolve host.cwd output, tree.get? l = host.tree.get? l ∨
      host.tree.get? l = none ∧ tree.get? l = some .directory

/-- **A text is in one place and nowhere else**: in the output file, if there is one, with the stream
as it was; otherwise at the end of the stream, if there is one, with the tree as it was. -/
def Delivered (host : Host) (request : Request) (stream : Option TextStream) (text : String)
    (outcome : Outcome) : Prop :=
  match request.output, stream with
  | some output, _ => outcome.stream = stream ∧ FileHolds host output text outcome.tree
  | none, some s =>
    outcome.tree = host.tree ∧
      ∃ before, s = .opened before ∧ outcome.stream = some (.opened (before ++ text))
  | none, none => outcome.tree = host.tree ∧ outcome.stream = none

/-- Everything that was there is as it was. -/
def Intact (before after : FileTree) : Prop :=
  ∀ l e, before.get? l = some e → after.get? l = some e

/-- The octets at a path are those of the file to which it leads. -/
theorem octetsAt_of_locate {t : FileTree} {cwd l : Location} {p : Path} {octets : List UInt8}
    (hl : t.locate cwd p = .ok l) (h : t.get? l = some (.file octets)) :
    t.octetsAt cwd p = .ok octets := by
  simp only [FileTree.octetsAt, FileTree.stat, hl, bind, Except.bind, h, pure, Except.pure]

/-- **A write puts a whole text into its file or leaves everything intact.** -/
theorem toFile_spec (host : Host) (text : String) (output : Path) (trouble : FileTree.Trouble) :
    (∃ t', (Output.toFile host.tree host.cwd text output trouble).value = (t', .ok ()) ∧
      FileHolds host output text t') ∨
    ∃ t' e, (Output.toFile host.tree host.cwd text output trouble).value = (t', .error e) ∧
      Intact host.tree t' := by
  obtain ⟨t', hgrows, ⟨t'', e, hrun, hleaves, -⟩ | ⟨hrun, hdir, hlocate⟩⟩ :=
    Output.Call.run_spec host.tree ⟨host.cwd, output, text, trouble⟩
  · exact .inr ⟨t'', e, hrun, fun _ _ he => hleaves.kept (hgrows.kept he)⟩
  · have hne : FileTree.resolve host.cwd output ≠ [] := by
      intro hnil
      rw [Output.Call.target, hnil] at hdir
      exact hdir rfl
    refine .inl ⟨_, hrun, ⟨_, octetsAt_of_locate hlocate (FileTree.get?_put_self t' hne _),
      Text.decode_encode text⟩, ?_⟩
    intro l hl
    rw [Output.Call.target, FileTree.get?_put_of_ne t' hl]
    cases hold : host.tree.get? l with
    | some e => exact .inl (hgrows.kept hold)
    | none => exact (hgrows.added hold).imp_right fun h => ⟨rfl, h.1⟩

/-- **A stream that takes a text takes it at its end.** -/
theorem emit_spec (s : TextStream) (text : String) (trouble : TextStream.Trouble) :
    (∃ before, s = .opened before ∧
      (Output.emit s text trouble).value = (.opened (before ++ text), .ok ())) ∨
    ∃ s' e, (Output.emit s text trouble).value = (s', .error e) := by
  cases s with
  | closed => exact .inr ⟨_, _, rfl⟩
  | opened before =>
    obtain ⟨write, flush⟩ := trouble
    cases write with
    | some reason => exact .inr ⟨_, _, rfl⟩
    | none =>
      cases flush with
      | some reason => exact .inr ⟨_, _, rfl⟩
      | none => exact .inl ⟨before, rfl, rfl⟩

/-- **A text is delivered as a whole, or everything is intact.** -/
theorem deliver_spec (host : Host) (request : Request) (stream : Option TextStream)
    (trouble : Trouble) (text : String) {done : Result} (hdone : done.destination = none) :
    ∃ outcome, (deliver host request stream trouble text done).value = outcome ∧
      ((outcome.result = .ok { done with destination := request.output } ∧
          Delivered host request stream text outcome) ∨
        ∃ e, outcome.result = .error e ∧ Intact host.tree outcome.tree) := by
  obtain ⟨ok, text', format, teamCount, source, destination, errors⟩ := done
  obtain rfl : destination = none := hdone
  obtain ⟨path, validate, formatName, output⟩ := request
  refine ⟨_, rfl, ?_⟩
  cases output with
  | some output =>
    rcases toFile_spec host text output trouble.file with ⟨t', hwritten, hholds⟩ |
      ⟨t', e, hfailed, hintact⟩
    · simp only [deliver, bind, Noted.bind, hwritten]
      exact .inl ⟨rfl, rfl, hholds⟩
    · simp only [deliver, bind, Noted.bind, hfailed]
      exact .inr ⟨e, rfl, hintact⟩
  | none =>
    have hintact : Intact host.tree host.tree := fun _ _ => id
    cases stream with
    | none => exact .inl ⟨rfl, rfl, rfl⟩
    | some s =>
      rcases emit_spec s text trouble.stream with ⟨before, hs, htaken⟩ | ⟨s', e, hfailed⟩
      · simp only [deliver, bind, Noted.bind, htaken]
        exact .inl ⟨rfl, rfl, before, hs, rfl⟩
      · simp only [deliver, bind, Noted.bind, hfailed]
        exact .inr ⟨e, rfl, hintact⟩

/-! ### The whole operation -/

/-- The result of a configuration that has been rendered, before its text is delivered. -/
def rendered (request : Request) (config : Config) (source : Option Path) (file : ConfigFile) :
    Result :=
  { ok := true, text := file.content, format := request.format,
    teamCount := config.teams.length, source := source }

/-- Rendering takes notes of what it generates. -/
theorem render_value (request : Request) (config : Config) :
    (render request config).value =
      ConfigFile.generate config none request.format request.validate := by
  unfold render
  split <;> rfl

/-- **Generating stops in a step that changes nothing, or delivers what it has rendered.** -/
theorem run_cases (host : Host) (request : Request) (stream : Option TextStream)
    (trouble : Trouble) :
    (∃ result, (run host request stream trouble).value = ⟨host.tree, stream, result⟩ ∧
      ∀ r, result = .ok r → r.ok = false ∧ r.errors ≠ [] ∧ r.text = "" ∧ r.destination = none) ∨
    ∃ config source file,
      (TeamFile.resolve host request.path).run.value = .ok (config, source) ∧
      ConfigFile.generate config none request.format request.validate = .ok file ∧
      (run host request stream trouble).value =
        (deliver host request stream trouble file.content
          (rendered request config source file)).value := by
  simp only [run, bind, Noted.bind]
  split
  · refine .inl ⟨_, rfl, ?_⟩
    intro r hr
    obtain rfl := Except.ok.inj hr
    exact ⟨rfl, List.cons_ne_nil _ _, rfl, rfl⟩
  · exact .inl ⟨_, rfl, fun r hr => nomatch hr⟩
  · rename_i config source hresolve
    rw [render_value]
    cases hfile : ConfigFile.generate config none request.format request.validate with
    | error e =>
      refine .inl ⟨_, rfl, ?_⟩
      intro r hr
      obtain rfl := Except.ok.inj hr
      exact ⟨rfl, renderErrors_ne_nil hfile, rfl, rfl⟩
    | ok file => exact .inr ⟨config, source, file, hresolve, hfile, rfl⟩

/-- **Generating is all or nothing.**  An operation that returns has succeeded exactly if it has no
errors.  If it has not, there is no text and everything is as it was; if it has, the text is that of
the resolved configuration and is delivered.  An operation that ends in a failure leaves intact what
was there. -/
theorem run_all_or_nothing (host : Host) (request : Request) (stream : Option TextStream)
    (trouble : Trouble) :
    ∃ outcome, (run host request stream trouble).value = outcome ∧
      (∀ r, outcome.result = .ok r →
        (r.ok = true ↔ r.errors = []) ∧
        (r.ok = false → r.text = "" ∧ r.destination = none ∧ outcome.tree = host.tree ∧
          outcome.stream = stream) ∧
        (r.ok = true → r.destination = request.output ∧
          Delivered host request stream r.text outcome ∧
          ∃ config source file,
            (TeamFile.resolve host request.path).run.value = .ok (config, source) ∧
            ConfigFile.generate config none request.format request.validate = .ok file ∧
            r.text = file.content ∧ r.teamCount = config.teams.length ∧ r.source = source)) ∧
      (∀ e, outcome.result = .error e → Intact host.tree outcome.tree) := by
  refine ⟨_, rfl, ?_⟩
  rcases run_cases host request stream trouble with ⟨result, hrun, hrefused⟩ |
    ⟨config, source, file, hresolve, hfile, hrun⟩
  · rw [hrun]
    refine ⟨?_, fun e _ => fun _ _ => id⟩
    intro r hr
    obtain ⟨hok, herrors, htext, hdestination⟩ := hrefused r hr
    rw [hok]
    refine ⟨⟨(fun h => nomatch h), fun h => absurd h herrors⟩, fun _ => ?_, fun h => nomatch h⟩
    exact ⟨htext, hdestination, rfl, rfl⟩
  · have hdone : (rendered request config source file).destination = none := rfl
    obtain ⟨outcome, houtcome, ⟨hresult, hdelivered⟩ | ⟨e, hresult, hintact⟩⟩ :=
      deliver_spec host request stream trouble file.content hdone
    · rw [hrun, houtcome]
      refine ⟨?_, fun e he => nomatch hresult.symm.trans he⟩
      intro r hr
      obtain rfl := Except.ok.inj (hresult.symm.trans hr)
      refine ⟨⟨fun _ => rfl, fun _ => rfl⟩, (fun h => nomatch h), fun _ => ?_⟩
      exact ⟨rfl, hdelivered, config, source, file, hresolve, hfile, rfl, rfl, rfl⟩
    · rw [hrun, houtcome]
      exact ⟨(fun r hr => nomatch hresult.symm.trans hr), fun _ _ => hintact⟩

end Generation
end LogBalancer
