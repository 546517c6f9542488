/-
# Validation is a gate

Every way of rendering a team list takes a flag that says whether the list is validated first.  The
flag decides whether there is a result, and never what it is (`IsGated`): a valid list passes and is
rendered as it is without the flag, and any other list is refused before a text is made of it.  It
is refused for its problems, or, where these cannot be told, for a port that is too long to be
written.

The format comes before the gate: where the name of a format is not known, the list is not looked
at.
-/

import LogBalancer.Proofs.Generation.Complaints

namespace LogBalancer

/-- **A call is gated by validation.**  `call validate` is its outcome with validation or without. -/
structure IsGated {α : Type} (call : Bool → Except RenderError α) (teams : List Team) : Prop where
  /-- A valid list passes, and its result is that of the call without validation. -/
  passes : IsValid teams → ∃ a, call true = .ok a ∧ call false = .ok a
  /-- Any other list is refused for all its problems, if its ports can be written. -/
  refuses : ¬IsValid teams → (∀ t ∈ teams, (Decimal.digits t.port.natAbs).length ≤ 4300) →
    ∃ problems, findProblems teams = .ok problems ∧
      call true = .error (.refused (.invalid problems))
  /-- A list with a port that cannot be written is refused for it. -/
  tooLong : (∃ t ∈ teams, 4300 < (Decimal.digits t.port.natAbs).length) →
    call true = .error (.refused .tooLong)

/-! ### The verdict -/

/-- A list that is not valid is refused for its problems. -/
theorem validateTeams_of_not_isValid {teams : List Team} (h : ¬IsValid teams)
    {problems : List String} (hproblems : findProblems teams = .ok problems) :
    validateTeams teams = .error (.invalid problems) := by
  have hne : problems ≠ [] := by
    rintro rfl
    exact h ((findProblems_eq_nil_iff teams).1 hproblems)
  unfold validateTeams
  rw [hproblems]
  cases problems with
  | nil => exact absurd rfl hne
  | cons p ps => rfl

/-- A list whose problems cannot be told is refused for that. -/
theorem validateTeams_of_tooLong {teams : List Team} {e : TooLong}
    (h : findProblems teams = .error e) : validateTeams teams = .error .tooLong := by
  unfold validateTeams
  rw [h]

/-- The problems of a list cannot be told if it has a port of more than 4300 digits. -/
theorem findProblems_eq_error {teams : List Team}
    (h : ∃ t ∈ teams, 4300 < (Decimal.digits t.port.natAbs).length) :
    ∃ e, findProblems teams = .error e := by
  obtain ⟨t, ht, hlong⟩ := h
  cases hproblems : findProblems teams with
  | error e => exact ⟨e, rfl⟩
  | ok problems =>
    have hwritable := (findProblems_isOk_iff teams).1 ⟨problems, hproblems⟩ t ht
    have hshort : (Decimal.digits t.port.natAbs).length ≤ 4300 :=
      (Decimal.isWritable_iff t.port).1 hwritable
    omega

/-! ### The gate -/

/-- The gate stands before the rendering of a list in a format. -/
theorem renderTeams_isGated (format : Format) (settings : Settings) (teams : List Team) :
    IsGated (fun validate => renderTeams format validate settings teams) teams := by
  constructor
  · intro hvalid
    have hwritable : ∀ t ∈ teams, Decimal.isWritable t.port = true :=
      fun t ht => Decimal.isWritable_of_isPort (hvalid.inRange t ht)
    obtain ⟨text, htext⟩ := (format.render_isOk_iff settings teams).2 hwritable
    have haccepted := (validateTeams_eq_ok_iff teams).2 hvalid
    refine ⟨text, ?_, ?_⟩
    · simp only [renderTeams, haccepted, htext]
      rfl
    · simp only [renderTeams, htext]
      rfl
  · intro hinvalid hports
    have hwritable : ∀ t ∈ teams, Decimal.isWritable t.port = true :=
      fun t ht => (Decimal.isWritable_iff t.port).2 (hports t ht)
    obtain ⟨problems, hproblems⟩ := (findProblems_isOk_iff teams).2 hwritable
    have hrefused := validateTeams_of_not_isValid hinvalid hproblems
    refine ⟨problems, hproblems, ?_⟩
    simp only [renderTeams, hrefused]
    rfl
  · intro hlong
    obtain ⟨e, he⟩ := findProblems_eq_error hlong
    have hrefused := validateTeams_of_tooLong he
    simp only [renderTeams, hrefused]
    rfl

/-- What is made of the result of a gated call is gated. -/
theorem IsGated.map {α β : Type} {call : Bool → Except RenderError α} {teams : List Team}
    (h : IsGated call teams) (f : α → β) :
    IsGated (fun validate => (call validate).map f) teams := by
  constructor
  · intro hvalid
    obtain ⟨a, htrue, hfalse⟩ := h.passes hvalid
    exact ⟨f a, congrArg (Except.map f) htrue, congrArg (Except.map f) hfalse⟩
  · intro hinvalid hports
    obtain ⟨problems, hproblems, hrefused⟩ := h.refuses hinvalid hports
    exact ⟨problems, hproblems, congrArg (Except.map f) hrefused⟩
  · intro hlong
    exact congrArg (Except.map f) (h.tooLong hlong)

/-! ### The format -/

/-- There are no formats but the two. -/
theorem Format.ofName?_eq_none {name : String} (htoml : name ≠ "toml") (hjson : name ≠ "json") :
    Format.ofName? name = none := by
  have htoml' : Format.toml.name ≠ name := Ne.symm htoml
  have hjson' : Format.json.name ≠ name := Ne.symm hjson
  simp [Format.ofName?, Format.all, htoml', hjson']

/-- The file of a configuration in a known format has the text of its teams, and a path that does
not depend on whether they are validated. -/
theorem ConfigFile.generate_of_format (config : Config) (path : Option String) (format : Format) :
    ∃ place, ∀ validate, ConfigFile.generate config path format.name validate =
      (renderTeams format validate config.toSettings config.teams).map
        (⟨place, ·, reasonFor format config.teams.length⟩) := by
  cases path with
  | none =>
    refine ⟨defaultPath format, fun validate => ?_⟩
    rw [ConfigFile.generate, Format.ofName?_name]
    rfl
  | some p =>
    refine ⟨if p.isEmpty then defaultPath format else p, fun validate => ?_⟩
    rw [ConfigFile.generate, Format.ofName?_name]
    rfl

/-- A file in a known format is gated by the validation of the teams. -/
theorem ConfigFile.generate_isGated (config : Config) (path : Option String) (format : Format) :
    IsGated (fun validate => ConfigFile.generate config path format.name validate)
      config.teams := by
  obtain ⟨place, hfile⟩ := ConfigFile.generate_of_format config path format
  have hgated := (renderTeams_isGated format config.toSettings config.teams).map
    (ConfigFile.mk place · (reasonFor format config.teams.length))
  simpa only [hfile] using hgated

/-- **Validation is a pure gate** before both texts of a team list and before the file of a
configuration.  Where the name of a format is not known, there is no file, whatever the teams. -/
theorem validation_is_gate (settings : Settings) (teams : List Team) :
    (∀ format, IsGated (fun validate => renderTeams format validate settings teams) teams) ∧
    (∀ format path, IsGated
      (fun validate => ConfigFile.generate ⟨settings, teams⟩ path (Format.name format) validate)
      teams) ∧
    ∀ name path validate, name ≠ "toml" → name ≠ "json" →
      ConfigFile.generate ⟨settings, teams⟩ path name validate =
        .error (.unknownFormat name) := by
  refine ⟨fun format => renderTeams_isGated format settings teams,
    fun format path => ConfigFile.generate_isGated ⟨settings, teams⟩ path format, ?_⟩
  intro name path validate htoml hjson
  rw [ConfigFile.generate, Format.ofName?_eq_none htoml hjson]

end LogBalancer
