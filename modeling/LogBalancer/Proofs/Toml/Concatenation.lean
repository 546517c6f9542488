/-
# The text of a list from the texts of its parts

A TOML text is its preamble and then one paragraph for each team, in order: an empty line, the
team's sections and a line end (`renderToml_eq_join`).  The three ways in which line ends come
into the text, after the preamble, between the sections and after the last one, therefore amount to
one, and nothing at the boundary of two teams depends on what comes before or after.

So the text of two lists put together is the text of the first followed by what the second has
behind its preamble (`renderToml_append`), also where one of them is empty.
-/

import LogBalancer.Proofs.Generation.Complaints

namespace LogBalancer

/-- A result is an error exactly if it is no value. -/
theorem exists_error_iff {ε α : Type} {x : Except ε α} :
    (∃ e, x = .error e) ↔ ¬∃ a, x = .ok a := by
  constructor
  · rintro ⟨e, rfl⟩ ⟨a, ha⟩
    cases ha
  · intro h
    cases x with
    | error e => exact ⟨e, rfl⟩
    | ok a => exact absurd ⟨a, rfl⟩ h

namespace Toml

/-! ### Paragraphs -/

/-- A text behind an empty line, with its last line ended. -/
def paragraph (text : String) : String := "\n" ++ text ++ "\n"

/-- **Texts with blank lines between them are one paragraph each**, by induction on the texts. -/
theorem paragraph_intercalate {texts : List String} (hne : texts ≠ []) :
    paragraph (separator.intercalate texts) = String.join (texts.map paragraph) := by
  have hseparator : separator = "\n" ++ "\n" := by decide
  induction texts with
  | nil => contradiction
  | cons x xs ih =>
    cases xs with
    | nil =>
      have hone : String.join [paragraph x] = paragraph x := by
        rw [String.join_cons, String.join_nil, String.append_empty]
      rw [String.intercalate_singleton, List.map_singleton, hone]
    | cons y ys =>
      have hrest := ih (List.cons_ne_nil y ys)
      rw [List.map_cons, String.join_cons, ← hrest, String.intercalate_cons_cons, hseparator]
      simp only [paragraph, String.append_assoc]

/-- **A text is its preamble and a paragraph for each server**, if there are any or not. -/
theorem render_eq_join (d : Document) :
    render d =
      preamble d.api ++ String.join (d.servers.map fun s => paragraph (serverBlock s)) := by
  unfold render
  split
  · rename_i hnil
    rw [hnil, List.map_nil, String.join_nil, String.append_empty]
  · rename_i hne
    have hblocks : d.servers.map serverBlock ≠ [] := fun h => hne (List.map_eq_nil_iff.1 h)
    have hjoin := paragraph_intercalate hblocks
    rw [List.map_map] at hjoin
    have hcomp : (paragraph ∘ serverBlock) = fun s => paragraph (serverBlock s) := rfl
    rw [← hcomp, ← hjoin]
    simp only [paragraph, String.append_assoc]

/-! ### Teams -/

/-- What a team adds to a text: its sections, as a paragraph. -/
def teamText (settings : Settings) (team : Team) : String :=
  paragraph (serverBlock (Server.of settings team (Decimal.numeral team.port)))

/-- **The text of teams is the preamble and what each of them adds**, in order. -/
theorem renderToml_eq_join (settings : Settings) {teams : List Team}
    (h : ∀ t ∈ teams, Decimal.isWritable t.port = true) :
    renderToml settings teams = .ok (preamble settings.api.fields ++
      String.join (teams.map (teamText settings))) := by
  have hdocument := Document.ofTeams_eq_ok settings h
  have htexts : (teams.map fun t => Server.of settings t (Decimal.numeral t.port)).map
      (fun s => paragraph (serverBlock s)) = teams.map (teamText settings) := List.map_map
  rw [renderToml, hdocument, Except.map, render_eq_join, htexts]

/-- **There is no text exactly if a port has more than 4300 digits.** -/
theorem renderToml_error_iff (settings : Settings) (teams : List Team) :
    (∃ e, renderToml settings teams = .error e) ↔
      ∃ t ∈ teams, 4300 < (Decimal.digits t.port.natAbs).length := by
  have hok : (∃ text, renderToml settings teams = .ok text) ↔
      ∀ t ∈ teams, (Decimal.digits t.port.natAbs).length ≤ 4300 := by
    have hrender := Format.toml.render_isOk_iff settings teams
    simp only [Decimal.isWritable_iff] at hrender
    exact hrender
  rw [exists_error_iff, hok]
  simp only [Classical.not_forall, Nat.not_le, exists_prop]

/-- **The text of two lists put together** is the text of the first one, followed by that of the
second one without its preamble: by what each team of the second list adds.  It fails to be exactly
if one of the two does, which is exactly if a port has more than 4300 digits. -/
theorem renderToml_append (settings : Settings) (xs ys : List Team) :
    ((∀ t ∈ xs ++ ys, (Decimal.digits t.port.natAbs).length ≤ 4300) →
      ∃ first second, renderToml settings xs = .ok first ∧
        renderToml settings ys = .ok (preamble settings.api.fields ++ second) ∧
        renderToml settings (xs ++ ys) = .ok (first ++ second) ∧
        second = String.join (ys.map (teamText settings))) ∧
    ((∃ e, renderToml settings (xs ++ ys) = .error e) ↔
      (∃ e, renderToml settings xs = .error e) ∨ ∃ e, renderToml settings ys = .error e) ∧
    ((∃ e, renderToml settings (xs ++ ys) = .error e) ↔
      ∃ t ∈ xs ++ ys, 4300 < (Decimal.digits t.port.natAbs).length) := by
  refine ⟨?_, ?_, renderToml_error_iff settings (xs ++ ys)⟩
  · intro hports
    have hwritable : ∀ t ∈ xs ++ ys, Decimal.isWritable t.port = true :=
      fun t ht => (Decimal.isWritable_iff t.port).2 (hports t ht)
    have hxs := renderToml_eq_join settings fun t ht => hwritable t (List.mem_append_left ys ht)
    have hys := renderToml_eq_join settings fun t ht => hwritable t (List.mem_append_right xs ht)
    have hboth := renderToml_eq_join settings hwritable
    rw [List.map_append, String.join_append, ← String.append_assoc] at hboth
    exact ⟨_, _, hxs, hys, hboth, rfl⟩
  · simp only [renderToml_error_iff, List.mem_append, or_and_right, exists_or]

end Toml
end LogBalancer
