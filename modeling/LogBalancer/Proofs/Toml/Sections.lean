/-
# The statements of a written TOML text

As long as names are bare keys and strings are plain, a section is read as its header and its fields
(`reads_block`), and sections with blank lines between them are read one after the other
(`Reads.intercalate`).

A text is a part of a longer one: `Reads x sts` says that `x`, with its last line ended, is read
as the statements `sts` before whatever follows it.
-/

import LogBalancer.Proofs.Toml.Values

namespace LogBalancer
namespace Toml

/-! ### Lines -/

/-- The statement of a field. -/
def fieldStatement (f : Field) : Statement := .field f.key f.item.json

/-- Nothing is skipped before a character that is not blank. -/
theorem skipBlanks_of_not_isBlank {c : Char} (h : isBlank c = false) (s : List Char) :
    skipBlanks (c :: s) = c :: s :=
  List.dropWhile_cons_of_neg (by simp [h])

/-- A space is skipped. -/
theorem skipBlanks_blank (s : List Char) : skipBlanks (' ' :: s) = skipBlanks s :=
  List.dropWhile_cons_of_pos (by decide)

/-- A line ends with a line feed. -/
theorem lineEnd?_newline (s : List Char) : lineEnd? ('\n' :: s) = some s := by
  unfold lineEnd?
  rw [skipBlanks_of_not_isBlank (by decide)]
  rfl

/-- No digit follows at a line end. -/
theorem noDigit_newline (s : List Char) : Text.NoDigit ('\n' :: s) := by
  intro c hc
  rw [← Option.some.inj hc]
  rfl

/-- There is no blank before an item. -/
theorem skipBlanks_item (margin : String) (i : Item) (s : List Char) :
    skipBlanks ((item margin i).toList ++ s) = (item margin i).toList ++ s := by
  have hhead : ∃ c t, (item margin i).toList = c :: t ∧ isBlank c = false := by
    cases i with
    | flag b =>
      cases b with
      | true => exact ⟨'t', _, item_true margin, by decide⟩
      | false => exact ⟨'f', _, item_false margin, by decide⟩
    | number n =>
      obtain ⟨d, ds, hd, -⟩ := Text.exists_digits_eq_cons n
      refine ⟨d, ds, by rw [item, Decimal.natural, String.toList_ofList, hd], ?_⟩
      have hdigit := Text.isDigit_of_mem_digits (n := n) (c := d) (by rw [hd]; exact List.mem_cons_self)
      by_cases hb : isBlank d = true
      · rw [isBlank, Bool.or_eq_true, beq_iff_eq, beq_iff_eq] at hb
        rcases hb with rfl | rfl <;> exact absurd hdigit (by decide)
      · simpa using hb
    | text t =>
      refine ⟨'"', t.toList ++ ['"'], ?_, by decide⟩
      simp only [item, quote, String.toList_append]
      rfl
    | texts ts =>
      refine ⟨'[', '\n' :: ((stringLines margin ts).toList ++ '\n' :: (margin.toList ++ [']'])), ?_,
        by decide⟩
      simp only [item, stringLines, String.toList_append, List.append_assoc]
      rfl
  obtain ⟨c, t, ht, hc⟩ := hhead
  rw [ht, List.cons_append, skipBlanks_of_not_isBlank hc]

/-- A bare key, an equals sign and a value up to the line end are a field, with blanks around the sign
or without. -/
theorem statement?_of_field {k : String} (hk : isBare k = true) {d : Char}
    (hd : isBareChar d = false) {s s₁ s₂ rest : List Char} {v : Json}
    (heq : skipBlanks (d :: s) = '=' :: s₁) (hv : value? (skipBlanks s₁) = some (v, s₂))
    (hend : lineEnd? s₂ = some rest) :
    statement? (k.toList ++ d :: s) = some (.field k v, rest) := by
  have hkey := key?_of_isBare hk hd s
  obtain ⟨c, t, hct, hc⟩ := isBareChar_of_key hk
  have hopen : c ≠ '[' := by
    rintro rfl
    exact absurd hc (by decide)
  rw [hct, List.cons_append] at hkey ⊢
  rw [statement?.eq_2 _ fun s h => hopen (List.cons.inj h).1, hkey]
  simp only
  rw [heq]
  simp only
  rw [hv]
  simp only
  rw [hend]
  rfl

/-- **The line of a field is read as the field**, with spaces around its equals sign or without. -/
theorem statement?_field {margin : String} (hm : IsMargin margin) {f : Field} (h : f.IsPlain)
    (rest : List Char) :
    statement? (f.key.toList ++ ((if f.tight then "=" else " = ").toList ++
      ((item margin f.item).toList ++ '\n' :: rest))) = some (fieldStatement f, rest) := by
  have hvalue : value? (skipBlanks ((item margin f.item).toList ++ '\n' :: rest)) =
      some (f.item.json, '\n' :: rest) := by
    rw [skipBlanks_item]
    exact value?_item hm h.item (noDigit_newline rest)
  cases ht : f.tight with
  | true =>
    exact statement?_of_field h.key (d := '=') (by decide) (skipBlanks_of_not_isBlank (by decide) _)
      hvalue (lineEnd?_newline rest)
  | false =>
    have heq : skipBlanks (' ' :: '=' :: ' ' :: ((item margin f.item).toList ++ '\n' :: rest)) =
        '=' :: ' ' :: ((item margin f.item).toList ++ '\n' :: rest) := by
      rw [skipBlanks_blank, skipBlanks_of_not_isBlank (by decide)]
    exact statement?_of_field h.key (d := ' ') (by decide) heq (by rwa [skipBlanks_blank])
      (lineEnd?_newline rest)

/-- **The line of a header is read as the header.** -/
theorem statement?_header {path : List String} (hne : path ≠ [])
    (h : ∀ k ∈ path, isBare k = true) (rest : List Char) :
    statement? ('[' :: ((".".intercalate path).toList ++ ']' :: '\n' :: rest)) =
      some (.table path, rest) := by
  rw [statement?, path?_intercalate hne h]
  simp only
  rw [lineEnd?_newline]
  rfl

/-! ### Sections -/

/-- The statements of a section: its header and its fields. -/
def sectionStatements (path : List String) (fields : List Field) : List Statement :=
  .table path :: fields.map fieldStatement

/-- A text is read as some statements, once its last line is ended. -/
def Reads (x : String) (sts : List Statement) : Prop :=
  ∀ rest, statements? (x.toList ++ '\n' :: rest) = (statements? rest).map (sts ++ ·)

/-- Where only gaps are left there are no statements. -/
theorem statements?_nil {s : List Char} (h : skipGaps s = []) : statements? s = some [] := by
  rw [statements?]
  split
  · rfl
  · rename_i hs
    exact absurd (h.symm.trans hs) (List.cons_ne_nil _ _).symm

/-- Where more is left, a statement is read and then the others. -/
theorem statements?_cons {s s₁ : List Char} {c : Char} (h : skipGaps s = c :: s₁) :
    statements? s = (statement? (c :: s₁)).bind fun (st, rest) =>
      (statements? rest).map (st :: ·) := by
  rw [statements?]
  split
  · rename_i hs
    exact absurd (hs.symm.trans h) (List.cons_ne_nil _ _).symm
  · rename_i hs
    obtain ⟨rfl, rfl⟩ := List.cons.inj (h.symm.trans hs)
    split
    · rename_i hst
      simp only [hst, Option.bind_none]
    · rename_i hst
      simp only [hst, Option.bind_some]

/-- An empty line makes no statement. -/
theorem statements?_newline (s : List Char) : statements? ('\n' :: s) = statements? s := by
  cases h : skipGaps s with
  | nil => rw [statements?_nil h, statements?_nil (by rw [skipGaps_newline, h])]
  | cons c t => rw [statements?_cons h, statements?_cons (by rw [skipGaps_newline, h])]

/-- The line of a field, without its margin. -/
def lineChars (margin : String) (f : Field) : List Char :=
  f.key.toList ++ ((if f.tight then "=" else " = ").toList ++ (item margin f.item).toList)

/-- A field is its margin and its line. -/
theorem field_toList (margin : String) (f : Field) :
    (field margin f).toList = margin.toList ++ lineChars margin f := by
  simp only [field, lineChars, String.toList_append, List.append_assoc]

/-- **A field on its line is read back**, and then what follows. -/
theorem statements?_field {margin : String} (hm : IsMargin margin) {f : Field} (h : f.IsPlain)
    (rest : List Char) :
    statements? ((field margin f).toList ++ '\n' :: rest) =
      (statements? rest).map (fieldStatement f :: ·) := by
  have hline := statement?_field hm h rest
  obtain ⟨c, t, hct, hc⟩ := isBareChar_of_key h.key
  have hgap : isGap c = false := by
    cases hg : isGap c with
    | false => rfl
    | true =>
      simp only [isGap, isBlank, Bool.or_eq_true, beq_iff_eq] at hg
      rcases hg with (rfl | rfl) | rfl <;> exact absurd hc (by decide)
  have hskip : skipGaps ((field margin f).toList ++ '\n' :: rest) =
      c :: (t ++ ((if f.tight then "=" else " = ").toList ++
        ((item margin f.item).toList ++ '\n' :: rest))) := by
    rw [field_toList, lineChars, List.append_assoc, skipGaps_margin hm, hct]
    simp only [List.cons_append, List.append_assoc]
    exact skipGaps_of_not_isGap hgap _
  rw [hct, List.cons_append] at hline
  rw [statements?_cons hskip, hline, Option.bind_some]

/-- The text of a section, by its lines. -/
theorem block_toList (margin header : String) (fields : List Field) :
    (block margin header fields).toList =
      '[' :: (header.toList ++ ']' :: fields.flatMap fun f => '\n' :: (field margin f).toList) := by
  have hlines : ∀ (x : String) (ls : List String), ("\n".intercalate (x :: ls)).toList =
      x.toList ++ ls.flatMap fun l => '\n' :: l.toList := by
    intro x ls
    induction ls generalizing x with
    | nil => rw [String.intercalate_singleton, List.flatMap_nil, List.append_nil]
    | cons l ls ih =>
      rw [String.intercalate_cons_cons, String.toList_append, String.toList_append, ih,
        List.flatMap_cons, List.append_assoc]
      rfl
  rw [block, hlines, List.flatMap_map]
  simp only [String.toList_append, List.append_assoc]
  rfl

/-- Fields on their lines are read back in order, by induction on the fields. -/
theorem statements?_fields {margin : String} (hm : IsMargin margin) {fields : List Field}
    (h : ∀ f ∈ fields, f.IsPlain) (rest : List Char) :
    statements? ((fields.flatMap fun f => '\n' :: (field margin f).toList) ++ '\n' :: rest) =
      (statements? rest).map (fields.map fieldStatement ++ ·) := by
  induction fields with
  | nil =>
    rw [List.flatMap_nil, List.nil_append, statements?_newline]
    exact Option.map_id'.symm
  | cons f fs ih =>
    have htail := ih fun g hg => h g (List.mem_cons_of_mem _ hg)
    obtain ⟨s, hs⟩ : ∃ s, (fs.flatMap fun f => '\n' :: (field margin f).toList) ++ '\n' :: rest =
        '\n' :: s := by
      cases fs <;> exact ⟨_, rfl⟩
    rw [hs, statements?_newline] at htail
    rw [List.flatMap_cons, List.append_assoc, hs, List.cons_append, statements?_newline,
      statements?_field hm (h f List.mem_cons_self), htail, Option.map_map]
    rfl

/-- **A section is read as its header and its fields.** -/
theorem reads_block {margin : String} (hm : IsMargin margin) {path : List String} (hne : path ≠ [])
    (hpath : ∀ k ∈ path, isBare k = true) {fields : List Field} (h : ∀ f ∈ fields, f.IsPlain) :
    Reads (block margin (".".intercalate path) fields) (sectionStatements path fields) := by
  intro rest
  have hfields := statements?_fields hm h rest
  obtain ⟨s, hs⟩ : ∃ s, (fields.flatMap fun f => '\n' :: (field margin f).toList) ++ '\n' :: rest =
      '\n' :: s := by
    cases fields <;> exact ⟨_, rfl⟩
  rw [hs, statements?_newline] at hfields
  rw [block_toList, List.cons_append, List.append_assoc, List.cons_append, hs,
    statements?_cons (skipGaps_of_not_isGap (by decide) _), statement?_header hne hpath,
    Option.bind_some]
  simp only
  rw [hfields, Option.map_map]
  rfl

/-- **Texts with blank lines between them are read one after the other.** -/
theorem Reads.intercalate {α : Type} {text : α → String} {sts : α → List Statement} {l : List α}
    (hne : l ≠ []) (h : ∀ a ∈ l, Reads (text a) (sts a)) :
    Reads (separator.intercalate (l.map text)) (l.flatMap sts) := by
  induction l with
  | nil => contradiction
  | cons a l ih =>
    have ha := h a List.mem_cons_self
    intro rest
    cases l with
    | nil =>
      rw [List.map_singleton, String.intercalate_singleton, List.flatMap_singleton]
      exact ha rest
    | cons b l =>
      have htail := ih (List.cons_ne_nil _ _) (fun c hc => h c (List.mem_cons_of_mem _ hc)) rest
      have htext : (separator.intercalate ((a :: b :: l).map text)).toList ++ '\n' :: rest =
          (text a).toList ++ '\n' :: ('\n' ::
            ((separator.intercalate ((b :: l).map text)).toList ++ '\n' :: rest)) := by
        rw [List.map_cons, List.map_cons, String.intercalate_cons_cons]
        simp only [String.toList_append, List.append_assoc]
        rfl
      rw [htext, ha, statements?_newline, htail, Option.map_map, List.flatMap_cons (x := a)]
      congr 1
      funext x
      exact (List.append_assoc _ _ _).symm

end Toml
end LogBalancer
