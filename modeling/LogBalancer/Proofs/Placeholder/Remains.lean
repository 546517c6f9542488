/-
# What expanding leaves

An expanded text has no placeholder, if every variable that the text names has a value that is not
empty and holds neither a dollar sign nor an opening brace (`expand_leaves_none`).  A value then
cannot open a placeholder, and neither can what is next to it.  So a placeholder in the result would
be opened in a literal of the text.  There the opener is followed by the end of the line or of the
text before any closing brace, and so it is in the result, since no value comes between
(`closed?_expandChars`).

Without these conditions the law fails: an empty value joins the characters around it.
-/

import LogBalancer.Proofs.Placeholder.Layout

namespace LogBalancer
namespace Placeholder

/-! ### Texts without placeholders -/

/-- A placeholder starts with a dollar sign and an opening brace that is closed. -/
theorem starts_cons_iff {c : Char} {s : List Char} :
    Starts (c :: s) ↔ c = '$' ∧ ∃ s', s = '\x7b' :: s' ∧ closed? s' ≠ none := by
  constructor
  · rintro ⟨name, rest, hname, h⟩
    obtain ⟨rfl, hs⟩ := List.cons.inj h
    have hclosed : closed? (name ++ '\x7d' :: rest) = some (name, rest) :=
      closed?_eq_some_iff.2 ⟨hname, rfl⟩
    refine ⟨rfl, name ++ '\x7d' :: rest, by rw [hs]; simp, ?_⟩
    rw [hclosed]
    exact Option.some_ne_none _
  · rintro ⟨rfl, s', rfl, hclosed⟩
    obtain ⟨⟨name, rest⟩, h⟩ := Option.ne_none_iff_exists'.1 hclosed
    obtain ⟨hname, rfl⟩ := closed?_eq_some_iff.1 h
    exact ⟨name, rest, hname, by simp [mark]⟩

/-- A text at no position of which a placeholder starts has no placeholder. -/
theorem IsClear.not_mark {s before name after : List Char} (h : IsClear s []) (hname : IsName name) :
    s ≠ before ++ mark name ++ after := by
  intro hs
  rw [List.append_assoc] at hs
  refine h before (mark name ++ after) hs (List.cons_ne_nil _ _) ?_
  exact ⟨name, after, hname, List.append_nil _⟩

/-- A text without placeholders is its own expansion. -/
theorem IsClear.expandChars {s : List Char} (h : IsClear s []) (environment : Environment) :
    expandChars environment s = s := by
  have := expandChars_literal environment h
  rwa [List.append_nil, expandChars_nil, List.append_nil] at this

/-- What no dollar sign is in can be put before a text without placeholders. -/
theorem IsClear.append {v s : List Char} (hv : '$' ∉ v) (h : IsClear s []) : IsClear (v ++ s) [] := by
  induction v with
  | nil => exact h
  | cons c v ih =>
    rw [List.mem_cons, not_or] at hv
    refine isClear_cons.2 ⟨fun hstart => ?_, ih hv.2⟩
    exact hv.1 (starts_cons_iff.1 hstart).1.symm

/-- A text without dollar signs has no placeholder. -/
theorem isClear_of_not_mem {s : List Char} (h : '$' ∉ s) : IsClear s [] := by
  have := IsClear.append h (isClear_nil [])
  rwa [List.append_nil] at this

/-! ### Expanded texts -/

/-- A variable with a value that cannot be part of an opener. -/
def IsInert (environment : Environment) (name : String) : Prop :=
  ∃ v, environment.lookup name = some v ∧ v ≠ "" ∧ '$' ∉ v.toList ∧ '\x7b' ∉ v.toList

/-- The value of an inert variable starts with no brace and holds no dollar sign. -/
theorem valueOf_of_isInert {environment : Environment} {name : List Char}
    (h : IsInert environment (String.ofList name)) :
    ∃ c v, valueOf environment name = c :: v ∧ c ≠ '\x7b' ∧ '$' ∉ c :: v := by
  obtain ⟨v, hlookup, hne, hdollar, hbrace⟩ := h
  rw [valueOf, hlookup]
  cases hv : v.toList with
  | nil => exact absurd (String.toList_eq_nil_iff.1 hv) hne
  | cons c cs =>
    rw [hv] at hdollar hbrace
    exact ⟨c, cs, hv, fun hc => hbrace (hc ▸ List.mem_cons_self), hdollar⟩

/-- **What is unclosed stays unclosed**, by induction on the scan: a brace would come from a value,
and so after a placeholder, which has one of its own. -/
theorem closed?_expandChars (environment : Environment) {s : List Char} (h : closed? s = none) :
    closed? (expandChars environment s) = none := by
  induction s using scan_induction with
  | nil => rwa [expandChars_nil]
  | char c rest hstart ih =>
    rw [expandChars_char environment hstart]
    rw [closed?] at h ⊢
    split at h
    · cases h
    · rename_i hclose
      rw [if_neg hclose]
      split at h
      · rename_i hline
        rw [if_pos hline]
      · rename_i hline
        rw [if_neg hline]
        rw [Option.map_eq_none_iff] at h ⊢
        exact ih h
  | mark name rest hname ih =>
    have hclosed : closed? (mark name ++ rest) = some ('$' :: '\x7b' :: name, rest) := by
      refine closed?_eq_some_iff.2 ⟨isName_cons.2 ⟨by decide, isName_cons.2 ⟨by decide, hname⟩⟩, ?_⟩
      simp [mark]
    cases h.symm.trans hclosed

/-- An opener in a literal is one of the text. -/
theorem not_starts_expandChars {environment : Environment} {c : Char} {rest : List Char}
    (h : ¬Starts (c :: rest)) (hinert : ∀ name ∈ names rest, IsInert environment name) :
    ¬Starts (c :: expandChars environment rest) := by
  intro hstart
  obtain ⟨rfl, s, hs, hclosed⟩ := starts_cons_iff.1 hstart
  cases rest using scan_induction with
  | nil =>
    rw [expandChars_nil] at hs
    cases hs
  | char c rest hrest =>
    rw [expandChars_char environment hrest] at hs
    obtain ⟨rfl, rfl⟩ := List.cons.inj hs
    refine hclosed (closed?_expandChars environment ?_)
    exact Classical.byContradiction fun hrest => h (starts_cons_iff.2 ⟨rfl, _, rfl, hrest⟩)
  | mark name rest hname =>
    rw [names_mark hname, List.forall_mem_cons] at hinert
    obtain ⟨c, v, hvalue, hbrace, -⟩ := valueOf_of_isInert hinert.1
    rw [expandChars_mark environment hname, hvalue] at hs
    exact hbrace (List.cons.inj hs).1

/-- **No placeholder starts in an expanded text**, by induction on the scan. -/
theorem isClear_expandChars {environment : Environment} {s : List Char}
    (h : ∀ name ∈ names s, IsInert environment name) : IsClear (expandChars environment s) [] := by
  induction s using scan_induction with
  | nil =>
    rw [expandChars_nil]
    exact isClear_nil []
  | char c rest hstart ih =>
    rw [names_char hstart] at h
    rw [expandChars_char environment hstart]
    refine isClear_cons.2 ⟨?_, ih h⟩
    rw [List.append_nil]
    exact not_starts_expandChars hstart h
  | mark name rest hname ih =>
    rw [names_mark hname, List.forall_mem_cons] at h
    obtain ⟨c, v, hvalue, -, hdollar⟩ := valueOf_of_isInert h.1
    rw [expandChars_mark environment hname, hvalue]
    exact .append hdollar (ih h.2)

/-- **Expanding leaves nothing to expand**, if the variables that the text names are set to texts that
are not empty and hold neither a dollar sign nor an opening brace. -/
theorem expand_leaves_none {environment : Environment} {text : String}
    (h : ∀ name ∈ names text.toList, IsInert environment name) :
    (¬∃ before name after, IsName name ∧
        (expand environment text).toList = before ++ mark name ++ after) ∧
      expand environment (expand environment text) = expand environment text := by
  have hclear := isClear_expandChars h
  constructor
  · rintro ⟨before, name, after, hname, htext⟩
    rw [expand, String.toList_ofList] at htext
    exact hclear.not_mark hname htext
  · rw [expand, expand, String.toList_ofList, hclear.expandChars]

/-- A closing brace in a value does not close an opener. -/
theorem expand_leaves_none_of_brace :
    (∀ name ∈ names "$$\x7bA\x7d$\x7b".toList, IsInert [("A", "\x7d")] name) ∧
      expand [("A", "\x7d")] "$$\x7bA\x7d$\x7b" = "$\x7d$\x7b" ∧
      expand [("A", "\x7d")] "$\x7d$\x7b" = "$\x7d$\x7b" := by
  have htext : "$$\x7bA\x7d$\x7b".toList = ['$'] ++ (mark ['A'] ++ ['$', '\x7b']) := by decide
  have hname : IsName ['A'] := isName_cons.2 ⟨by decide, List.forall_mem_nil _⟩
  have hfirst : IsClear ['$'] (mark ['A'] ++ ['$', '\x7b']) :=
    isClear_cons.2 ⟨start?_eq_none_iff.1 (by decide), isClear_nil _⟩
  have hlast : IsClear ['$', '\x7b'] [] := isClear_cons.2 ⟨start?_eq_none_iff.1 (by decide),
    isClear_cons.2 ⟨start?_eq_none_iff.1 (by decide), isClear_nil _⟩⟩
  have hinert : ∀ name ∈ names "$$\x7bA\x7d$\x7b".toList, IsInert [("A", "\x7d")] name := by
    have hnames : names ['$', '\x7b'] = [] := by simpa using names_literal hlast
    rw [htext, names_literal hfirst, names_mark hname, hnames]
    intro name h
    obtain rfl := List.mem_singleton.1 h
    exact ⟨"\x7d", rfl, by decide, by decide, by decide⟩
  have hexpand : expand [("A", "\x7d")] "$$\x7bA\x7d$\x7b" = "$\x7d$\x7b" := by
    rw [expand, htext, expandChars_literal _ hfirst, expandChars_mark _ hname, hlast.expandChars]
    rfl
  have hagain := (expand_leaves_none hinert).2
  rw [hexpand] at hagain
  exact ⟨hinert, hexpand, hagain⟩

end Placeholder
end LogBalancer
