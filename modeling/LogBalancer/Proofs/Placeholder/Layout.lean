/-
# Layouts of a text with placeholders

A text is literals with placeholders between them.  Such a layout is exact if its placeholders have
names, and if at no position within a literal a placeholder starts.  Every text has one exact layout,
and expanding the text replaces the placeholders of this layout by their values and keeps its
literals (`expand_exact`).

The scan of a text goes on in three ways, which every later proof uses as an induction
(`scan_induction`): the text ends, a character stands for itself, or a placeholder starts.
-/

import LogBalancer.Placeholder
import Mathlib.Logic.ExistsUnique

namespace LogBalancer
namespace Placeholder

/-! ### Where placeholders start -/

/-- The placeholder of a name. -/
def mark (name : List Char) : List Char := '$' :: '\x7b' :: (name ++ ['\x7d'])

/-- A text that is a name. -/
def IsName (name : List Char) : Prop := ∀ c ∈ name, isNameChar c = true

/-- A text that starts with a placeholder. -/
def Starts (s : List Char) : Prop := ∃ name rest, IsName name ∧ s = mark name ++ rest

/-- A text is a name if its first character can stand in one and what follows it is one. -/
theorem isName_cons {c : Char} {name : List Char} :
    IsName (c :: name) ↔ isNameChar c = true ∧ IsName name := List.forall_mem_cons

/-- A mark is closed by the first brace, with a name before it. -/
theorem closed?_eq_some_iff {s name rest : List Char} :
    closed? s = some (name, rest) ↔ IsName name ∧ s = name ++ '\x7d' :: rest := by
  induction s generalizing name with
  | nil =>
    constructor
    · intro h
      cases h
    · rintro ⟨-, h⟩
      cases name <;> cases h
  | cons c s ih =>
    have hname : isNameChar c = true ↔ c ≠ '\x7d' ∧ c ≠ '\n' := by simp [isNameChar]
    rw [closed?]
    split
    · -- the brace ends the name, so the name is empty
      rename_i hclose
      subst hclose
      constructor
      · intro h
        obtain ⟨rfl, rfl⟩ := Prod.mk.inj (Option.some.inj h)
        exact ⟨List.forall_mem_nil _, rfl⟩
      · rintro ⟨hn, h⟩
        cases name with
        | nil => rw [(List.cons.inj h).2]
        | cons c' name =>
          rw [← (List.cons.inj h).1] at hn
          exact absurd (isName_cons.1 hn).1 (by decide)
    · rename_i hclose
      split
      · rename_i hline
        subst hline
        constructor
        · intro h
          cases h
        · rintro ⟨hn, h⟩
          cases name with
          | nil => exact absurd (List.cons.inj h).1 hclose
          | cons c' name =>
            rw [← (List.cons.inj h).1] at hn
            exact absurd (isName_cons.1 hn).1 (by decide)
      · rename_i hline
        rw [Option.map_eq_some_iff]
        constructor
        · rintro ⟨⟨name', rest'⟩, hclosed, heq⟩
          obtain ⟨rfl, rfl⟩ := Prod.mk.inj heq
          obtain ⟨hn, rfl⟩ := ih.1 hclosed
          exact ⟨isName_cons.2 ⟨hname.2 ⟨hclose, hline⟩, hn⟩, rfl⟩
        · rintro ⟨hn, h⟩
          cases name with
          | nil => exact absurd (List.cons.inj h).1 hclose
          | cons c' name =>
            obtain ⟨rfl, hs⟩ := List.cons.inj h
            exact ⟨(name, rest), ih.2 ⟨(isName_cons.1 hn).2, hs⟩, rfl⟩

/-- **A text starts with the mark that is read at its start**, and no other. -/
theorem start?_eq_some_iff {s name rest : List Char} :
    start? s = some (name, rest) ↔ IsName name ∧ s = mark name ++ rest := by
  unfold start?
  split
  · rw [closed?_eq_some_iff, mark]
    simp
  · rename_i hnot
    constructor
    · intro h
      cases h
    · rintro ⟨-, rfl⟩
      exact absurd rfl (hnot _)

/-- No mark is read where no placeholder starts. -/
theorem start?_eq_none_iff {s : List Char} : start? s = none ↔ ¬Starts s := by
  rw [Option.eq_none_iff_forall_ne_some]
  constructor
  · rintro h ⟨name, rest, hs⟩
    exact h (name, rest) (start?_eq_some_iff.2 hs)
  · rintro h ⟨name, rest⟩ hstart
    exact h ⟨name, rest, start?_eq_some_iff.1 hstart⟩

/-! ### The scan -/

/-- An empty text has no pieces. -/
@[simp] theorem pieces_nil : pieces [] = [] := by
  rw [pieces]
  rfl

/-- Where no placeholder starts, a character is a piece. -/
theorem pieces_char {c : Char} {rest : List Char} (h : ¬Starts (c :: rest)) :
    pieces (c :: rest) = .char c :: pieces rest := by
  rw [pieces]
  split
  · rename_i hstart
    exact absurd (start?_eq_none_iff.2 h) (by rw [hstart]; exact Option.some_ne_none _)
  · rfl

/-- A placeholder is one piece, whatever follows it. -/
theorem pieces_mark {name : List Char} (h : IsName name) (rest : List Char) :
    pieces (mark name ++ rest) = .variable_ name :: pieces rest := by
  have hsome : start? (mark name ++ rest) = some (name, rest) := start?_eq_some_iff.2 ⟨h, rfl⟩
  rw [pieces]
  split
  · rename_i hstart
    obtain ⟨rfl, rfl⟩ := Prod.mk.inj (Option.some.inj (hsome.symm.trans hstart))
    rfl
  · rename_i hstart
    cases hsome.symm.trans hstart

/-- Nothing expands to nothing. -/
@[simp] theorem expandChars_nil (environment : Environment) : expandChars environment [] = [] := by
  rw [expandChars, pieces_nil, List.flatMap_nil]

/-- A character at which no placeholder starts is kept. -/
theorem expandChars_char (environment : Environment) {c : Char} {rest : List Char}
    (h : ¬Starts (c :: rest)) :
    expandChars environment (c :: rest) = c :: expandChars environment rest := by
  rw [expandChars, pieces_char h]
  rfl

/-- A placeholder is replaced by its value, which is not scanned. -/
theorem expandChars_mark (environment : Environment) {name : List Char} (h : IsName name)
    (rest : List Char) :
    expandChars environment (mark name ++ rest) =
      valueOf environment name ++ expandChars environment rest := by
  rw [expandChars, pieces_mark h]
  rfl

/-- An empty text names no variable. -/
@[simp] theorem names_nil : names [] = [] := by
  rw [names, pieces_nil, List.filterMap_nil]

/-- A character at which no placeholder starts names no variable. -/
theorem names_char {c : Char} {rest : List Char} (h : ¬Starts (c :: rest)) :
    names (c :: rest) = names rest := by
  rw [names, pieces_char h]
  rfl

/-- A placeholder names its variable. -/
theorem names_mark {name : List Char} (h : IsName name) (rest : List Char) :
    names (mark name ++ rest) = String.ofList name :: names rest := by
  rw [names, pieces_mark h]
  rfl

/-- **Induction on the scan of a text**: it ends, a character stands for itself, or a placeholder
starts. -/
@[elab_as_elim]
theorem scan_induction {motive : List Char → Prop} (nil : motive [])
    (char : ∀ c rest, ¬Starts (c :: rest) → motive rest → motive (c :: rest))
    (mark : ∀ name rest, IsName name → motive rest → motive (mark name ++ rest)) (s : List Char) :
    motive s := by
  fun_induction pieces s with
  | case1 s name rest hstart _ ih =>
    obtain ⟨hname, rfl⟩ := start?_eq_some_iff.1 hstart
    exact mark name rest hname ih
  | case2 => exact nil
  | case3 c rest hstart ih => exact char c rest (start?_eq_none_iff.1 hstart) ih

/-! ### Literals -/

/-- At no position of a literal a placeholder starts, where `rest` is the text behind it. -/
def IsClear (literal rest : List Char) : Prop :=
  ∀ x y, literal = x ++ y → y ≠ [] → ¬Starts (y ++ rest)

/-- An empty literal is clear of placeholders. -/
theorem isClear_nil (rest : List Char) : IsClear [] rest := fun _ _ h hy =>
  absurd (List.append_eq_nil_iff.1 h.symm).2 hy

/-- A literal is clear if no placeholder starts at its first character and the others are clear. -/
theorem isClear_cons {c : Char} {literal rest : List Char} :
    IsClear (c :: literal) rest ↔ ¬Starts (c :: (literal ++ rest)) ∧ IsClear literal rest := by
  constructor
  · refine fun h => ⟨h [] (c :: literal) rfl (List.cons_ne_nil _ _), fun x y hxy hy => ?_⟩
    exact h (c :: x) y (by rw [hxy]; rfl) hy
  · rintro ⟨hstart, h⟩ x y hxy hy
    cases x with
    | nil =>
      rw [List.nil_append] at hxy
      rwa [← hxy]
    | cons c' x => exact h x y (List.cons.inj hxy).2 hy

/-- Every character of a clear literal is a piece, by induction on the literal. -/
theorem pieces_literal {literal rest : List Char} (h : IsClear literal rest) :
    pieces (literal ++ rest) = literal.map .char ++ pieces rest := by
  induction literal with
  | nil => rfl
  | cons c literal ih =>
    obtain ⟨hstart, h⟩ := isClear_cons.1 h
    exact (pieces_char hstart).trans (congrArg (.char c :: ·) (ih h))

/-- Characters stand for themselves. -/
theorem flatMap_expand_char (environment : Environment) (cs : List Char) :
    (cs.map .char).flatMap (Piece.expand environment) = cs := by
  rw [List.flatMap_map]
  exact List.flatMap_singleton' cs

/-- **A clear literal is kept**, and expansion goes on after it. -/
theorem expandChars_literal (environment : Environment) {literal rest : List Char}
    (h : IsClear literal rest) :
    expandChars environment (literal ++ rest) = literal ++ expandChars environment rest := by
  rw [expandChars, pieces_literal h, List.flatMap_append, flatMap_expand_char]
  rfl

/-- A clear literal names no variable. -/
theorem names_literal {literal rest : List Char} (h : IsClear literal rest) :
    names (literal ++ rest) = names rest := by
  rw [names, pieces_literal h, List.filterMap_append, List.filterMap_map]
  exact congrArg (· ++ names rest) (List.filterMap_eq_nil_iff.2 fun _ _ => rfl)

/-! ### Layouts -/

/-- Literals, each but the last with the name of the placeholder after it. -/
structure Layout where
  parts : List (List Char × List Char) := []
  last : List Char := []

namespace Layout

/-- The text of a layout. -/
def text (d : Layout) : List Char := d.parts.flatMap (fun p => p.1 ++ mark p.2) ++ d.last

/-- A layout with the values of its placeholders in their places. -/
def expand (environment : Environment) (d : Layout) : List Char :=
  d.parts.flatMap (fun p => p.1 ++ valueOf environment p.2) ++ d.last

/-- The names of the placeholders of a layout. -/
def names (d : Layout) : List (List Char) := d.parts.map Prod.snd

/-- The pieces of a layout. -/
def pieces (d : Layout) : List Piece :=
  d.parts.flatMap (fun p => p.1.map .char ++ [.variable_ p.2]) ++ d.last.map .char

/-- A layout whose placeholders have names, with no other placeholder in its text: none starts
within a literal. -/
structure IsExact (d : Layout) : Prop where
  isName : ∀ p ∈ d.parts, IsName p.2
  isClear : ∀ before p after, d.parts = before ++ p :: after →
    IsClear p.1 (mark p.2 ++ text ⟨after, d.last⟩)
  isClear_last : IsClear d.last []

/-- A layout without placeholders is exact if its literal is clear. -/
theorem isExact_nil {last : List Char} : IsExact ⟨[], last⟩ ↔ IsClear last [] :=
  ⟨IsExact.isClear_last, fun h => ⟨fun _ hp => absurd hp List.not_mem_nil, fun _ p after hp =>
    absurd (List.append_eq_nil_iff.1 hp.symm).2 (List.cons_ne_nil p after), h⟩⟩

/-- A layout is exact if its first placeholder has a name, the literal before that is clear and the
rest is exact. -/
theorem isExact_cons {literal name last : List Char} {parts : List (List Char × List Char)} :
    IsExact ⟨(literal, name) :: parts, last⟩ ↔ IsName name ∧
      IsClear literal (mark name ++ text ⟨parts, last⟩) ∧ IsExact ⟨parts, last⟩ := by
  constructor
  · rintro ⟨hname, hclear, hlast⟩
    refine ⟨hname _ List.mem_cons_self, hclear [] _ parts rfl, ?_⟩
    exact ⟨fun p hp => hname p (List.mem_cons_of_mem _ hp), fun before p after h =>
      hclear ((literal, name) :: before) p after (congrArg _ h), hlast⟩
  · rintro ⟨hname, hclear, hnames, hclears, hlast⟩
    refine ⟨List.forall_mem_cons.2 ⟨hname, hnames⟩, fun before p after h => ?_, hlast⟩
    cases before with
    | nil =>
      obtain ⟨rfl, rfl⟩ := List.cons.inj h
      exact hclear
    | cons q before => exact hclears before p after (List.cons.inj h).2

/-- The text of a layout starts with its first literal and the mark after it. -/
theorem text_cons (literal name last : List Char) (parts : List (List Char × List Char)) :
    text ⟨(literal, name) :: parts, last⟩ = literal ++ (mark name ++ text ⟨parts, last⟩) := by
  rw [text, List.flatMap_cons, List.append_assoc, List.append_assoc]
  rfl

/-- **The scan of a text cuts it as an exact layout does.** -/
theorem pieces_text {d : Layout} (h : d.IsExact) : Placeholder.pieces d.text = d.pieces := by
  obtain ⟨parts, last⟩ := d
  induction parts with
  | nil =>
    have hlast := pieces_literal h.isClear_last
    rw [List.append_nil, pieces_nil, List.append_nil] at hlast
    exact hlast
  | cons p parts ih =>
    obtain ⟨literal, name⟩ := p
    obtain ⟨hname, hclear, hrest⟩ := isExact_cons.1 h
    rw [text_cons, pieces_literal hclear, pieces_mark hname, ih hrest]
    simp [pieces]

/-- The layout of some pieces. -/
def ofPieces : List Piece → Layout
  | [] => {}
  | .char c :: ps =>
    match ofPieces ps with
    | ⟨[], last⟩ => ⟨[], c :: last⟩
    | ⟨(literal, name) :: parts, last⟩ => ⟨(c :: literal, name) :: parts, last⟩
  | .variable_ name :: ps => ⟨([], name) :: (ofPieces ps).parts, (ofPieces ps).last⟩

/-- Characters alone are one literal. -/
theorem ofPieces_chars (cs : List Char) : ofPieces (cs.map .char) = ⟨[], cs⟩ := by
  induction cs with
  | nil => rfl
  | cons c cs ih => rw [List.map_cons, ofPieces, ih]

/-- Characters up to a placeholder are the literal before it. -/
theorem ofPieces_part (literal name : List Char) (ps : List Piece) :
    ofPieces (literal.map .char ++ .variable_ name :: ps) =
      ⟨(literal, name) :: (ofPieces ps).parts, (ofPieces ps).last⟩ := by
  induction literal with
  | nil => rfl
  | cons c literal ih => rw [List.map_cons, List.cons_append, ofPieces, ih]

/-- A layout is found again from its pieces. -/
theorem ofPieces_pieces (d : Layout) : ofPieces d.pieces = d := by
  obtain ⟨parts, last⟩ := d
  induction parts with
  | nil => exact ofPieces_chars last
  | cons p parts ih =>
    obtain ⟨literal, name⟩ := p
    have hpieces : pieces ⟨(literal, name) :: parts, last⟩ =
        literal.map .char ++ .variable_ name :: pieces ⟨parts, last⟩ := by
      simp [pieces]
    rw [hpieces, ofPieces_part, ih]

/-- **Every text has an exact layout**, by induction on its scan. -/
theorem exists_isExact (s : List Char) : ∃ d : Layout, d.text = s ∧ d.IsExact := by
  induction s using scan_induction with
  | nil => exact ⟨{}, rfl, isExact_nil.2 (isClear_nil [])⟩
  | char c rest hstart ih =>
    -- the character goes to the first literal
    obtain ⟨⟨parts, last⟩, rfl, hexact⟩ := ih
    cases parts with
    | nil =>
      refine ⟨⟨[], c :: last⟩, rfl, isExact_nil.2 (isClear_cons.2 ⟨?_, isExact_nil.1 hexact⟩)⟩
      rwa [List.append_nil]
    | cons p parts =>
      obtain ⟨literal, name⟩ := p
      obtain ⟨hname, hclear, hrest⟩ := isExact_cons.1 hexact
      rw [text_cons] at hstart ⊢
      exact ⟨⟨(c :: literal, name) :: parts, last⟩, text_cons .., isExact_cons.2
        ⟨hname, isClear_cons.2 ⟨hstart, hclear⟩, hrest⟩⟩
  | mark name rest hname ih =>
    obtain ⟨⟨parts, last⟩, rfl, hexact⟩ := ih
    exact ⟨⟨([], name) :: parts, last⟩, text_cons ..,
      isExact_cons.2 ⟨hname, isClear_nil _, hexact⟩⟩

/-- **A text has one exact layout.** -/
theorem existsUnique_isExact (s : List Char) : ∃! d : Layout, d.text = s ∧ d.IsExact := by
  obtain ⟨d, rfl, hexact⟩ := exists_isExact s
  refine ⟨d, ⟨rfl, hexact⟩, fun d' ⟨htext, hexact'⟩ => ?_⟩
  rw [← ofPieces_pieces d', ← pieces_text hexact', htext, pieces_text hexact, ofPieces_pieces]

/-- **Expanding the text of an exact layout replaces its placeholders**, and nothing else. -/
theorem expandChars_text (environment : Environment) {d : Layout} (h : d.IsExact) :
    expandChars environment d.text = d.expand environment := by
  have hpart (p : List Char × List Char) :
      (p.1.map Piece.char ++ [Piece.variable_ p.2]).flatMap (Piece.expand environment) =
        p.1 ++ valueOf environment p.2 := by
    rw [List.flatMap_append, flatMap_expand_char, List.flatMap_singleton]
    rfl
  rw [expandChars, pieces_text h, pieces, List.flatMap_append, List.flatMap_assoc,
    flatMap_expand_char, expand, funext hpart]

/-- The variables that the text of an exact layout names are those of its placeholders. -/
theorem names_text {d : Layout} (h : d.IsExact) :
    Placeholder.names d.text = d.names.map String.ofList := by
  obtain ⟨parts, last⟩ := d
  induction parts with
  | nil =>
    have hlast := names_literal h.isClear_last
    rw [List.append_nil, names_nil] at hlast
    exact hlast
  | cons p parts ih =>
    obtain ⟨literal, name⟩ := p
    obtain ⟨hname, hclear, hrest⟩ := isExact_cons.1 h
    rw [text_cons, names_literal hclear, names_mark hname, ih hrest]
    rfl

/-- Only the values of the names matter. -/
theorem expand_congr {environment environment' : Environment} {d : Layout}
    (h : ∀ name ∈ d.names, valueOf environment name = valueOf environment' name) :
    d.expand environment = d.expand environment' := by
  have hparts : d.parts.map (fun p => p.1 ++ valueOf environment p.2) =
      d.parts.map fun p => p.1 ++ valueOf environment' p.2 :=
    List.map_congr_left fun p hp => by rw [h p.2 (List.mem_map_of_mem hp)]
  rw [expand, expand, List.flatMap_def, List.flatMap_def, hparts]

end Layout

/-- **Expanding a text replaces the placeholders of its exact layout**, which is its only one, by
their values and keeps its literals.  So the environment matters only at the names of these
placeholders. -/
theorem expand_exact (text : String) :
    (∃! d : Layout, d.text = text.toList ∧ d.IsExact) ∧
      ∀ d : Layout, d.text = text.toList → d.IsExact →
        (∀ environment, expand environment text = String.ofList (d.expand environment)) ∧
        d.names.map String.ofList = names text.toList ∧
        ∀ environment environment' : Environment,
          (∀ name ∈ names text.toList, environment.lookup name = environment'.lookup name) →
            expand environment text = expand environment' text := by
  refine ⟨Layout.existsUnique_isExact _, fun d htext hexact => ?_⟩
  have hexpand : ∀ environment, expand environment text = String.ofList (d.expand environment) := by
    intro environment
    rw [expand, ← htext, Layout.expandChars_text environment hexact]
  have hnames : names text.toList = d.names.map String.ofList := by
    rw [← htext, Layout.names_text hexact]
  refine ⟨hexpand, hnames.symm, fun environment environment' hsame => ?_⟩
  have hvalues : ∀ name ∈ d.names, valueOf environment name = valueOf environment' name := by
    intro name hname
    rw [valueOf, valueOf, hsame _ (hnames ▸ List.mem_map_of_mem hname)]
  rw [hexpand, hexpand, Layout.expand_congr hvalues]

end Placeholder
end LogBalancer
