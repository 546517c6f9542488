/-
# Lines

A text is taken as its lines (`lines`), and a list of lines is written with a line end after each
(`unlines`); lines that hold no line end themselves are had back (`lines_unlines`).

How line ends follow one another is said of the lines: they are `Spaced` if no two empty lines
follow one another and the last line is not empty.  Then the text has no three line ends in a row
(`Spaced.no_three_lineEnds`) and ends with exactly one (`Spaced.endsInOneLineEnd`).
-/

import Mathlib.Data.List.Infix

namespace LogBalancer
namespace Text

/-- The lines of a text, between its line ends.  Behind a line end at the end there is an empty
line. -/
def lines (s : String) : List String := (s.toList.splitOn '\n').map String.ofList

/-- Lines, each with a line end behind it. -/
def unlines (ls : List String) : String := String.join (ls.map (· ++ "\n"))

/-- A text ends with a line end, and with no more than one. -/
def EndsInOneLineEnd (s : String) : Prop :=
  ∃ body, s = body ++ "\n" ∧ body.toList.getLast? ≠ some '\n'

/-- A string of one line: it holds no line end. -/
def IsLine (s : String) : Prop := '\n' ∉ s.toList

instance (s : String) : Decidable (IsLine s) := inferInstanceAs (Decidable ('\n' ∉ s.toList))

/-- Two parts of a line are one. -/
theorem IsLine.append {s t : String} (hs : IsLine s) (ht : IsLine t) : IsLine (s ++ t) := by
  rw [IsLine, String.toList_append, List.mem_append, not_or]
  exact ⟨hs, ht⟩

/-! ### Writing lines -/

/-- The first line comes first, with its line end. -/
theorem unlines_cons (l : String) (ls : List String) :
    unlines (l :: ls) = l ++ "\n" ++ unlines ls := by
  rw [unlines, List.map_cons, String.join_cons]
  rfl

/-- The lines of two lists come one after the other. -/
theorem unlines_append (ls ms : List String) : unlines (ls ++ ms) = unlines ls ++ unlines ms := by
  rw [unlines, List.map_append, String.join_append]
  rfl

/-- A single line ends with its line end. -/
theorem unlines_singleton (l : String) : unlines [l] = l ++ "\n" := by
  rw [unlines_cons]
  exact String.append_empty

/-- The lines of several parts are the parts in a row. -/
theorem unlines_flatMap {α : Type} (l : List α) (f : α → List String) :
    unlines (l.flatMap f) = String.join (l.map fun a => unlines (f a)) := by
  induction l with
  | nil => rfl
  | cons a l ih => rw [List.flatMap_cons, unlines_append, ih, List.map_cons, String.join_cons]

/-- Lines with line ends between them, and one more, are lines with a line end behind each. -/
theorem intercalate_append_lineEnd {ls : List String} (hne : ls ≠ []) :
    "\n".intercalate ls ++ "\n" = unlines ls := by
  induction ls with
  | nil => contradiction
  | cons l ls ih =>
    cases ls with
    | nil => rw [String.intercalate_singleton, unlines_singleton]
    | cons m ms =>
      have hrest := ih (List.cons_ne_nil m ms)
      rw [String.intercalate_cons_cons, String.append_assoc, hrest, unlines_cons l]

/-- The characters of some lines are those of the first one, a line end and those of the others. -/
theorem unlines_cons_toList (l : String) (ls : List String) :
    (unlines (l :: ls)).toList = l.toList ++ '\n' :: (unlines ls).toList := by
  rw [unlines_cons, String.toList_append, String.toList_append, List.append_assoc]
  rfl

/-- **Lines that are written are had back**, and behind the last line end there is nothing. -/
theorem lines_unlines {ls : List String} (h : ∀ l ∈ ls, IsLine l) :
    lines (unlines ls) = ls ++ [""] := by
  induction ls with
  | nil => rfl
  | cons l ls ih =>
    obtain ⟨hl, hls⟩ := List.forall_mem_cons.1 h
    have hrest := ih hls
    rw [lines] at hrest
    rw [lines, unlines_cons_toList, List.splitOn_append_cons_self_of_not_mem hl, List.map_cons,
      String.ofList_toList, hrest, List.cons_append]

/-! ### Empty lines -/

/-- Behind every empty line there is a line that is not empty. -/
def Spaced : List String → Prop
  | [] => True
  | l :: ls => (l = "" → ∃ m ∈ ls.head?, m ≠ "") ∧ Spaced ls

/-- A line that is not empty can stand before anything that is spaced. -/
theorem Spaced.of_ne {l : String} (hl : l ≠ "") {ls : List String} (h : Spaced ls) :
    Spaced (l :: ls) := ⟨fun he => absurd he hl, h⟩

/-- An empty line can stand before one that is not. -/
theorem Spaced.of_empty {l : String} (hl : l ≠ "") {ls : List String} (h : Spaced (l :: ls)) :
    Spaced ("" :: l :: ls) := ⟨fun _ => ⟨l, rfl, hl⟩, h⟩

/-- Spaced lines stay so when others follow, by induction on the first. -/
theorem Spaced.append {ls ms : List String} (hls : Spaced ls) (hms : Spaced ms) :
    Spaced (ls ++ ms) := by
  induction ls with
  | nil => exact hms
  | cons l ls ih =>
    refine ⟨fun hl => ?_, ih hls.2⟩
    obtain ⟨m, hm, hne⟩ := hls.1 hl
    have hhead : m ∈ (ls ++ ms).head? := by
      rw [List.head?_append, Option.mem_def.1 hm, Option.some_or]
      exact Option.mem_some_self m
    exact ⟨m, hhead, hne⟩

/-- Spaced parts in a row are spaced. -/
theorem Spaced.flatMap {α : Type} {l : List α} {f : α → List String}
    (h : ∀ a ∈ l, Spaced (f a)) : Spaced (l.flatMap f) := by
  induction l with
  | nil => trivial
  | cons a l ih =>
    obtain ⟨ha, hl⟩ := List.forall_mem_cons.1 h
    exact ha.append (ih hl)

/-- The last line is not empty. -/
theorem Spaced.last_ne {ls : List String} {l : String} (h : Spaced (ls ++ [l])) : l ≠ "" := by
  induction ls with
  | nil =>
    intro hl
    obtain ⟨m, hm, -⟩ := h.1 hl
    cases hm
  | cons k ls ih => exact ih h.2

/-- No line end is at the start of a text whose first line is not empty. -/
theorem not_prefix_unlines {l : String} (hne : l ≠ "") (hl : IsLine l) (ls : List String)
    (cs : List Char) : ¬ '\n' :: cs <+: (unlines (l :: ls)).toList := by
  obtain ⟨c, t, ht⟩ : ∃ c t, l.toList = c :: t :=
    List.exists_cons_of_ne_nil fun h => hne (String.toList_inj.1 h)
  rw [unlines_cons_toList, ht, List.cons_append, List.cons_prefix_cons]
  rintro ⟨rfl, -⟩
  exact hl (ht ▸ List.mem_cons_self)

/-- Two line ends at the start of a text would be two empty lines. -/
theorem Spaced.no_two_lineEnds {ls : List String} (h : Spaced ls) (hlines : ∀ l ∈ ls, IsLine l) :
    ¬['\n', '\n'] <+: (unlines ls).toList := by
  cases ls with
  | nil => exact fun hprefix => absurd (List.prefix_nil.1 hprefix) (List.cons_ne_nil _ _)
  | cons l ls =>
    obtain ⟨hl, hls⟩ := List.forall_mem_cons.1 hlines
    by_cases hempty : l = ""
    · obtain ⟨m, hm, hne⟩ := h.1 hempty
      cases ls with
      | nil => cases hm
      | cons m' ms =>
        obtain rfl := Option.some.inj hm
        have hrest := not_prefix_unlines hne (hls m' List.mem_cons_self) ms []
        rw [hempty, unlines_cons_toList, String.toList_empty, List.nil_append,
          List.cons_prefix_cons]
        exact fun hprefix => hrest hprefix.2
    · exact not_prefix_unlines hempty hl ls _

/-- What starts with a character that a text does not hold starts behind the text. -/
theorem infix_of_infix_append {c : Char} {cs l s : List Char} (hl : c ∉ l)
    (h : c :: cs <:+: l ++ s) : c :: cs <:+: s := by
  induction l with
  | nil => exact h
  | cons d l ih =>
    rw [List.mem_cons, not_or] at hl
    rw [List.cons_append, List.infix_cons_iff, List.cons_prefix_cons] at h
    rcases h with ⟨hcd, -⟩ | hrest
    · exact absurd hcd hl.1
    · exact ih hl.2 hrest

/-- **A spaced text has no three line ends in a row**, by induction on its lines: the first of them
would end a line, and the other two would be empty lines behind it. -/
theorem Spaced.no_three_lineEnds {ls : List String} (h : Spaced ls) (hlines : ∀ l ∈ ls, IsLine l) :
    ¬['\n', '\n', '\n'] <:+: (unlines ls).toList := by
  induction ls with
  | nil => exact fun hinfix => absurd (List.infix_nil.1 hinfix) (List.cons_ne_nil _ _)
  | cons l ls ih =>
    obtain ⟨hl, hls⟩ := List.forall_mem_cons.1 hlines
    intro hinfix
    rw [unlines_cons_toList] at hinfix
    have hbehind := infix_of_infix_append hl hinfix
    rw [List.infix_cons_iff, List.cons_prefix_cons] at hbehind
    rcases hbehind with ⟨-, hprefix⟩ | hrest
    · exact h.2.no_two_lineEnds hls hprefix
    · exact ih h.2 hls hrest

/-- **A spaced text ends with exactly one line end.** -/
theorem Spaced.endsInOneLineEnd {ls : List String} (h : Spaced ls) (hne : ls ≠ [])
    (hlines : ∀ l ∈ ls, IsLine l) : EndsInOneLineEnd (unlines ls) := by
  obtain ⟨before, last, rfl⟩ := (List.eq_nil_or_concat' ls).resolve_left hne
  have hlast : IsLine last := hlines last (List.mem_append_right _ List.mem_cons_self)
  have hchars : last.toList ≠ [] := fun hnil => h.last_ne (String.toList_inj.1 hnil)
  have hc := List.getLast?_eq_some_getLast hchars
  refine ⟨unlines before ++ last, ?_, ?_⟩
  · rw [unlines_append, unlines_singleton, String.append_assoc]
  · rw [String.toList_append, List.getLast?_append, hc, Option.some_or]
    intro hend
    exact hlast (List.mem_of_getLast? (hc.trans hend))

end Text
end LogBalancer
