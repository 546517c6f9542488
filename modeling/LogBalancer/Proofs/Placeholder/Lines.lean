/-
# Expanding line by line

The name of a placeholder has no line feed.  So a placeholder at the start of a text with a line feed
lies before it (`starts_append_line`), and the scan of the text is the scan of what is before the line
feed, the line feed, and the scan of what is behind it (`pieces_append_line`).  Expanding a text
expands each of its lines and keeps every line feed between them (`expand_line_by_line`).
-/

import LogBalancer.Proofs.Placeholder.Layout

namespace LogBalancer
namespace Placeholder

/-- No placeholder goes over a line end. -/
theorem lineFeed_not_mem_mark {name : List Char} (h : IsName name) : '\n' ∉ mark name := by
  intro hmem
  rw [mark, List.mem_cons, List.mem_cons, List.mem_append, List.mem_singleton] at hmem
  rcases hmem with hdollar | hopen | hname | hclose
  · exact absurd hdollar (by decide)
  · exact absurd hopen (by decide)
  · exact absurd (h _ hname) (by decide)
  · exact absurd hclose (by decide)

/-- **A placeholder lies in one line.**  Whether one starts does not depend on later lines. -/
theorem starts_append_line {s b : List Char} : Starts (s ++ '\n' :: b) ↔ Starts s := by
  constructor
  · rintro ⟨name, rest, hname, h⟩
    rcases List.append_eq_append_iff.1 h with ⟨tail, hmark, hrest⟩ | ⟨tail, hs, -⟩
    · -- the placeholder would reach the line feed, so it ends right before it
      cases tail with
      | nil => exact ⟨name, [], hname, by rw [hmark, List.append_nil, List.append_nil]⟩
      | cons c tail =>
        obtain ⟨rfl, -⟩ := List.cons.inj hrest
        refine absurd ?_ (lineFeed_not_mem_mark hname)
        rw [hmark]
        exact List.mem_append_right s List.mem_cons_self
    · exact ⟨name, tail, hname, hs⟩
  · rintro ⟨name, rest, hname, rfl⟩
    exact ⟨name, rest ++ '\n' :: b, hname, List.append_assoc ..⟩

/-- No placeholder starts in an empty text. -/
theorem not_starts_nil : ¬Starts [] := start?_eq_none_iff.1 rfl

/-- **The scan passes no line feed**, by induction on the scan of what is before it. -/
theorem pieces_append_line (s b : List Char) :
    pieces (s ++ '\n' :: b) = pieces s ++ .char '\n' :: pieces b := by
  induction s using scan_induction with
  | nil =>
    have hline : ¬Starts ('\n' :: b) := fun h => not_starts_nil (starts_append_line.1 h)
    rw [List.nil_append, pieces_char hline, pieces_nil, List.nil_append]
  | char c rest hstart ih =>
    have hline : ¬Starts (c :: (rest ++ '\n' :: b)) := fun h => hstart (starts_append_line.1 h)
    rw [List.cons_append, pieces_char hline, pieces_char hstart, ih, List.cons_append]
  | mark name rest hname ih =>
    rw [List.append_assoc, pieces_mark hname, pieces_mark hname, ih, List.cons_append]

/-- The characters of a text with one more line. -/
theorem toList_append_line (a b : String) :
    (a ++ "\n" ++ b).toList = a.toList ++ '\n' :: b.toList := by
  simp

/-- **The lines of a text are expanded one by one.** -/
theorem expand_append_line (environment : Environment) (a b : String) :
    expand environment (a ++ "\n" ++ b) =
      expand environment a ++ "\n" ++ expand environment b := by
  rw [expand, toList_append_line, expandChars, pieces_append_line, List.flatMap_append, List.flatMap_cons,
    String.ofList_append, String.ofList_append, ← String.append_assoc]
  rfl

/-- An empty text expands to itself. -/
theorem expand_empty (environment : Environment) : expand environment "" = "" := by
  rw [expand, String.toList_empty, expandChars_nil, String.ofList_nil]

/-- Lines are expanded one by one, by induction on them. -/
theorem expand_intercalate (environment : Environment) (lines : List String) :
    expand environment ("\n".intercalate lines) =
      "\n".intercalate (lines.map (expand environment)) := by
  induction lines with
  | nil => exact expand_empty environment
  | cons line lines ih =>
    cases lines with
    | nil => simp
    | cons next lines =>
      rw [String.intercalate_cons_cons, expand_append_line, ih, List.map_cons, List.map_cons,
        List.map_cons, String.intercalate_cons_cons]

/-- **Expanding goes line by line.**  A text is scanned up to a line feed as if it ended there, and
from there on anew: no placeholder is on both sides, and an opener without its closing brace is kept.
So the expanded lines of a text stand in the expanded text, whatever the values, with the same line
feeds between them. -/
theorem expand_line_by_line (environment : Environment) :
    (∀ a b : String,
      expand environment (a ++ "\n" ++ b) =
        expand environment a ++ "\n" ++ expand environment b ∧
      pieces (a ++ "\n" ++ b).toList = pieces a.toList ++ .char '\n' :: pieces b.toList) ∧
    ∀ lines : List String,
      expand environment ("\n".intercalate lines) =
        "\n".intercalate (lines.map (expand environment)) := by
  refine ⟨fun a b => ⟨expand_append_line environment a b, ?_⟩, expand_intercalate environment⟩
  rw [toList_append_line, pieces_append_line]

end Placeholder
end LogBalancer
