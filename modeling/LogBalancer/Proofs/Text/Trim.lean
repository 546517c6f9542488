/-
# What trimming leaves

Trimming drops characters of the class at both ends and nothing else (`exists_trim`).  It drops all
of them: what stands between two runs of the class is left as it is, if it has no character of the
class itself (`trim_append`).
-/

import LogBalancer.Text.Blank

namespace LogBalancer
namespace Text

variable {class_ : Char → Bool}

/-- A text is what is left of it, between two runs of characters of the class. -/
theorem exists_trim (class_ : Char → Bool) (s : List Char) :
    ∃ before after, before.all class_ = true ∧ after.all class_ = true ∧
      s = before ++ trim class_ s ++ after := by
  refine ⟨s.takeWhile class_, ((s.dropWhile class_).reverse.takeWhile class_).reverse,
    List.all_takeWhile, ?_, ?_⟩
  · rw [List.all_reverse]
    exact List.all_takeWhile
  · have hend := List.takeWhile_append_dropWhile (p := class_) (l := (s.dropWhile class_).reverse)
    rw [trim, List.append_assoc, ← List.reverse_append, hend, List.reverse_reverse,
      List.takeWhile_append_dropWhile]

/-- Nothing is dropped in front of a text without a character of the class. -/
theorem dropWhile_append_of_neg {s : List Char} (hne : s ≠ []) (h : ∀ c ∈ s, class_ c = false)
    (after : List Char) : (s ++ after).dropWhile class_ = s ++ after := by
  obtain ⟨c, s, rfl⟩ := List.exists_cons_of_ne_nil hne
  exact List.dropWhile_cons_of_neg (by rw [h c List.mem_cons_self]; decide)

/-- A text without a character of the class is left of what stands around it. -/
theorem trim_append {before s after : List Char} (hbefore : before.all class_ = true)
    (hs : ∀ c ∈ s, class_ c = false) (hafter : after.all class_ = true) :
    trim class_ (before ++ s ++ after) = s := by
  by_cases hne : s = []
  · subst hne
    rw [trim_eq_nil_iff, List.append_nil, List.all_append, hbefore, hafter]
    rfl
  · have hafter' : ∀ c ∈ after.reverse, class_ c = true := fun c hc =>
      List.all_eq_true.1 hafter c (List.mem_reverse.1 hc)
    have hrev : s.reverse.dropWhile class_ = s.reverse := by
      have hkeep := dropWhile_append_of_neg (s := s.reverse) (by simpa using hne)
        (fun c hc => hs c (List.mem_reverse.1 hc)) []
      rwa [List.append_nil] at hkeep
    rw [trim, List.append_assoc, List.dropWhile_append_of_pos (List.all_eq_true.1 hbefore),
      dropWhile_append_of_neg hne hs, List.reverse_append, List.dropWhile_append_of_pos hafter', hrev,
      List.reverse_reverse]

/-- Nothing is trimmed off a text without a character of the class. -/
theorem trim_eq_self {s : List Char} (h : ∀ c ∈ s, class_ c = false) : trim class_ s = s := by
  have htrim : trim class_ ([] ++ s ++ []) = s := trim_append rfl h rfl
  rwa [List.nil_append, List.append_nil] at htrim

end Text
end LogBalancer
