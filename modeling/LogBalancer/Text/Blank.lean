/-
# White space

Two classes of characters.  `isWhite` is Unicode's `White_Space` property, by which
numbers in a team file are trimmed; `isBlank` adds the four information separators
U+001C to U+001F, and is the class by which a team name counts as empty.

Neither holds of U+200B, the zero width space: a name made of it is a name.
-/

namespace LogBalancer
namespace Text

/-- The code points of the `White_Space` property, as closed ranges in increasing order. -/
def whiteRanges : List (Nat × Nat) :=
  [(0x09, 0x0D), (0x20, 0x20), (0x85, 0x85), (0xA0, 0xA0), (0x1680, 0x1680), (0x2000, 0x200A),
   (0x2028, 0x2029), (0x202F, 0x202F), (0x205F, 0x205F), (0x3000, 0x3000)]

/-- Whether a code point lies in one of the closed ranges. -/
def inRanges (ranges : List (Nat × Nat)) (n : Nat) : Bool :=
  ranges.any fun r => r.1 ≤ n && n ≤ r.2

/-- Membership in Unicode's `White_Space`. -/
def isWhite (c : Char) : Bool := inRanges whiteRanges c.toNat

/-- White space, or one of the four information separators. -/
def isBlank (c : Char) : Bool := isWhite c || (0x1C ≤ c.toNat && c.toNat ≤ 0x1F)

/-- What is left when the characters of a class are dropped at both ends. -/
def trim (class_ : Char → Bool) (s : List Char) : List Char :=
  ((s.dropWhile class_).reverse.dropWhile class_).reverse

/-- A text without a single character outside `isBlank`; the empty text is one. -/
def allBlank (s : String) : Bool := s.toList.all isBlank

/-- A text is blank exactly when trimming leaves nothing of it. -/
theorem trim_eq_nil_iff (class_ : Char → Bool) (s : List Char) :
    trim class_ s = [] ↔ s.all class_ = true := by
  unfold trim
  rw [List.reverse_eq_nil_iff]
  constructor
  · intro h
    have hall : ∀ l : List Char, l.dropWhile class_ = [] → ∀ c ∈ l, class_ c = true := by
      intro l hl
      induction l with
      | nil => simp
      | cons a l ih =>
        intro c hc
        by_cases ha : class_ a = true
        · rw [List.dropWhile_cons_of_pos ha] at hl
          rcases List.mem_cons.1 hc with rfl | hc
          · exact ha
          · exact ih hl c hc
        · rw [List.dropWhile_cons_of_neg ha] at hl
          cases hl
    have hrest := hall _ h
    cases hd : s.dropWhile class_ with
    | nil => exact List.all_eq_true.2 (hall s hd)
    | cons a l =>
      have ha : class_ a = true := hrest a (by simp [hd])
      have := List.head?_dropWhile_not class_ s
      simp [hd, ha] at this
  · intro h
    have hd : s.dropWhile class_ = [] := by
      induction s with
      | nil => rfl
      | cons a l ih =>
        rw [List.all_cons, Bool.and_eq_true] at h
        rw [List.dropWhile_cons_of_pos h.1]
        exact ih h.2
    simp [hd]

end Text
end LogBalancer
