/-
# Written JSON documents are read back

What `Json.read` reads of the texts that `Json.render` writes.

The escapes are undone character by character (`read_escapeChar`): characters beyond U+FFFF are
written as two surrogates, and the reader puts them together again.  The layout, empty arrays
and objects included, is undone by an induction on the number of characters (`readers_chars`),
which carries the three readers at once, as each calls the others.  **Writing and reading give
the value back** (`read_render`), for every value.
-/

import LogBalancer.Proofs.Json.Reading
import Mathlib.Data.List.TakeWhile

namespace LogBalancer
namespace Json

/-! ### Strings -/

/-- A character is not a surrogate. -/
theorem toNat_lt_or_lt (c : Char) : c.toNat < 0xD800 ∨ (0xE000 ≤ c.toNat ∧ c.toNat < 0x110000) := by
  have := c.valid
  simp only [UInt32.isValidChar, Nat.isValidChar] at this
  show c.val.toNat < _ ∨ (_ ≤ c.val.toNat ∧ c.val.toNat < _)
  omega

/-- The four digits of a character are read as the character, unless it needs a pair. -/
theorem unicodeEscape?_hexDigits {c : Char} (h : c.toNat < 0x10000) (rest : List Char) :
    unicodeEscape? (Text.hexDigits 4 c.toNat ++ rest) = some (c, rest) := by
  have hc := toNat_lt_or_lt c
  unfold unicodeEscape?
  rw [Text.readHex_hexDigits 4 0 _ h]
  simp only [Nat.mul_zero, Nat.zero_add]
  rw [if_pos (by omega), Char.ofNat_toNat]

/-- A pair of surrogates is read as the character beyond U+FFFF that it stands for. -/
theorem unicodeEscape?_pair (high low : Nat) (h : 0xD800 ≤ high ∧ high < 0xDC00)
    (l : 0xDC00 ≤ low ∧ low < 0xE000) (rest : List Char) :
    unicodeEscape? (Text.hexDigits 4 high ++ (escapeUnit low ++ rest)) =
      some (Char.ofNat (0x10000 + (high - 0xD800) * 0x400 + (low - 0xDC00)), rest) := by
  have hhigh : high < 0x10000 := by omega
  have hlow : low < 0x10000 := by omega
  unfold unicodeEscape?
  rw [Text.readHex_hexDigits 4 0 _ hhigh]
  simp only [Nat.mul_zero, Nat.zero_add, escapeUnit, List.cons_append]
  rw [if_neg (by omega), Text.readHex_hexDigits 4 0 _ hlow]
  simp only [Nat.mul_zero, Nat.zero_add]
  rw [if_pos (by omega)]

/-- An escape by digits stands for one character, and reading goes on after it. -/
theorem read_unicodeEscape {c : Char} {s rest : List Char} (h : unicodeEscape? s = some (c, rest)) :
    quotation.read ('\\' :: 'u' :: s) =
      (quotation.read rest).map fun (t, rest) => (c :: t, rest) := by
  have : escape? ('u' :: s) = some (c, rest) := by rw [escape?, if_pos rfl, h]
  exact quotation.read_escape this

/-- A short escape stands for one character, and reading goes on after it. -/
theorem read_shortEscape {c d : Char} (hu : c ≠ 'u') (h : shortEscapes.lookup c = some d)
    (rest : List Char) :
    quotation.read ('\\' :: c :: rest) =
      (quotation.read rest).map fun (t, rest) => (d :: t, rest) := by
  have : escape? (c :: rest) = some (d, rest) := by rw [escape?, if_neg hu, h, Option.map_some]
  exact quotation.read_escape this

/-- **What is written for a character is read as that character**, whichever of its forms it has. -/
theorem read_escapeChar (c : Char) (rest : List Char) :
    quotation.read (escapeChar c ++ rest) =
      (quotation.read rest).map fun (t, rest) => (c :: t, rest) := by
  unfold escapeChar
  -- the seven characters that have an escape of two characters
  iterate 7
    split
    · rename_i h
      rw [eq_of_beq h]
      exact read_shortEscape (by decide) (by decide) rest
  rename_i hquote hslash _ _ _ _ _
  split
  · rename_i h
    rw [Bool.and_eq_true, decide_eq_true_iff, decide_eq_true_iff] at h
    exact quotation.read_plain (by simpa using hquote) (by simpa using hslash)
      (decide_eq_true h.1) rest
  split
  · rename_i h
    exact read_unicodeEscape (unicodeEscape?_hexDigits h rest)
  · rename_i h
    have hc := toNat_lt_or_lt c
    have hpair := unicodeEscape?_pair (0xD800 + (c.toNat - 0x10000) / 0x400)
      (0xDC00 + (c.toNat - 0x10000) % 0x400) (by omega) (by omega) rest
    have hnat : 0x10000 + (0xD800 + (c.toNat - 0x10000) / 0x400 - 0xD800) * 0x400 +
        (0xDC00 + (c.toNat - 0x10000) % 0x400 - 0xDC00) = c.toNat := by
      omega
    rw [hnat, Char.ofNat_toNat] at hpair
    rw [escapeUnit, List.cons_append, List.cons_append, List.cons_append, List.cons_append,
      List.append_assoc]
    exact read_unicodeEscape hpair

/-- **A written string is read back.** -/
theorem string?_textChars (t : String) (rest : List Char) :
    string? (t.toList.flatMap escapeChar ++ '"' :: rest) = some (t, rest) := by
  unfold string?
  rw [quotation.read_flatMap fun c _ => read_escapeChar c, Option.map_some]
  simp only [String.ofList_toList]

/-! ### Values -/

/-- Nothing is skipped before a character that is no space. -/
theorem skip_of_not_isSpace {c : Char} (h : isSpace c = false) (s : List Char) :
    skip (c :: s) = c :: s :=
  List.dropWhile_cons_of_neg (by simp [h])

/-- A line end and the margin after it are skipped. -/
theorem skip_lineBreak (level : Nat) (s : List Char) : skip (lineBreak level ++ s) = skip s := by
  have hspace : ∀ c ∈ lineBreak level, isSpace c = true := by
    intro c hc
    rcases List.mem_cons.1 hc with rfl | hc
    · rfl
    · rw [List.eq_of_mem_replicate hc]
      rfl
  exact List.dropWhile_append_of_pos hspace

/-- A mark is found after a line end and its margin. -/
theorem expect?_lineBreak (mark : Char) (level : Nat) (s : List Char) :
    expect? mark (lineBreak level ++ s) = expect? mark s := by
  rw [expect?, skip_lineBreak, expect?]

/-- A mark is found where it stands. -/
theorem expect?_self {mark : Char} (h : isSpace mark = false) (s : List Char) :
    expect? mark (mark :: s) = some s := by
  rw [expect?, skip_of_not_isSpace h]
  exact if_pos rfl

/-- A mark is not found where another character stands. -/
theorem expect?_of_ne {mark c : Char} (h : isSpace c = false) (hne : c ≠ mark) (s : List Char) :
    expect? mark (c :: s) = none := by
  rw [expect?, skip_of_not_isSpace h]
  exact if_neg hne

/-- A character with which a value starts. -/
def IsHead (c : Char) : Prop := isSpace c = false ∧ c ≠ ']'

/-- The first character of an integer tells it from every other value. -/
theorem numeralChars_head (n : Int) : ∃ c s, Decimal.numeralChars n = c :: s ∧
    (c = '-' ∨ Decimal.isDigit c = true) := by
  cases n with
  | ofNat n =>
    obtain ⟨d, ds, hd, -⟩ := Text.exists_digits_eq_cons n
    refine ⟨d, ds, hd, .inr (Text.isDigit_of_mem_digits (n := n) ?_)⟩
    rw [hd]
    exact List.mem_cons_self
  | negSucc n => exact ⟨'-', _, rfl, .inl rfl⟩

/-- The first character of a numeral is a minus sign or a digit, and nothing else. -/
theorem ne_of_isDigit {c d : Char} (h : c = '-' ∨ Decimal.isDigit c = true)
    (hd : d ≠ '-' := by decide) (hdigit : Decimal.isDigit d = false := by decide) : c ≠ d := by
  rintro rfl
  rcases h with h | h
  · exact hd h
  · rw [hdigit] at h
    exact Bool.false_ne_true h

/-- The text of a value starts with a character that starts a value. -/
theorem chars_head (level : Nat) (v : Json) : ∃ c s, chars level v = c :: s ∧ IsHead c := by
  cases v with
  | null => exact ⟨'n', _, rfl, by decide, by decide⟩
  | flag b => cases b <;> exact ⟨_, _, rfl, by decide, by decide⟩
  | number n =>
    obtain ⟨c, s, hc, hdigit⟩ := numeralChars_head n
    refine ⟨c, s, hc, ?_, ne_of_isDigit hdigit⟩
    have h₁ : c ≠ ' ' := ne_of_isDigit hdigit
    have h₂ : c ≠ '\t' := ne_of_isDigit hdigit
    have h₃ : c ≠ '\n' := ne_of_isDigit hdigit
    have h₄ : c ≠ '\r' := ne_of_isDigit hdigit
    simp [isSpace, h₁, h₂, h₃, h₄]
  | text t => exact ⟨'"', _, rfl, by decide, by decide⟩
  | array vs => cases vs <;> exact ⟨'[', _, rfl, by decide, by decide⟩
  | object ms => rcases ms with _ | ⟨⟨k, v⟩, ms⟩ <;> exact ⟨'\x7b', _, rfl, by decide, by decide⟩

/-- There is no space before the text of a value. -/
theorem skip_chars (level : Nat) (v : Json) (s : List Char) :
    skip (chars level v ++ s) = chars level v ++ s := by
  obtain ⟨c, t, hc, hspace, -⟩ := chars_head level v
  rw [hc, List.cons_append, skip_of_not_isSpace hspace]

/-- The text of a value does not start with the end of a list. -/
theorem expect?_bracket_chars (level : Nat) (v : Json) (s : List Char) :
    expect? ']' (chars level v ++ s) = none := by
  obtain ⟨c, t, hc, hspace, hne⟩ := chars_head level v
  rw [hc, List.cons_append, expect?_of_ne hspace hne]

/-- A numeral is read to its end, if no digit follows. -/
theorem atom?_numeralChars (n : Int) {rest : List Char} (hrest : Text.NoDigit rest) :
    atom? (Decimal.numeralChars n ++ rest) = some (.number n, rest) := by
  have hword : word? (Decimal.numeralChars n ++ rest) = none := by
    obtain ⟨c, s, hc, hdigit⟩ := numeralChars_head n
    have hn : c ≠ 'n' := ne_of_isDigit hdigit
    have ht : c ≠ 't' := ne_of_isDigit hdigit
    have hf : c ≠ 'f' := ne_of_isDigit hdigit
    rw [hc, List.cons_append]
    unfold word?
    split <;> simp_all
  rw [atom?, hword, Text.readInteger_numeralChars n hrest]
  rfl

/-- The text of one or more items, from the first one to the end of their array. -/
def itemsText (level below : Nat) (v : Json) (vs : List Json) (rest : List Char) : List Char :=
  chars level v ++ (itemChars level vs ++ (lineBreak below ++ ']' :: rest))

/-- The text of one or more members, from the first key to the end of their object. -/
def membersText (level below : Nat) (k : String) (v : Json) (ms : List (String × Json))
    (rest : List Char) : List Char :=
  textChars k ++ (':' :: ' ' :: (chars level v ++
    (memberChars level ms ++ (lineBreak below ++ '\x7d' :: rest))))

/-- A text that starts with another character starts with no digit. -/
theorem noDigit_cons {c : Char} (h : Decimal.isDigit c = false) (s : List Char) :
    Text.NoDigit (c :: s) := by
  intro d hd
  rw [← Option.some.inj hd]
  exact h

/-- No digit follows an item of a list: a comma or a line end does. -/
theorem noDigit_itemChars (level below : Nat) (vs : List Json) (rest : List Char) :
    Text.NoDigit (itemChars level vs ++ (lineBreak below ++ ']' :: rest)) := by
  cases vs <;> exact noDigit_cons (by decide) _

/-- No digit follows a member of an object either. -/
theorem noDigit_memberChars (level below : Nat) (ms : List (String × Json)) (rest : List Char) :
    Text.NoDigit (memberChars level ms ++ (lineBreak below ++ '\x7d' :: rest)) := by
  rcases ms with _ | ⟨⟨k, v⟩, ms⟩ <;> exact noDigit_cons (by decide) _

/-- What the three readers do with `fuel` parts to read: they read all that is written with so many
characters. -/
structure Undoes (fuel : Nat) : Prop where
  value : ∀ v level rest, (chars level v).length ≤ fuel → Text.NoDigit rest →
    value? fuel (chars level v ++ rest) = some (v, rest)
  items : ∀ v vs level below rest, (chars level v ++ itemChars level vs).length < fuel →
    items? fuel (lineBreak level ++ itemsText level below v vs rest) = some (v :: vs, rest)
  members : ∀ k v ms level below rest,
    (textChars k ++ chars level v ++ memberChars level ms).length < fuel →
      members? fuel (lineBreak level ++ membersText level below k v ms rest) =
        some ((k, v) :: ms, rest)

/-- **The items of a list are read back**, if values of their size are. -/
theorem items?_itemsText {fuel : Nat} (ih : Undoes fuel) (v : Json) (vs : List Json)
    (level below : Nat) (rest : List Char)
    (h : (chars level v ++ itemChars level vs).length < fuel + 1) :
    items? (fuel + 1) (lineBreak level ++ itemsText level below v vs rest) =
      some (v :: vs, rest) := by
  rw [List.length_append] at h
  have hv := ih.value v level _ (by omega) (noDigit_itemChars level below vs rest)
  rw [items?, skip_lineBreak, itemsText, skip_chars, hv]
  simp only
  cases vs with
  | nil =>
    rw [itemChars, List.nil_append, expect?_lineBreak, expect?_self (by decide)]
  | cons w ws =>
    have hw := ih.items w ws level below rest (by
      simp only [itemChars, List.length_cons, List.length_append] at h ⊢
      omega)
    have htext : itemChars level (w :: ws) ++ (lineBreak below ++ ']' :: rest) =
        ',' :: (lineBreak level ++ itemsText level below w ws rest) := by
      simp only [itemChars, itemsText, List.cons_append, List.append_assoc]
    rw [htext, expect?_of_ne (by decide) (by decide), expect?_self (by decide)]
    simp only
    rw [hw]
    rfl

/-- **The members of an object are read back**, if values of their size are. -/
theorem members?_membersText {fuel : Nat} (ih : Undoes fuel) (k : String) (v : Json)
    (ms : List (String × Json)) (level below : Nat) (rest : List Char)
    (h : (textChars k ++ chars level v ++ memberChars level ms).length < fuel + 1) :
    members? (fuel + 1) (lineBreak level ++ membersText level below k v ms rest) =
      some ((k, v) :: ms, rest) := by
  simp only [List.length_append] at h
  have hv := ih.value v level _ (by omega) (noDigit_memberChars level below ms rest)
  have hkey : (expect? '"' (lineBreak level ++ membersText level below k v ms rest)).bind string? =
      some (k, ':' :: ' ' :: (chars level v ++
        (memberChars level ms ++ (lineBreak below ++ '\x7d' :: rest)))) := by
    rw [expect?_lineBreak, membersText, textChars, List.cons_append, expect?_self (by decide),
      Option.bind_some, List.append_assoc, List.singleton_append, string?_textChars]
  have hspace : ∀ s, skip (' ' :: s) = skip s := fun s => List.dropWhile_cons_of_pos (by decide)
  rw [members?, hkey]
  simp only
  rw [expect?_self (by decide), Option.bind_some, hspace, skip_chars, hv]
  simp only
  cases ms with
  | nil =>
    rw [memberChars, List.nil_append, expect?_lineBreak, expect?_self (by decide)]
  | cons m ms =>
    obtain ⟨k', w⟩ := m
    have hw := ih.members k' w ms level below rest (by
      simp only [memberChars, List.length_cons, List.length_append] at h ⊢
      omega)
    have htext : memberChars level ((k', w) :: ms) ++ (lineBreak below ++ '\x7d' :: rest) =
        ',' :: (lineBreak level ++ membersText level below k' w ms rest) := by
      simp only [memberChars, membersText, List.cons_append, List.nil_append, List.append_assoc]
    rw [htext, expect?_of_ne (by decide) (by decide), expect?_self (by decide)]
    simp only
    rw [hw]
    rfl

/-- **One level of a value is read back**, if what is below it is. -/
theorem value?_chars {fuel : Nat} (ih : Undoes fuel) (v : Json) (level : Nat) (rest : List Char)
    (h : (chars level v).length ≤ fuel + 1) (hrest : Text.NoDigit rest) :
    value? (fuel + 1) (chars level v ++ rest) = some (v, rest) := by
  cases v with
  | null => rfl
  | flag b => cases b <;> rfl
  | number n =>
    obtain ⟨c, s, hc, hdigit⟩ := numeralChars_head n
    have hquote : c ≠ '"' := ne_of_isDigit hdigit
    have hbracket : c ≠ '[' := ne_of_isDigit hdigit
    have hbrace : c ≠ '\x7b' := ne_of_isDigit hdigit
    have hatom := atom?_numeralChars n hrest
    rw [hc, List.cons_append] at hatom
    rw [chars, hc, List.cons_append, value?, if_neg hquote, if_neg hbracket, if_neg hbrace, hatom]
  | text t =>
    rw [chars, textChars, List.cons_append, List.append_assoc, List.singleton_append, value?,
      if_pos rfl, string?_textChars]
    rfl
  | array vs =>
    cases vs with
    | nil =>
      rw [chars, List.cons_append, value?, if_neg (by decide), if_pos rfl, List.singleton_append,
        expect?_self (by decide)]
    | cons w ws =>
      have hw := ih.items w ws (level + 1) level rest (by
        simp only [chars, List.length_cons, List.length_append] at h ⊢
        omega)
      have htext : chars level (.array (w :: ws)) ++ rest =
          '[' :: (lineBreak (level + 1) ++ itemsText (level + 1) level w ws rest) := by
        simp only [chars, itemsText, List.cons_append, List.nil_append, List.append_assoc]
      rw [htext, value?, if_neg (by decide), if_pos rfl, expect?_lineBreak, itemsText,
        expect?_bracket_chars, ← itemsText]
      simp only
      rw [hw]
      rfl
  | object ms =>
    rcases ms with _ | ⟨⟨k, w⟩, ms⟩
    · rw [chars, List.cons_append, value?, if_neg (by decide), if_neg (by decide), if_pos rfl,
        List.singleton_append, expect?_self (by decide)]
    · have hw := ih.members k w ms (level + 1) level rest (by
        simp only [chars, List.length_cons, List.length_append] at h ⊢
        omega)
      have htext : chars level (.object ((k, w) :: ms)) ++ rest =
          '\x7b' :: (lineBreak (level + 1) ++ membersText (level + 1) level k w ms rest) := by
        simp only [chars, membersText, List.cons_append, List.nil_append, List.append_assoc]
      rw [htext, value?, if_neg (by decide), if_neg (by decide), if_pos rfl, expect?_lineBreak,
        membersText, textChars, List.cons_append, expect?_of_ne (by decide) (by decide),
        ← List.cons_append, ← textChars, ← membersText]
      simp only
      rw [hw]
      rfl

/-- **The readers undo the writers**, by induction on the number of parts to read. -/
theorem readers_chars (fuel : Nat) : Undoes fuel := by
  induction fuel with
  | zero =>
    refine ⟨fun v level rest h _ => ?_, fun _ _ _ _ _ h => absurd h (Nat.not_lt_zero _),
      fun _ _ _ _ _ _ h => absurd h (Nat.not_lt_zero _)⟩
    obtain ⟨c, s, hc, -⟩ := chars_head level v
    rw [hc, List.length_cons] at h
    omega
  | succ fuel ih => exact ⟨value?_chars ih, items?_itemsText ih, members?_membersText ih⟩

/-- A space is no digit. -/
theorem isDigit_of_isSpace {c : Char} (h : isSpace c = true) : Decimal.isDigit c = false := by
  simp only [isSpace, Bool.or_eq_true, beq_iff_eq] at h
  rcases h with ((rfl | rfl) | rfl) | rfl <;> rfl

/-- **Writing and reading give the value back**, with white space behind it or without. -/
theorem read_render (v : Json) {after : String} (h : ∀ c ∈ after.toList, isSpace c = true) :
    read (v.render ++ after) = some v := by
  have hrest : Text.NoDigit after.toList := fun c hc =>
    isDigit_of_isSpace (h c (List.mem_of_mem_head? hc))
  have htext : (v.render ++ after).toList = chars 0 v ++ after.toList := by
    rw [render, String.toList_append, String.toList_ofList]
  have hlength : (chars 0 v).length ≤ (chars 0 v ++ after.toList).length := by
    rw [List.length_append]
    exact Nat.le_add_right _ _
  have hskip : skip after.toList = [] := List.dropWhile_eq_nil_iff.2 h
  rw [read, htext, skip_chars, (readers_chars _).value v 0 _ hlength hrest]
  simp only
  rw [if_pos hskip]

/-- The line of a value is read as the value. -/
theorem read_line (v : Json) : read (v.render ++ "\n") = some v := by
  refine read_render v ?_
  intro c hc
  rw [List.mem_singleton.1 hc]
  rfl

end Json
end LogBalancer
