/-
# Reading strings and numbers

What readers of the two text formats have in common.  A reader takes a text and gives what it
has read at its start, with the rest of the text, or nothing if the text does not start so.

| reader | reads | undoes |
| --- | --- | --- |
| `readHex` | so many hexadecimal digits | `hexDigits` (`readHex_hexDigits`) |
| `readNatural` | a decimal number without needless zeros in front | `Decimal.digits` (`readNatural_digits`) |
| `readInteger` | the same, with a minus sign or without | `Decimal.numeralChars` (`readInteger_numeralChars`) |
| `Quotation.read` | a string up to its closing quote | what its format writes (`Quotation.read_flatMap`) |

A format says in a `Quotation` which characters stand for themselves in its strings and which
escapes it has.
-/

import LogBalancer.Decimal.Literal
import LogBalancer.Text.Quoted

namespace LogBalancer
namespace Text

/-! ### Numbers -/

/-- The number of the first `width` characters, hexadecimal digits that follow the digits of `n`. -/
def readHex : Nat → Nat → List Char → Option (Nat × List Char)
  | 0, n, s => some (n, s)
  | _ + 1, _, [] => none
  | width + 1, n, c :: s =>
    match Decimal.baseDigit? 16 c with
    | some d => readHex width (16 * n + d) s
    | none => none

/-- The number of the decimal digits in front.  There must be one, and a zero must stand alone. -/
def readNatural (s : List Char) : Option (Nat × List Char) :=
  match s.takeWhile Decimal.isDigit with
  | [] => none
  | d :: ds =>
    if d = '0' ∧ ds ≠ [] then none
    else some (Decimal.valueOf (d :: ds), s.dropWhile Decimal.isDigit)

/-- The integer in front: a number, or one after a minus sign. -/
def readInteger (s : List Char) : Option (Int × List Char) :=
  match s with
  | '-' :: s => (readNatural s).map fun (n, rest) => (-(n : Int), rest)
  | s => (readNatural s).map fun (n, rest) => ((n : Int), rest)

/-- What is left after hexadecimal digits is no longer. -/
theorem readHex_length {width n m : Nat} {s rest : List Char}
    (h : readHex width n s = some (m, rest)) : rest.length ≤ s.length := by
  induction width generalizing n s with
  | zero =>
    obtain ⟨-, rfl⟩ := Prod.mk.inj (Option.some.inj h)
    exact Nat.le_refl _
  | succ width ih =>
    cases s with
    | nil => simp [readHex] at h
    | cons c s =>
      rw [readHex] at h
      split at h
      · exact Nat.le_trans (ih h) (Nat.le_succ _)
      · simp at h

/-- A hexadecimal digit is read as its value. -/
theorem baseDigit?_hexDigit {d : Nat} (h : d < 16) : Decimal.baseDigit? 16 (hexDigit d) = some d := by
  have hall : ∀ d : Fin 16, Decimal.baseDigit? 16 (hexDigit d) = some d.val := by decide
  exact hall ⟨d, h⟩

/-- After some hexadecimal digits, reading goes on with the number that they have made. -/
theorem readHex_append {width : Nat} (k n m : Nat) {s rest : List Char}
    (h : readHex width n s = some (m, rest)) :
    readHex (width + k) n s = readHex k m rest := by
  induction width generalizing n s with
  | zero =>
    obtain ⟨rfl, rfl⟩ := Prod.mk.inj (Option.some.inj h)
    rw [Nat.zero_add]
  | succ width ih =>
    cases s with
    | nil => simp [readHex] at h
    | cons c s =>
      rw [readHex] at h
      rw [Nat.add_right_comm, readHex]
      cases hd : Decimal.baseDigit? 16 c with
      | none => simp [hd] at h
      | some d =>
        rw [hd] at h
        exact ih _ h

/-- **The digits of a number that has no more are read back.** -/
theorem readHex_hexDigits (width n m : Nat) (h : m < Nat.pow 16 width) (rest : List Char) :
    readHex width n (hexDigits width m ++ rest) = some (Nat.pow 16 width * n + m, rest) := by
  induction width generalizing m rest with
  | zero =>
    obtain rfl : m = 0 := by simpa using h
    simp [readHex, hexDigits]
  | succ width ih =>
    have hdiv : m / 16 < Nat.pow 16 width := by
      rw [Nat.div_lt_iff_lt_mul (by decide)]
      exact h
    rw [hexDigits, List.append_assoc, readHex_append 1 n _ (ih (m / 16) hdiv _), List.singleton_append,
      readHex, baseDigit?_hexDigit (Nat.mod_lt _ (by decide))]
    have : Nat.pow 16 (width + 1) * n = 16 * (Nat.pow 16 width * n) := by
      show Nat.pow 16 width * 16 * n = _
      rw [Nat.mul_comm (Nat.pow 16 width), Nat.mul_assoc]
    simp only [readHex, this]
    congr 2
    omega

/-- Every character of a hexadecimal number is a digit. -/
theorem exists_of_mem_hexDigits {width n : Nat} {c : Char} (h : c ∈ hexDigits width n) :
    ∃ d : Fin 16, c = hexDigit d := by
  induction width generalizing n with
  | zero => exact absurd h List.not_mem_nil
  | succ width ih =>
    rw [hexDigits, List.mem_append, List.mem_singleton] at h
    rcases h with h | rfl
    · exact ih h
    · exact ⟨⟨n % 16, Nat.mod_lt _ (by decide)⟩, rfl⟩

/-- What holds of the sixteen digits holds of those of a number. -/
theorem forall_mem_hexDigits {p : Char → Prop} (h : ∀ d : Fin 16, p (hexDigit d))
    (width n : Nat) : ∀ c ∈ hexDigits width n, p c := by
  intro c hc
  obtain ⟨d, rfl⟩ := exists_of_mem_hexDigits hc
  exact h d

/-- The decimal digits are the characters from U+0030 to U+0039. -/
theorem isDigit_iff {c : Char} : Decimal.isDigit c = true ↔ 48 ≤ c.toNat ∧ c.toNat ≤ 57 := by
  unfold Decimal.isDigit
  rw [Bool.and_eq_true, decide_eq_true_eq, decide_eq_true_eq]
  exact Iff.rfl

/-- Every character of a decimal number is a digit. -/
theorem isDigit_of_mem_digits {n : Nat} {c : Char} (h : c ∈ Decimal.digits n) :
    Decimal.isDigit c = true := by
  have hdigit : ∀ d : Fin 10, Decimal.isDigit (Decimal.digitChar d) = true := by decide
  induction n using Nat.strongRecOn with
  | ind n ih =>
    by_cases hn : n < 10
    · rw [Decimal.digits_of_lt_ten hn, List.mem_singleton] at h
      exact h ▸ hdigit ⟨n, hn⟩
    · rw [Decimal.digits_of_ten_le (by omega), List.mem_append, List.mem_singleton] at h
      rcases h with h | rfl
      · exact ih (n / 10) (by omega) h
      · exact hdigit ⟨n % 10, Nat.mod_lt _ (by decide)⟩

/-- An integer is written with digits and a minus sign. -/
theorem mem_numeralChars {p : Int} {c : Char} (h : c ∈ Decimal.numeralChars p) :
    c = '-' ∨ Decimal.isDigit c = true := by
  cases p with
  | ofNat n => exact .inr (isDigit_of_mem_digits h)
  | negSucc n => exact (List.mem_cons.1 h).imp_right isDigit_of_mem_digits

/-- A number has a first digit, and a zero there stands alone. -/
theorem exists_digits_eq_cons (n : Nat) :
    ∃ d ds, Decimal.digits n = d :: ds ∧ ¬(d = '0' ∧ ds ≠ []) := by
  have hzero : ∀ d : Fin 10, 0 < d.val → Decimal.digitChar d ≠ '0' := by decide
  -- stated for the first digit alone the induction would lose that `n / 10` is not zero
  have hpos : ∀ n, 0 < n → ∃ d ds, Decimal.digits n = d :: ds ∧ d ≠ '0' := by
    intro n
    induction n using Nat.strongRecOn with
    | ind n ih =>
      intro hn
      by_cases h : n < 10
      · exact ⟨_, _, Decimal.digits_of_lt_ten h, hzero ⟨n, h⟩ hn⟩
      · obtain ⟨d, ds, hd, hne⟩ := ih (n / 10) (by omega) (by omega)
        exact ⟨d, _, by rw [Decimal.digits_of_ten_le (by omega), hd, List.cons_append], hne⟩
  rcases Nat.eq_zero_or_pos n with rfl | hn
  · exact ⟨'0', [], Decimal.digits_of_lt_ten (by decide), by simp⟩
  · obtain ⟨d, ds, hd, hne⟩ := hpos n hn
    exact ⟨d, ds, hd, fun h => hne h.1⟩

/-- A text in front of which no digits are. -/
def NoDigit (rest : List Char) : Prop := ∀ c ∈ rest.head?, Decimal.isDigit c = false

/-- What is left after a number is no longer. -/
theorem readNatural_length {s rest : List Char} {n : Nat} (h : readNatural s = some (n, rest)) :
    rest.length ≤ s.length := by
  unfold readNatural at h
  split at h
  · simp at h
  · split at h
    · simp at h
    · obtain ⟨-, rfl⟩ := Prod.mk.inj (Option.some.inj h)
      exact (List.dropWhile_suffix _).length_le

/-- What is left after an integer is no longer. -/
theorem readInteger_length {s rest : List Char} {n : Int} (h : readInteger s = some (n, rest)) :
    rest.length ≤ s.length := by
  unfold readInteger at h
  split at h
  · obtain ⟨⟨m, r⟩, hm, he⟩ := Option.map_eq_some_iff.1 h
    obtain ⟨-, rfl⟩ := Prod.mk.inj he
    exact Nat.le_succ_of_le (readNatural_length hm)
  · obtain ⟨⟨m, r⟩, hm, he⟩ := Option.map_eq_some_iff.1 h
    obtain ⟨-, rfl⟩ := Prod.mk.inj he
    exact readNatural_length hm

/-- **The digits of a number are read back.** -/
theorem readNatural_digits (n : Nat) {rest : List Char} (hrest : NoDigit rest) :
    readNatural (Decimal.digits n ++ rest) = some (n, rest) := by
  have hall : ∀ c ∈ Decimal.digits n, Decimal.isDigit c = true := fun _ => isDigit_of_mem_digits
  have htake : rest.takeWhile Decimal.isDigit = [] ∧ rest.dropWhile Decimal.isDigit = rest := by
    cases rest with
    | nil => exact ⟨rfl, rfl⟩
    | cons c s =>
      have := hrest c rfl
      simp [this]
  obtain ⟨d, ds, hd, hzero⟩ := exists_digits_eq_cons n
  unfold readNatural
  rw [List.takeWhile_append_of_pos hall, List.dropWhile_append_of_pos hall, htake.1, htake.2,
    List.append_nil, hd]
  simp only
  rw [if_neg hzero, ← hd, Decimal.valueOf_digits]

/-- **The numeral of an integer is read back.** -/
theorem readInteger_numeralChars (n : Int) {rest : List Char} (hrest : NoDigit rest) :
    readInteger (Decimal.numeralChars n ++ rest) = some (n, rest) := by
  cases n with
  | ofNat n =>
    have hminus : ∀ s, Decimal.digits n ++ rest ≠ '-' :: s := by
      intro s h
      obtain ⟨d, ds, hd, -⟩ := exists_digits_eq_cons n
      have hmem : '-' ∈ Decimal.digits n := by
        rw [hd, List.cons_append] at h
        rw [hd, (List.cons.inj h).1]
        exact List.mem_cons_self
      exact absurd (isDigit_of_mem_digits hmem) (by decide)
    rw [Decimal.numeralChars, readInteger.eq_2 _ hminus, readNatural_digits n hrest]
    rfl
  | negSucc n =>
    rw [Decimal.numeralChars, List.cons_append, readInteger, readNatural_digits (n + 1) hrest]
    rfl

/-! ### Strings -/

/-- What may stand between double quotes. -/
structure Quotation where
  /-- Whether a character stands for itself. -/
  isPlain : Char → Bool
  /-- The character of an escape and what follows it, after the backslash. -/
  escape? : List Char → Option (Char × List Char)
  escape?_length : ∀ {s c rest}, escape? s = some (c, rest) → rest.length ≤ s.length

namespace Quotation

/-- The characters up to the closing quote, and what follows the quote. -/
def read (q : Quotation) (s : List Char) : Option (List Char × List Char) :=
  match s with
  | [] => none
  | c :: s =>
    if c = '"' then some ([], s)
    else if c = '\\' then
      match h : q.escape? s with
      | none => none
      | some (c, rest) =>
        have := q.escape?_length h
        (q.read rest).map fun (t, rest) => (c :: t, rest)
    else if q.isPlain c then (q.read s).map fun (t, rest) => (c :: t, rest)
    else none
termination_by s.length
decreasing_by
  all_goals
    simp only [List.length_cons]
    omega

/-- A quote ends a string. -/
theorem read_quote (q : Quotation) (s : List Char) : q.read ('"' :: s) = some ([], s) := by
  rw [read, if_pos rfl]

/-- An escape stands for one character of a string, and reading goes on after it. -/
theorem read_escape (q : Quotation) {s rest : List Char} {c : Char}
    (h : q.escape? s = some (c, rest)) :
    q.read ('\\' :: s) = (q.read rest).map fun (t, rest) => (c :: t, rest) := by
  rw [read, if_neg (by decide), if_pos rfl]
  split
  · simp_all
  · rename_i c' rest' h'
    obtain ⟨rfl, rfl⟩ := Prod.mk.inj (Option.some.inj (h.symm.trans h'))
    rfl

/-- A plain character stands for itself, and reading goes on after it. -/
theorem read_plain (q : Quotation) {c : Char} (hquote : c ≠ '"') (hslash : c ≠ '\\')
    (h : q.isPlain c = true) (s : List Char) :
    q.read (c :: s) = (q.read s).map fun (t, rest) => (c :: t, rest) := by
  rw [read, if_neg hquote, if_neg hslash, if_pos h]

/-- What is left after a string is shorter, by its closing quote at least. -/
theorem read_length (q : Quotation) {s t rest : List Char} (h : q.read s = some (t, rest)) :
    rest.length < s.length := by
  induction hn : s.length using Nat.strongRecOn generalizing s t with
  | ind n ih =>
    cases s with
    | nil => simp [read] at h
    | cons c s =>
      subst hn
      rw [read] at h
      split at h
      · obtain ⟨-, rfl⟩ := Prod.mk.inj (Option.some.inj h)
        exact Nat.lt_succ_self _
      split at h
      · split at h
        · simp at h
        · rename_i c' rest' h'
          obtain ⟨⟨t', r⟩, hr, heq⟩ := Option.map_eq_some_iff.1 h
          obtain ⟨-, rfl⟩ := Prod.mk.inj heq
          have hle := q.escape?_length h'
          have hlt := ih rest'.length (Nat.lt_succ_of_le hle) hr rfl
          exact Nat.lt_succ_of_lt (Nat.lt_of_lt_of_le hlt hle)
      split at h
      · obtain ⟨⟨t', r⟩, hr, heq⟩ := Option.map_eq_some_iff.1 h
        obtain ⟨-, rfl⟩ := Prod.mk.inj heq
        exact Nat.lt_succ_of_lt (ih s.length (Nat.lt_succ_self _) hr rfl)
      · simp at h

/-- **What is written character by character is read back**, if every character's text is read as
that character. -/
theorem read_flatMap (q : Quotation) {write : Char → List Char} {s : List Char}
    (h : ∀ c ∈ s, ∀ rest, q.read (write c ++ rest) =
      (q.read rest).map fun (t, rest) => (c :: t, rest)) (rest : List Char) :
    q.read (s.flatMap write ++ '"' :: rest) = some (s, rest) := by
  induction s with
  | nil => exact q.read_quote rest
  | cons c s ih =>
    rw [List.flatMap_cons, List.append_assoc, h c List.mem_cons_self,
      ih fun d hd => h d (List.mem_cons_of_mem _ hd)]
    rfl

/-- **Characters that stand for themselves are read as they stand.** -/
theorem read_plain_chars (q : Quotation) {s : List Char}
    (h : ∀ c ∈ s, c ≠ '"' ∧ c ≠ '\\' ∧ q.isPlain c = true) (rest : List Char) :
    q.read (s ++ '"' :: rest) = some (s, rest) := by
  induction s with
  | nil => exact q.read_quote rest
  | cons c s ih =>
    obtain ⟨hquote, hslash, hplain⟩ := h c List.mem_cons_self
    rw [List.cons_append, q.read_plain hquote hslash hplain,
      ih fun d hd => h d (List.mem_cons_of_mem _ hd)]
    rfl

end Quotation

end Text
end LogBalancer
