/-
# The shape of written JSON texts

Whatever strings a value holds, its text is printable ASCII and line ends: a character is written as
itself only if it is printable ASCII, and the letters and digits of an escape are too
(`isPrinted_render`).  The text of an object ends with its brace (`render_object_getLast?`).

A text says nothing twice if no object of its value has a name twice (`NoRepeats`).
-/

import LogBalancer.Document.Json
import LogBalancer.Proofs.Text.Reading

namespace LogBalancer
namespace Json

/-- A printable ASCII character, or a line end. -/
def IsPrint (c : Char) : Prop := c = '\n' ∨ 0x20 ≤ c.toNat ∧ c.toNat < 0x7F

instance (c : Char) : Decidable (IsPrint c) :=
  inferInstanceAs (Decidable (c = '\n' ∨ 0x20 ≤ c.toNat ∧ c.toNat < 0x7F))

/-- All characters are printable ASCII, or line ends. -/
def IsPrinted (s : List Char) : Prop := ∀ c ∈ s, IsPrint c

instance (s : List Char) : Decidable (IsPrinted s) := List.decidableBAll IsPrint s

/-- There is no character in an empty text. -/
@[simp] theorem isPrinted_nil : IsPrinted [] := fun _ h => absurd h List.not_mem_nil

/-- Two texts in a row are printable exactly if both are. -/
@[simp] theorem isPrinted_append {s t : List Char} : IsPrinted (s ++ t) ↔ IsPrinted s ∧ IsPrinted t :=
  List.forall_mem_append

/-- A text is printable exactly if its first character is and what follows it. -/
@[simp] theorem isPrinted_cons {c : Char} {s : List Char} :
    IsPrinted (c :: s) ↔ IsPrint c ∧ IsPrinted s := List.forall_mem_cons

/-! ### Strings -/

/-- An escape by digits is printable. -/
theorem isPrinted_escapeUnit (n : Nat) : IsPrinted (escapeUnit n) := by
  have hdigits : IsPrinted (Text.hexDigits 4 n) := by
    have hdigit : ∀ d : Fin 16, IsPrint (Text.hexDigit d) := by decide
    exact Text.forall_mem_hexDigits hdigit 4 n
  rw [escapeUnit, isPrinted_cons, isPrinted_cons]
  exact ⟨by decide, by decide, hdigits⟩

/-- **Every character is written in printable ASCII**, whichever of its forms it has. -/
theorem isPrinted_escapeChar (c : Char) : IsPrinted (escapeChar c) := by
  unfold escapeChar
  iterate 7
    split
    · decide
  split
  · rename_i h
    rw [Bool.and_eq_true, decide_eq_true_iff, decide_eq_true_iff] at h
    intro d hd
    rw [List.mem_singleton.1 hd]
    exact .inr h
  split
  · exact isPrinted_escapeUnit _
  · exact isPrinted_append.2 ⟨isPrinted_escapeUnit _, isPrinted_escapeUnit _⟩

/-- Every string is written in printable ASCII. -/
theorem isPrinted_textChars (s : String) : IsPrinted (textChars s) := by
  have hchars : IsPrinted (s.toList.flatMap escapeChar) := by
    intro c hc
    obtain ⟨d, -, hmem⟩ := List.mem_flatMap.1 hc
    exact isPrinted_escapeChar d c hmem
  rw [textChars, isPrinted_cons, isPrinted_append]
  exact ⟨by decide, hchars, by decide⟩

/-! ### Values -/

/-- A line end and its margin are printable. -/
theorem isPrinted_lineBreak (level : Nat) : IsPrinted (lineBreak level) := by
  rw [lineBreak, isPrinted_cons]
  refine ⟨by decide, fun c hc => ?_⟩
  rw [List.eq_of_mem_replicate hc]
  decide

/-- A numeral is printable. -/
theorem isPrinted_numeralChars (n : Int) : IsPrinted (Decimal.numeralChars n) := by
  intro c hc
  rcases Text.mem_numeralChars hc with rfl | hdigit
  · decide
  · have hrange := Text.isDigit_iff.1 hdigit
    exact .inr (by omega)

mutual

/-- **The text of a value is printable ASCII and line ends**, by recursion on the value as it is written. -/
theorem isPrinted_chars (level : Nat) : ∀ v, IsPrinted (chars level v)
  | .null => by simp [chars, IsPrint]
  | .flag true => by simp [chars, IsPrint]
  | .flag false => by simp [chars, IsPrint]
  | .number n => isPrinted_numeralChars n
  | .text s => isPrinted_textChars s
  | .array [] => by simp [chars, IsPrint]
  | .array (v :: vs) => by
    have hv := isPrinted_chars (level + 1) v
    have hvs := isPrinted_itemChars (level + 1) vs
    simp [chars, IsPrint, isPrinted_lineBreak, hv, hvs]
  | .object [] => by simp [chars, IsPrint]
  | .object ((k, v) :: ms) => by
    have hv := isPrinted_chars (level + 1) v
    have hms := isPrinted_memberChars (level + 1) ms
    simp [chars, IsPrint, isPrinted_lineBreak, isPrinted_textChars, hv, hms]

/-- The items after the first one are printable. -/
theorem isPrinted_itemChars (level : Nat) : ∀ vs, IsPrinted (itemChars level vs)
  | [] => by simp [itemChars]
  | v :: vs => by
    have hv := isPrinted_chars level v
    have hvs := isPrinted_itemChars level vs
    simp [itemChars, IsPrint, isPrinted_lineBreak, hv, hvs]

/-- The members after the first one are printable. -/
theorem isPrinted_memberChars (level : Nat) : ∀ ms, IsPrinted (memberChars level ms)
  | [] => by simp [memberChars]
  | (k, v) :: ms => by
    have hv := isPrinted_chars level v
    have hms := isPrinted_memberChars level ms
    simp [memberChars, IsPrint, isPrinted_lineBreak, isPrinted_textChars, hv, hms]

end

/-- The whole text is printable, with the line end after it. -/
theorem isPrinted_render (v : Json) : IsPrinted v.render.toList := by
  rw [render, String.toList_ofList]
  exact isPrinted_chars 0 v

/-- **A text is ASCII.** -/
theorem isAscii_render (v : Json) : ∀ c ∈ v.render.toList, c.toNat < 0x80 := by
  intro c hc
  rcases isPrinted_render v c hc with rfl | hrange
  · decide
  · omega

/-- The text of an object ends with its brace. -/
theorem render_object_getLast? (ms : List (String × Json)) :
    (render (.object ms)).toList.getLast? = some '\x7d' := by
  rw [render, String.toList_ofList]
  rcases ms with _ | ⟨⟨k, v⟩, ms⟩
  · rfl
  · rw [chars, ← List.cons_append, List.getLast?_append]
    rfl

/-! ### Names -/

/-- No object in a value has a name twice. -/
inductive NoRepeats : Json → Prop
  | null : NoRepeats .null
  | flag (b : Bool) : NoRepeats (.flag b)
  | number (n : Int) : NoRepeats (.number n)
  | text (s : String) : NoRepeats (.text s)
  | array {items : List Json} (hitems : ∀ v ∈ items, NoRepeats v) : NoRepeats (.array items)
  | object {members : List (String × Json)} (hnames : (members.map Prod.fst).Nodup)
      (hmembers : ∀ m ∈ members, NoRepeats m.2) : NoRepeats (.object members)

end Json

/-- An item holds no object, so it has no name twice. -/
theorem Item.json_noRepeats (i : Item) : i.json.NoRepeats := by
  cases i with
  | flag b => exact .flag b
  | number n => exact .number n
  | text s => exact .text s
  | texts items =>
    refine .array fun v hv => ?_
    obtain ⟨s, -, rfl⟩ := List.mem_map.1 hv
    exact .text s

end LogBalancer
