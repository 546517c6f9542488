/-
# Reading JSON documents

A reader of JSON texts.  `Json.read` takes any JSON text whose numbers are integers: white
space between its parts, the short escapes, `\u` escapes, and pairs of them for characters
beyond U+FFFF.  Members of an object are kept as they stand, in their order and with every
repetition, so that nothing of a text is lost.  A text of more than one value, or of none, is
refused.
-/

import LogBalancer.Json
import LogBalancer.Proofs.Text.Reading

namespace LogBalancer
namespace Json

/-- White space between the parts of a text. -/
def isSpace (c : Char) : Bool := c == ' ' || c == '\t' || c == '\n' || c == '\r'

/-- A text without the white space in front. -/
def skip (s : List Char) : List Char := s.dropWhile isSpace

/-- What follows a mark, which may have white space in front. -/
def expect? (mark : Char) (s : List Char) : Option (List Char) :=
  match skip s with
  | [] => none
  | c :: rest => if c = mark then some rest else none

/-- The escapes of one letter and what they stand for. -/
def shortEscapes : List (Char × Char) :=
  [('"', '"'), ('\\', '\\'), ('/', '/'), ('b', '\x08'), ('f', '\x0c'), ('n', '\n'), ('r', '\r'),
   ('t', '\t')]

/-- The character of a `\u` escape, after the letter.  A first surrogate needs the escape of a second
one behind it, and a second one cannot stand alone. -/
def unicodeEscape? (s : List Char) : Option (Char × List Char) :=
  match Text.readHex 4 0 s with
  | none => none
  | some (high, s) =>
    if high < 0xD800 ∨ 0xE000 ≤ high then some (Char.ofNat high, s)
    else
      match s with
      | '\\' :: 'u' :: s =>
        match Text.readHex 4 0 s with
        | none => none
        | some (low, s) =>
          if high < 0xDC00 ∧ 0xDC00 ≤ low ∧ low < 0xE000 then
            some (Char.ofNat (0x10000 + (high - 0xD800) * 0x400 + (low - 0xDC00)), s)
          else none
      | _ => none

/-- The character of an escape, after the backslash. -/
def escape? : List Char → Option (Char × List Char)
  | [] => none
  | c :: s => if c = 'u' then unicodeEscape? s else (shortEscapes.lookup c).map fun d => (d, s)

/-- What follows the digits of an escape is no longer than they and it. -/
theorem unicodeEscape?_length {s rest : List Char} {c : Char}
    (h : unicodeEscape? s = some (c, rest)) : rest.length ≤ s.length := by
  unfold unicodeEscape? at h
  split at h
  · simp at h
  rename_i high s₁ h₁
  have := Text.readHex_length h₁
  split at h
  · obtain ⟨-, rfl⟩ := Prod.mk.inj (Option.some.inj h)
    exact this
  split at h
  · rename_i s₂ _
    split at h
    · simp at h
    rename_i low s₃ h₃
    have := Text.readHex_length h₃
    split at h
    · obtain ⟨-, rfl⟩ := Prod.mk.inj (Option.some.inj h)
      simp only [List.length_cons] at *
      omega
    · simp at h
  · simp at h

/-- What follows an escape is no longer than the escape and it. -/
theorem escape?_length {s rest : List Char} {c : Char} (h : escape? s = some (c, rest)) :
    rest.length ≤ s.length := by
  cases s with
  | nil => simp [escape?] at h
  | cons d s =>
    rw [escape?] at h
    split at h
    · exact Nat.le_succ_of_le (unicodeEscape?_length h)
    · obtain ⟨e, -, he⟩ := Option.map_eq_some_iff.1 h
      obtain ⟨-, rfl⟩ := Prod.mk.inj he
      exact Nat.le_succ _

/-- The strings of the format: no control character stands for itself. -/
def quotation : Text.Quotation where
  isPlain c := 0x20 ≤ c.toNat
  escape? := escape?
  escape?_length := escape?_length

/-- A string, after its opening quote. -/
def string? (s : List Char) : Option (String × List Char) :=
  (quotation.read s).map fun (t, rest) => (String.ofList t, rest)

/-- A value that is a word. -/
def word? : List Char → Option (Json × List Char)
  | 'n' :: 'u' :: 'l' :: 'l' :: s => some (.null, s)
  | 't' :: 'r' :: 'u' :: 'e' :: s => some (.flag true, s)
  | 'f' :: 'a' :: 'l' :: 's' :: 'e' :: s => some (.flag false, s)
  | _ => none

/-- A value that is a word or a number. -/
def atom? (s : List Char) : Option (Json × List Char) :=
  match word? s with
  | some r => some r
  | none => (Text.readInteger s).map fun (n, rest) => (.number n, rest)

mutual

/-- The value in front of a text, with `fuel` parts to read. -/
def value? : Nat → List Char → Option (Json × List Char)
  | 0, _ => none
  | _ + 1, [] => none
  | fuel + 1, c :: s =>
    if c = '"' then (string? s).map fun (t, rest) => (.text t, rest)
    else if c = '[' then
      match expect? ']' s with
      | some rest => some (.array [], rest)
      | none => (items? fuel s).map fun (vs, rest) => (.array vs, rest)
    else if c = '\x7b' then
      match expect? '\x7d' s with
      | some rest => some (.object [], rest)
      | none => (members? fuel s).map fun (ms, rest) => (.object ms, rest)
    else atom? (c :: s)

/-- One or more items, up to the end of their array. -/
def items? : Nat → List Char → Option (List Json × List Char)
  | 0, _ => none
  | fuel + 1, s =>
    match value? fuel (skip s) with
    | none => none
    | some (v, s) =>
      match expect? ']' s with
      | some rest => some ([v], rest)
      | none =>
        match expect? ',' s with
        | some s => (items? fuel s).map fun (vs, rest) => (v :: vs, rest)
        | none => none

/-- One or more members, up to the end of their object. -/
def members? : Nat → List Char → Option (List (String × Json) × List Char)
  | 0, _ => none
  | fuel + 1, s =>
    match (expect? '"' s).bind string? with
    | none => none
    | some (k, s) =>
      match (expect? ':' s).bind fun s => value? fuel (skip s) with
      | none => none
      | some (v, s) =>
        match expect? '\x7d' s with
        | some rest => some ([(k, v)], rest)
        | none =>
          match expect? ',' s with
          | some s => (members? fuel s).map fun (ms, rest) => ((k, v) :: ms, rest)
          | none => none

end

/-- The value of a text.  Every part that is read takes a character, so there are no more parts than
characters. -/
def read (s : String) : Option Json :=
  match value? s.toList.length (skip s.toList) with
  | some (v, rest) => if skip rest = [] then some v else none
  | none => none

end Json
end LogBalancer
