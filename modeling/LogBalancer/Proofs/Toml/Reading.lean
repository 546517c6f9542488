/-
# Reading TOML documents

A reader of TOML texts, as far as configurations of servers need the format:

| part | form |
| --- | --- |
| table | a header of bare keys with dots between them, in brackets, on a line of its own |
| field | a bare key, an equals sign and a value, which ends its line |
| value | `true`, `false`, a decimal integer, a basic string, or an array of basic strings |

Basic strings have the escapes of the format and hold no control character but the tab.  An
array may be spread over lines and may be empty.  Blank lines and blanks in front of a line
count for nothing.

A text is read in two steps.  `statements?` reads its headers and fields in order; `build` puts
the fields into the tables.  A header opens its table for the fields that follow, and the tables
on the way to it come to be if they are not there.  A header that was there before is refused,
as is one that leads through a value that is no table, and a key that its table already has.

`read` gives the document as a value, an object for each table.
-/

import LogBalancer.Document.Json
import LogBalancer.Proofs.Text.Reading

namespace LogBalancer
namespace Toml

/-! ### From characters to statements -/

/-- Blanks within a line. -/
def isBlank (c : Char) : Bool := c == ' ' || c == '\t'

/-- Blanks and line ends. -/
def isGap (c : Char) : Bool := isBlank c || c == '\n'

/-- A text without the blanks in front. -/
def skipBlanks (s : List Char) : List Char := s.dropWhile isBlank

/-- A text without the blanks and line ends in front. -/
def skipGaps (s : List Char) : List Char := s.dropWhile isGap

/-- The characters of bare keys. -/
def isBareChar (c : Char) : Bool := c.isAlphanum || c == '_' || c == '-'

/-- Whether a string can stand as a key without quotes. -/
def isBare (s : String) : Bool := !s.isEmpty && s.toList.all isBareChar

/-- The bare key in front of a text. -/
def key? (s : List Char) : Option (String × List Char) :=
  match s.takeWhile isBareChar with
  | [] => none
  | k => some (String.ofList k, s.dropWhile isBareChar)

/-- What is left after a key is shorter. -/
theorem key?_length {s rest : List Char} {k : String} (h : key? s = some (k, rest)) :
    rest.length < s.length := by
  unfold key? at h
  split at h
  · simp at h
  · rename_i hne
    obtain ⟨-, rfl⟩ := Prod.mk.inj (Option.some.inj h)
    have hpos := List.length_pos_iff.2 hne
    have hsum := congrArg List.length (s.takeWhile_append_dropWhile (p := isBareChar))
    rw [List.length_append] at hsum
    omega

/-- The letters of escapes that take no digits, and what they stand for. -/
def shortEscapes : List (Char × Char) :=
  [('"', '"'), ('\\', '\\'), ('b', '\x08'), ('t', '\t'), ('n', '\n'), ('f', '\x0c'), ('r', '\r')]

/-- The character of an escape of `width` hexadecimal digits. -/
def unicodeEscape? (width : Nat) (s : List Char) : Option (Char × List Char) :=
  match Text.readHex width 0 s with
  | some (n, rest) => if n.isValidChar then some (Char.ofNat n, rest) else none
  | none => none

/-- The character of an escape, after the backslash. -/
def escape? : List Char → Option (Char × List Char)
  | [] => none
  | c :: s =>
    if c = 'u' then unicodeEscape? 4 s
    else if c = 'U' then unicodeEscape? 8 s
    else (shortEscapes.lookup c).map fun d => (d, s)

/-- What is left after the digits of an escape is no longer. -/
theorem unicodeEscape?_length {width : Nat} {s rest : List Char} {c : Char}
    (h : unicodeEscape? width s = some (c, rest)) : rest.length ≤ s.length := by
  unfold unicodeEscape? at h
  split at h
  · rename_i h₁
    have := Text.readHex_length h₁
    split at h
    · obtain ⟨-, rfl⟩ := Prod.mk.inj (Option.some.inj h)
      exact this
    · simp at h
  · simp at h

/-- What is left after an escape is no longer. -/
theorem escape?_length {s rest : List Char} {c : Char} (h : escape? s = some (c, rest)) :
    rest.length ≤ s.length := by
  cases s with
  | nil => simp [escape?] at h
  | cons d s =>
    rw [escape?] at h
    split at h
    · exact Nat.le_succ_of_le (unicodeEscape?_length h)
    split at h
    · exact Nat.le_succ_of_le (unicodeEscape?_length h)
    · obtain ⟨e, -, he⟩ := Option.map_eq_some_iff.1 h
      obtain ⟨-, rfl⟩ := Prod.mk.inj he
      exact Nat.le_succ _

/-- The control characters. -/
def isControl (c : Char) : Bool := c.toNat < 0x20 || c.toNat == 0x7F

/-- Basic strings. -/
def quotation : Text.Quotation where
  isPlain c := c == '\t' || !isControl c
  escape? := escape?
  escape?_length := escape?_length

/-- A basic string, after its opening quote. -/
def string? (s : List Char) : Option (String × List Char) :=
  (quotation.read s).map fun (t, rest) => (String.ofList t, rest)

/-- What is left after a string is shorter. -/
theorem string?_length {s rest : List Char} {t : String} (h : string? s = some (t, rest)) :
    rest.length < s.length := by
  obtain ⟨⟨u, r⟩, hr, he⟩ := Option.map_eq_some_iff.1 h
  obtain ⟨-, rfl⟩ := Prod.mk.inj he
  exact quotation.read_length hr

/-- What is left after gaps is no longer. -/
theorem skipGaps_length (s : List Char) : (skipGaps s).length ≤ s.length :=
  (List.dropWhile_suffix _).length_le

/-- What is left after blanks is no longer. -/
theorem skipBlanks_length (s : List Char) : (skipBlanks s).length ≤ s.length :=
  (List.dropWhile_suffix _).length_le

/-- The strings of an array, after its opening bracket. -/
def strings? (s : List Char) : Option (List String × List Char) :=
  match hs : skipGaps s with
  | ']' :: rest => some ([], rest)
  | '"' :: s₁ =>
    match ht : string? s₁ with
    | none => none
    | some (t, s₂) =>
      match hr : skipGaps s₂ with
      | ']' :: rest => some ([t], rest)
      | ',' :: s₃ =>
        have : s₃.length < s.length := by
          have h₁ := skipGaps_length s
          have h₂ := string?_length ht
          have h₃ := skipGaps_length s₂
          rw [hs, List.length_cons] at h₁
          rw [hr, List.length_cons] at h₃
          omega
        (strings? s₃).map fun (ts, rest) => (t :: ts, rest)
      | _ => none
  | _ => none
termination_by s.length

/-- The integer in front of a text, with a sign or without. -/
def integer? : List Char → Option (Int × List Char)
  | '+' :: s => (Text.readNatural s).map fun (n, rest) => ((n : Int), rest)
  | s => Text.readInteger s

/-- The value in front of a text. -/
def value? : List Char → Option (Json × List Char)
  | '"' :: s => (string? s).map fun (t, rest) => (.text t, rest)
  | '[' :: s => (strings? s).map fun (ts, rest) => (.array (ts.map .text), rest)
  | 't' :: 'r' :: 'u' :: 'e' :: s => some (.flag true, s)
  | 'f' :: 'a' :: 'l' :: 's' :: 'e' :: s => some (.flag false, s)
  | s => (integer? s).map fun (n, rest) => (.number n, rest)

/-- What follows the end of a line. -/
def lineEnd? (s : List Char) : Option (List Char) :=
  match skipBlanks s with
  | [] => some []
  | '\n' :: rest => some rest
  | _ => none

/-- A part of a text. -/
inductive Statement
  /-- The header of the table at a path. -/
  | table (path : List String)
  | field (key : String) (value : Json)

/-- The keys of a header, up to its closing bracket. -/
def path? (s : List Char) : Option (List String × List Char) :=
  match hk : key? s with
  | none => none
  | some (k, '.' :: rest) =>
    have : rest.length < s.length := by
      have hlt := key?_length hk
      rw [List.length_cons] at hlt
      omega
    (path? rest).map fun (ks, rest) => (k :: ks, rest)
  | some (k, ']' :: rest) => some ([k], rest)
  | some _ => none
termination_by s.length

/-- The statement in front of a text, with its line end. -/
def statement? : List Char → Option (Statement × List Char)
  | '[' :: s =>
    match path? s with
    | none => none
    | some (path, s) => (lineEnd? s).map fun rest => (.table path, rest)
  | s =>
    match key? s with
    | none => none
    | some (key, s) =>
      match skipBlanks s with
      | '=' :: s =>
        match value? (skipBlanks s) with
        | none => none
        | some (value, s) => (lineEnd? s).map fun rest => (.field key value, rest)
      | _ => none

/-! ### Every reader leaves less than it was given -/

/-- What is left after the items of a list is no longer. -/
theorem strings?_length {s rest : List Char} {ts : List String} (h : strings? s = some (ts, rest)) :
    rest.length ≤ s.length := by
  induction hn : s.length using Nat.strongRecOn generalizing s ts with
  | ind n ih =>
    subst hn
    have hgap := skipGaps_length s
    rw [strings?] at h
    split at h
    · rename_i s₀ hs
      obtain ⟨-, rfl⟩ := Prod.mk.inj (Option.some.inj h)
      rw [hs, List.length_cons] at hgap
      omega
    · rename_i s₁ hs
      rw [hs, List.length_cons] at hgap
      split at h
      · simp at h
      rename_i t s₂ ht
      have hstring := string?_length ht
      have hgap₂ := skipGaps_length s₂
      split at h
      · rename_i s₃ hr
        obtain ⟨-, rfl⟩ := Prod.mk.inj (Option.some.inj h)
        rw [hr, List.length_cons] at hgap₂
        omega
      · rename_i s₃ hr
        obtain ⟨⟨us, r⟩, hus, he⟩ := Option.map_eq_some_iff.1 h
        obtain ⟨-, rfl⟩ := Prod.mk.inj he
        rw [hr, List.length_cons] at hgap₂
        have := ih s₃.length (by omega) hus rfl
        omega
      · simp at h
    · simp at h

/-- What is left after an integer is no longer. -/
theorem integer?_length {s rest : List Char} {n : Int} (h : integer? s = some (n, rest)) :
    rest.length ≤ s.length := by
  unfold integer? at h
  split at h
  · obtain ⟨⟨m, r⟩, hm, he⟩ := Option.map_eq_some_iff.1 h
    obtain ⟨-, rfl⟩ := Prod.mk.inj he
    exact Nat.le_succ_of_le (Text.readNatural_length hm)
  · exact Text.readInteger_length h

/-- What is left after a value is no longer. -/
theorem value?_length {s rest : List Char} {v : Json} (h : value? s = some (v, rest)) :
    rest.length ≤ s.length := by
  unfold value? at h
  split at h
  · obtain ⟨⟨t, r⟩, ht, he⟩ := Option.map_eq_some_iff.1 h
    obtain ⟨-, rfl⟩ := Prod.mk.inj he
    exact Nat.le_succ_of_le (Nat.le_of_lt (string?_length ht))
  · obtain ⟨⟨ts, r⟩, ht, he⟩ := Option.map_eq_some_iff.1 h
    obtain ⟨-, rfl⟩ := Prod.mk.inj he
    exact Nat.le_succ_of_le (strings?_length ht)
  · obtain ⟨-, rfl⟩ := Prod.mk.inj (Option.some.inj h)
    simp only [List.length_cons]
    omega
  · obtain ⟨-, rfl⟩ := Prod.mk.inj (Option.some.inj h)
    simp only [List.length_cons]
    omega
  · obtain ⟨⟨n, r⟩, hn, he⟩ := Option.map_eq_some_iff.1 h
    obtain ⟨-, rfl⟩ := Prod.mk.inj he
    exact integer?_length hn

/-- What is left after a line end is no longer. -/
theorem lineEnd?_length {s rest : List Char} (h : lineEnd? s = some rest) :
    rest.length ≤ s.length := by
  have hle := skipBlanks_length s
  unfold lineEnd? at h
  split at h
  · obtain rfl := Option.some.inj h
    exact Nat.zero_le _
  · rename_i r hr
    obtain rfl := Option.some.inj h
    rw [hr, List.length_cons] at hle
    omega
  · simp at h

/-- What is left after the path of a header is shorter. -/
theorem path?_length {s rest : List Char} {path : List String} (h : path? s = some (path, rest)) :
    rest.length < s.length := by
  induction hn : s.length using Nat.strongRecOn generalizing s path with
  | ind n ih =>
    subst hn
    rw [path?] at h
    split at h
    · simp at h
    · rename_i k s₁ hk
      have hlt := key?_length hk
      rw [List.length_cons] at hlt
      obtain ⟨⟨ks, r⟩, hks, he⟩ := Option.map_eq_some_iff.1 h
      obtain ⟨-, rfl⟩ := Prod.mk.inj he
      have := ih s₁.length (by omega) hks rfl
      omega
    · rename_i k s₁ hk
      have hlt := key?_length hk
      rw [List.length_cons] at hlt
      obtain ⟨-, rfl⟩ := Prod.mk.inj (Option.some.inj h)
      omega
    · simp at h

/-- **What is left after a statement is shorter**, so that reading comes to an end. -/
theorem statement?_length {s rest : List Char} {st : Statement}
    (h : statement? s = some (st, rest)) : rest.length < s.length := by
  unfold statement? at h
  split at h
  · split at h
    · simp at h
    rename_i path s₁ hpath
    obtain ⟨r, hr, he⟩ := Option.map_eq_some_iff.1 h
    obtain ⟨-, rfl⟩ := Prod.mk.inj he
    have h₁ := path?_length hpath
    have h₂ := lineEnd?_length hr
    rw [List.length_cons]
    omega
  · split at h
    · simp at h
    rename_i key s₁ hkey
    have h₁ := key?_length hkey
    have h₂ := skipBlanks_length s₁
    split at h
    · rename_i s₂ hs₂
      rw [hs₂, List.length_cons] at h₂
      have h₃ := skipBlanks_length s₂
      split at h
      · simp at h
      rename_i v s₃ hv
      have h₄ := value?_length hv
      obtain ⟨r, hr, he⟩ := Option.map_eq_some_iff.1 h
      obtain ⟨-, rfl⟩ := Prod.mk.inj he
      have h₅ := lineEnd?_length hr
      omega
    · simp at h

/-- The statements of a text, in order. -/
def statements? (s : List Char) : Option (List Statement) :=
  match hs : skipGaps s with
  | [] => some []
  | c :: s₁ =>
    match h : statement? (c :: s₁) with
    | none => none
    | some (st, rest) =>
      have : rest.length < s.length := by
        have hgap := skipGaps_length s
        rw [hs] at hgap
        exact Nat.lt_of_lt_of_le (statement?_length h) hgap
      (statements? rest).map fun sts => st :: sts
termination_by s.length

/-! ### From statements to tables -/

/-- The members of an object, in order. -/
abbrev Members := List (String × Json)

/-- Changes the table at a path below some members.  Tables on the way that are not there are put
at the end. -/
def within : List String → (Members → Option Members) → Members → Option Members
  | [], change, ms => change ms
  | k :: path, change, ms =>
    match ms.lookup k with
    | none => (within path change []).map fun inner => setMember k (.object inner) ms
    | some (.object inner) =>
      (within path change inner).map fun inner => setMember k (.object inner) ms
    | some _ => none

/-- Adds a member with a key of its own. -/
def addMember (key : String) (value : Json) (ms : Members) : Option Members :=
  if (ms.lookup key).isSome then none else some (ms ++ [(key, value)])

/-- What has been read of a document: its tables, the headers so far, and the path of the table to
which fields belong. -/
structure Building where
  root : Members := []
  headers : List (List String) := []
  current : List String := []

/-- Takes in a statement. -/
def Building.add (b : Building) : Statement → Option Building
  | .table path =>
    if path ∈ b.headers then none
    else (within path some b.root).map fun root => ⟨root, path :: b.headers, path⟩
  | .field key value =>
    (within b.current (addMember key value) b.root).map fun root => { b with root := root }

/-- Takes in statements in order. -/
def build (b : Building) : List Statement → Option Building
  | [] => some b
  | st :: sts => (b.add st).bind fun b => build b sts

/-- The members of the document of a text. -/
def read (s : String) : Option Members :=
  (statements? s.toList).bind fun sts => (build {} sts).map Building.root

end Toml
end LogBalancer
