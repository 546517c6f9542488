/-
# Written TOML values are read back

`Toml.render` puts strings and names in as they are.  A plain string, without a quote, a backslash
or a control character, is read as it stands, and so are the values of fields made of plain strings
(`value?_item`), laid out over lines or not.  Names that are bare keys are read as they stand, alone
and in headers (`path?_intercalate`).
-/

import LogBalancer.Document.Toml
import LogBalancer.Proofs.Toml.Reading

namespace LogBalancer

/-! ### What can be put in as it is -/

/-- A string without quotes, backslashes and control characters. -/
def Toml.isPlain (s : String) : Bool :=
  s.toList.all fun c => c != '"' && c != '\\' && !isControl c

/-- An item whose strings are plain. -/
def Item.IsPlain : Item → Prop
  | .flag _ | .number _ => True
  | .text s => Toml.isPlain s
  | .texts items => ∀ s ∈ items, Toml.isPlain s

/-- A field that can be read back: its key is bare and its item plain. -/
structure Field.IsPlain (f : Field) : Prop where
  key : Toml.isBare f.key
  item : f.item.IsPlain

namespace Toml

/-- A text of blanks. -/
def IsMargin (margin : String) : Prop := ∀ c ∈ margin.toList, isBlank c = true

/-! ### Strings and arrays -/

/-- Blanks are gaps. -/
theorem isGap_of_isBlank {c : Char} (h : isBlank c = true) : isGap c = true := by
  rw [isGap, h, Bool.true_or]

/-- Nothing is skipped before a character that is no gap. -/
theorem skipGaps_of_not_isGap {c : Char} (h : isGap c = false) (s : List Char) :
    skipGaps (c :: s) = c :: s :=
  List.dropWhile_cons_of_neg (by simp [h])

/-- A line feed is skipped. -/
theorem skipGaps_newline (s : List Char) : skipGaps ('\n' :: s) = skipGaps s :=
  List.dropWhile_cons_of_pos (by decide)

/-- A margin is skipped. -/
theorem skipGaps_margin {margin : String} (h : IsMargin margin) (s : List Char) :
    skipGaps (margin.toList ++ s) = skipGaps s :=
  List.dropWhile_append_of_pos fun c hc => isGap_of_isBlank (h c hc)

/-- **A plain string is read as it stands.** -/
theorem string?_of_isPlain {t : String} (h : isPlain t = true) (rest : List Char) :
    string? (t.toList ++ '"' :: rest) = some (t, rest) := by
  have hread : ∀ c ∈ t.toList, c ≠ '"' ∧ c ≠ '\\' ∧ quotation.isPlain c = true := by
    intro c hc
    have hplain := List.all_eq_true.1 h c hc
    simp only [Bool.and_eq_true, bne_iff_ne, ne_eq] at hplain
    exact ⟨hplain.1.1, hplain.1.2, by simp [quotation, hplain.2]⟩
  rw [string?, quotation.read_plain_chars hread, Option.map_some]
  simp only [String.ofList_toList]

/-- A list can end after the gaps. -/
theorem strings?_close {s rest : List Char} (h : skipGaps s = ']' :: rest) :
    strings? s = some ([], rest) := by
  rw [strings?]
  split <;> simp_all

/-- A list can end after a string. -/
theorem strings?_last {s s₁ s₂ rest : List Char} {t : String} (h : skipGaps s = '"' :: s₁)
    (ht : string? s₁ = some (t, s₂)) (hr : skipGaps s₂ = ']' :: rest) :
    strings? s = some ([t], rest) := by
  rw [strings?]
  split
  · simp_all
  · rename_i hs
    obtain rfl := (List.cons.inj (h.symm.trans hs)).2
    split
    · simp_all
    · rename_i ht'
      obtain ⟨rfl, rfl⟩ := Prod.mk.inj (Option.some.inj (ht.symm.trans ht'))
      split <;> simp_all
  · simp_all

/-- A list goes on after a comma. -/
theorem strings?_more {s s₁ s₂ s₃ : List Char} {t : String} (h : skipGaps s = '"' :: s₁)
    (ht : string? s₁ = some (t, s₂)) (hr : skipGaps s₂ = ',' :: s₃) :
    strings? s = (strings? s₃).map fun (ts, rest) => (t :: ts, rest) := by
  rw [strings?]
  split
  · simp_all
  · rename_i hs
    obtain rfl := (List.cons.inj (h.symm.trans hs)).2
    split
    · simp_all
    · rename_i ht'
      obtain ⟨rfl, rfl⟩ := Prod.mk.inj (Option.some.inj (ht.symm.trans ht'))
      split
      · simp_all
      · rename_i hr'
        obtain rfl := (List.cons.inj (hr.symm.trans hr')).2
        rfl
      · simp_all
  · simp_all

/-- The lines of an array's strings. -/
def stringLines (margin : String) (items : List String) : String :=
  ",\n".intercalate (items.map fun s => margin ++ margin ++ quote s)

/-- **The strings of an array are read as they stand**, also if there are none. -/
theorem strings?_stringLines {margin : String} (hm : IsMargin margin) {items : List String}
    (h : ∀ s ∈ items, isPlain s = true) (rest : List Char) :
    strings? ('\n' :: ((stringLines margin items).toList ++
      '\n' :: (margin.toList ++ ']' :: rest))) = some (items, rest) := by
  have hclose : skipGaps ('\n' :: (margin.toList ++ ']' :: rest)) = ']' :: rest := by
    rw [skipGaps_newline, skipGaps_margin hm, skipGaps_of_not_isGap (by decide)]
  induction items with
  | nil => exact strings?_close (by rw [skipGaps_newline]; exact hclose)
  | cons t ts ih =>
    have hopen : ∀ s, skipGaps ('\n' :: ((margin ++ margin ++ quote t).toList ++ s)) =
        '"' :: (t.toList ++ '"' :: s) := by
      intro s
      simp only [quote, String.toList_append, List.append_assoc]
      rw [skipGaps_newline, skipGaps_margin hm, skipGaps_margin hm]
      exact skipGaps_of_not_isGap (by decide) _
    have hstring := string?_of_isPlain (h t List.mem_cons_self)
    cases ts with
    | nil =>
      have htext : stringLines margin [t] = margin ++ margin ++ quote t := by
        rw [stringLines, List.map_singleton, String.intercalate_singleton]
      rw [htext]
      exact strings?_last (hopen _) (hstring _) hclose
    | cons u us =>
      have htext : (stringLines margin (t :: u :: us)).toList =
          (margin ++ margin ++ quote t).toList ++
            ',' :: '\n' :: (stringLines margin (u :: us)).toList := by
        rw [stringLines, List.map_cons, List.map_cons, String.intercalate_cons_cons,
          String.toList_append, String.toList_append, stringLines, List.map_cons, List.append_assoc]
        rfl
      rw [htext, List.append_assoc, List.cons_append, List.cons_append,
        strings?_more (hopen _) (hstring _) (skipGaps_of_not_isGap (by decide) _),
        ih fun s hs => h s (List.mem_cons_of_mem _ hs)]
      rfl

/-! ### Values and keys -/

/-- A number is read to its end, if no digit follows. -/
theorem value?_natural (n : Nat) {rest : List Char} (hrest : Text.NoDigit rest) :
    value? (Decimal.digits n ++ rest) = some (.number n, rest) := by
  obtain ⟨d, ds, hd, -⟩ := Text.exists_digits_eq_cons n
  have hdigit : Decimal.isDigit d = true :=
    Text.isDigit_of_mem_digits (n := n) (by rw [hd]; exact List.mem_cons_self)
  have hne : ∀ c, Decimal.isDigit c = false → d ≠ c := by
    rintro c hc rfl
    rw [hdigit] at hc
    exact Bool.noConfusion hc
  have hint : integer? (Decimal.digits n ++ rest) = some ((n : Int), rest) := by
    have := Text.readInteger_numeralChars n hrest
    rw [hd, List.cons_append, integer?.eq_2 _ fun s h => hne '+' (by decide) (List.cons.inj h).1,
      ← List.cons_append, ← hd]
    exact this
  rw [hd, List.cons_append] at hint ⊢
  have hquote := hne '"' (by decide)
  have hbracket := hne '[' (by decide)
  have ht := hne 't' (by decide)
  have hf := hne 'f' (by decide)
  unfold value?
  split <;> simp_all

/-- A flag that is set is written in lower case. -/
theorem item_true (margin : String) : (item margin (.flag true)).toList = ['t', 'r', 'u', 'e'] := by
  rw [item, if_pos rfl]
  rfl

/-- So is one that is not. -/
theorem item_false (margin : String) :
    (item margin (.flag false)).toList = ['f', 'a', 'l', 's', 'e'] := by
  rw [item, if_neg Bool.false_ne_true]
  rfl

/-- **A written item is read as its value.** -/
theorem value?_item {margin : String} (hm : IsMargin margin) {i : Item} (h : i.IsPlain)
    {rest : List Char} (hrest : Text.NoDigit rest) :
    value? ((item margin i).toList ++ rest) = some (i.json, rest) := by
  cases i with
  | flag b =>
    cases b with
    | true =>
      rw [item_true]
      rfl
    | false =>
      rw [item_false]
      rfl
  | number n =>
    rw [item, Decimal.natural, String.toList_ofList]
    exact value?_natural n hrest
  | text t =>
    have htext : (item margin (.text t)).toList ++ rest = '"' :: (t.toList ++ '"' :: rest) := by
      simp only [item, quote, String.toList_append, List.append_assoc]
      rfl
    rw [htext, value?, string?_of_isPlain h]
    rfl
  | texts items =>
    have htext : (item margin (.texts items)).toList ++ rest =
        '[' :: ('\n' :: ((stringLines margin items).toList ++
          '\n' :: (margin.toList ++ ']' :: rest))) := by
      simp only [item, stringLines, String.toList_append, List.append_assoc]
      rfl
    rw [htext, value?, strings?_stringLines hm h]
    rfl

/-- **A bare key is read up to the first character that no bare key has.** -/
theorem key?_of_isBare {k : String} (h : isBare k = true) {c : Char} (hc : isBareChar c = false)
    (rest : List Char) : key? (k.toList ++ c :: rest) = some (k, c :: rest) := by
  rw [isBare, Bool.and_eq_true, Bool.not_eq_true'] at h
  have hall := List.all_eq_true.1 h.2
  have hstop : ¬ isBareChar c = true := by simp [hc]
  have htake : (k.toList ++ c :: rest).takeWhile isBareChar = k.toList := by
    rw [List.takeWhile_append_of_pos hall, List.takeWhile_cons_of_neg hstop, List.append_nil]
  have hdrop : (k.toList ++ c :: rest).dropWhile isBareChar = c :: rest := by
    rw [List.dropWhile_append_of_pos hall, List.dropWhile_cons_of_neg hstop]
  have hne : k.toList ≠ [] := by
    intro hnil
    rw [← String.ofList_toList (s := k), hnil] at h
    exact absurd h.1 (by decide)
  unfold key?
  rw [htake, hdrop]
  split
  · contradiction
  · simp only [String.ofList_toList]

/-- A bare key starts with a bare character. -/
theorem isBareChar_of_key {k : String} (h : isBare k = true) :
    ∃ c s, k.toList = c :: s ∧ isBareChar c = true := by
  rw [isBare, Bool.and_eq_true, Bool.not_eq_true'] at h
  cases hk : k.toList with
  | nil =>
    rw [← String.ofList_toList (s := k), hk] at h
    exact absurd h.1 (by decide)
  | cons c s =>
    rw [hk] at h
    exact ⟨c, s, rfl, List.all_eq_true.1 h.2 c List.mem_cons_self⟩

/-- A bracket after a key ends a path. -/
theorem path?_last {s rest : List Char} {k : String} (h : key? s = some (k, ']' :: rest)) :
    path? s = some ([k], rest) := by
  rw [path?]
  split
  · rename_i hk
    exact absurd (h.symm.trans hk) (by simp)
  · rename_i hk
    have := (Prod.mk.inj (Option.some.inj (h.symm.trans hk))).2
    exact absurd (List.cons.inj this).1 (by decide)
  · rename_i hk
    obtain ⟨rfl, hr⟩ := Prod.mk.inj (Option.some.inj (h.symm.trans hk))
    rw [(List.cons.inj hr).2]
  · rename_i hne hk
    exact absurd (Option.some.inj (hk.symm.trans h)) (hne k rest)

/-- A dot after a key goes on with the path. -/
theorem path?_more {s rest : List Char} {k : String} (h : key? s = some (k, '.' :: rest)) :
    path? s = (path? rest).map fun (ks, rest) => (k :: ks, rest) := by
  rw [path?]
  split
  · rename_i hk
    exact absurd (h.symm.trans hk) (by simp)
  · rename_i hk
    obtain ⟨rfl, hr⟩ := Prod.mk.inj (Option.some.inj (h.symm.trans hk))
    rw [(List.cons.inj hr).2]
  · rename_i hk
    have := (Prod.mk.inj (Option.some.inj (h.symm.trans hk))).2
    exact absurd (List.cons.inj this).1 (by decide)
  · rename_i hne _ hk
    exact absurd (Option.some.inj (hk.symm.trans h)) (hne k rest)

/-- **The keys of a header are read back.** -/
theorem path?_intercalate {path : List String} (hne : path ≠ [])
    (h : ∀ k ∈ path, isBare k = true) (rest : List Char) :
    path? ((".".intercalate path).toList ++ ']' :: rest) = some (path, rest) := by
  induction path with
  | nil => contradiction
  | cons k ks ih =>
    have hk := h k List.mem_cons_self
    cases ks with
    | nil =>
      rw [String.intercalate_singleton]
      exact path?_last (key?_of_isBare hk (by decide) rest)
    | cons l ls =>
      have htext : (".".intercalate (k :: l :: ls)).toList ++ ']' :: rest =
          k.toList ++ '.' :: ((".".intercalate (l :: ls)).toList ++ ']' :: rest) := by
        rw [String.intercalate_cons_cons]
        simp only [String.toList_append, List.append_assoc]
        rfl
      have htail := ih (List.cons_ne_nil _ _) fun m hm => h m (List.mem_cons_of_mem _ hm)
      rw [htext, path?_more (key?_of_isBare hk (by decide) _), htail]
      rfl

end Toml
end LogBalancer
