/-
# Decoding what was encoded

Every text has an encoding, and decoding it strictly gives the text back (`decode_encode`); nothing
else is decoded (`decodeFrom_eq_ok_iff`).  The proofs follow the four lengths of a character's
encoding: the octets are told apart by their ranges, and their payload bits put the code point
together again.
-/

import LogBalancer.Text.Utf8

namespace LogBalancer
namespace Text

/-! ### Octets -/

/-- A number below 256 is an octet. -/
theorem toNat_ofNat {n : Nat} (h : n < 256) : (UInt8.ofNat n).toNat = n :=
  UInt8.toNat_ofNat_of_lt h

/-- Six bits make a continuation octet. -/
theorem isContinuation_ofNat {n : Nat} (h : n < 64) :
    isContinuation (UInt8.ofNat (0x80 + n)) = true := by
  have hn := toNat_ofNat (n := 0x80 + n) (by omega)
  simp only [isContinuation, hn, Bool.and_eq_true, decide_eq_true_eq]
  omega

/-- A continuation octet carries the six bits it was made of. -/
theorem payload_ofNat {n : Nat} (h : n < 64) : payload (UInt8.ofNat (0x80 + n)) = n := by
  have hn := toNat_ofNat (n := 0x80 + n) (by omega)
  unfold payload
  omega

/-- A first octet of a sequence of several is not below `0x80` and starts some sequence. -/
theorem startByte_of_range {b : UInt8} (hlow : 0xC2 ≤ b.toNat) (hhigh : b.toNat ≤ 0xF4) :
    ¬b < 0x80 ∧ ¬(b < 0xC2 || 0xF4 < b) = true := by
  simp only [Bool.or_eq_true, decide_eq_true_eq, UInt8.lt_iff_toNat_lt]
  show ¬b.toNat < 0x80 ∧ ¬(b.toNat < 0xC2 ∨ 0xF4 < b.toNat)
  omega

/-! ### Sequences by length -/

section Sequences

variable (position : Nat) (rest : List UInt8)

/-- One octet decodes to a character of ASCII. -/
theorem decodeFrom_one {n : Nat} (h : n < 0x80) :
    decodeFrom position (UInt8.ofNat n :: rest) =
      (decodeFrom (position + 1) rest).map (Char.ofNat n :: ·) := by
  have hn := toNat_ofNat (n := n) (by omega)
  have hlow : UInt8.ofNat n < 0x80 := by
    rw [UInt8.lt_iff_toNat_lt, hn]
    exact h
  rw [decodeFrom.eq_def]
  simp only
  rw [if_pos hlow, hn]

/-- Two octets decode to a character of up to eleven bits, if no shorter form exists. -/
theorem decodeFrom_two {m n : Nat} (hlow : 2 ≤ m) (hm : m < 32) (hn : n < 64) :
    decodeFrom position (UInt8.ofNat (0xC0 + m) :: UInt8.ofNat (0x80 + n) :: rest) =
      (decodeFrom (position + 2) rest).map (Char.ofNat (m * 64 + n) :: ·) := by
  have hb := toNat_ofNat (n := 0xC0 + m) (by omega)
  obtain ⟨h₁, h₂⟩ := startByte_of_range (b := UInt8.ofNat (0xC0 + m)) (by omega) (by omega)
  have h₃ : UInt8.ofNat (0xC0 + m) < 0xE0 := by
    rw [UInt8.lt_iff_toNat_lt, hb]
    show 0xC0 + m < 0xE0
    omega
  have hvalue : (UInt8.ofNat (0xC0 + m)).toNat - 0xC0 = m := by omega
  rw [decodeFrom.eq_def]
  simp only
  rw [if_neg h₁, if_neg h₂, if_pos h₃, if_pos (isContinuation_ofNat hn), hvalue, payload_ofNat hn]

/-- Three octets decode to a character of up to sixteen bits, if no shorter form exists and it is no
surrogate. -/
theorem decodeFrom_three {m n k : Nat} (hm : m < 16) (hn : n < 64) (hk : k < 64)
    (hlong : 0x800 ≤ m * 4096 + n * 64 + k)
    (hscalar : m * 4096 + n * 64 + k < 0xD800 ∨ 0xDFFF < m * 4096 + n * 64 + k) :
    decodeFrom position
        (UInt8.ofNat (0xE0 + m) :: UInt8.ofNat (0x80 + n) :: UInt8.ofNat (0x80 + k) :: rest) =
      (decodeFrom (position + 3) rest).map (Char.ofNat (m * 4096 + n * 64 + k) :: ·) := by
  have hb := toNat_ofNat (n := 0xE0 + m) (by omega)
  have hb' := toNat_ofNat (n := 0x80 + n) (by omega)
  obtain ⟨h₁, h₂⟩ := startByte_of_range (b := UInt8.ofNat (0xE0 + m)) (by omega) (by omega)
  have h₃ : ¬UInt8.ofNat (0xE0 + m) < 0xE0 := by
    rw [UInt8.lt_iff_toNat_lt, hb]
    show ¬0xE0 + m < 0xE0
    omega
  have h₄ : UInt8.ofNat (0xE0 + m) < 0xF0 := by
    rw [UInt8.lt_iff_toNat_lt, hb]
    show 0xE0 + m < 0xF0
    omega
  have hfollows : followsThree (UInt8.ofNat (0xE0 + m)) (UInt8.ofNat (0x80 + n)) = true := by
    simp only [followsThree, isContinuation_ofNat hn, hb', Bool.true_and, Bool.and_eq_true,
      Bool.or_eq_true, decide_eq_true_eq, bne_iff_ne, ne_eq, ← UInt8.toNat_inj, hb]
    show (¬0xE0 + m = 0xE0 ∨ 0xA0 ≤ 0x80 + n) ∧ (¬0xE0 + m = 0xED ∨ 0x80 + n < 0xA0)
    omega
  have hvalue : (UInt8.ofNat (0xE0 + m)).toNat - 0xE0 = m := by omega
  rw [decodeFrom.eq_def]
  simp only
  rw [if_neg h₁, if_neg h₂, if_neg h₃, if_pos h₄, if_neg (by rw [hfollows]; decide),
    if_pos (isContinuation_ofNat hk), hvalue, payload_ofNat hn, payload_ofNat hk]

/-- Four octets decode to a character beyond U+FFFF, if it is one. -/
theorem decodeFrom_four {m n k j : Nat} (hm : m < 5) (hn : n < 64) (hk : k < 64) (hj : j < 64)
    (hlong : 0x10000 ≤ m * 262144 + n * 4096 + k * 64 + j)
    (hscalar : m * 262144 + n * 4096 + k * 64 + j < 0x110000) :
    decodeFrom position (UInt8.ofNat (0xF0 + m) :: UInt8.ofNat (0x80 + n) ::
        UInt8.ofNat (0x80 + k) :: UInt8.ofNat (0x80 + j) :: rest) =
      (decodeFrom (position + 4) rest).map
        (Char.ofNat (m * 262144 + n * 4096 + k * 64 + j) :: ·) := by
  have hb := toNat_ofNat (n := 0xF0 + m) (by omega)
  have hb' := toNat_ofNat (n := 0x80 + n) (by omega)
  obtain ⟨h₁, h₂⟩ := startByte_of_range (b := UInt8.ofNat (0xF0 + m)) (by omega) (by omega)
  have h₃ : ¬UInt8.ofNat (0xF0 + m) < 0xE0 ∧ ¬UInt8.ofNat (0xF0 + m) < 0xF0 := by
    rw [UInt8.lt_iff_toNat_lt, UInt8.lt_iff_toNat_lt, hb]
    show ¬0xF0 + m < 0xE0 ∧ ¬0xF0 + m < 0xF0
    omega
  have hfollows : followsFour (UInt8.ofNat (0xF0 + m)) (UInt8.ofNat (0x80 + n)) = true := by
    simp only [followsFour, isContinuation_ofNat hn, hb', Bool.true_and, Bool.and_eq_true,
      Bool.or_eq_true, decide_eq_true_eq, bne_iff_ne, ne_eq, ← UInt8.toNat_inj, hb]
    show (¬0xF0 + m = 0xF0 ∨ 0x90 ≤ 0x80 + n) ∧ (¬0xF0 + m = 0xF4 ∨ 0x80 + n < 0x90)
    omega
  have hvalue : (UInt8.ofNat (0xF0 + m)).toNat - 0xF0 = m := by omega
  rw [decodeFrom.eq_def]
  simp only
  rw [if_neg h₁, if_neg h₂, if_neg h₃.1, if_neg h₃.2, if_neg (by rw [hfollows]; decide),
    if_neg (by rw [isContinuation_ofNat hk]; decide), if_pos (isContinuation_ofNat hj), hvalue,
    payload_ofNat hn, payload_ofNat hk, payload_ofNat hj]

/-! ### Texts -/

/-- A code point is a character's if it lies outside the surrogates. -/
theorem toNat_range (c : Char) : c.toNat < 0xD800 ∨ 0xDFFF < c.toNat ∧ c.toNat < 0x110000 :=
  c.valid

/-- **The octets of a character are decoded as the character**, whatever follows. -/
theorem decodeFrom_encodeChar (c : Char) :
    decodeFrom position (encodeChar c ++ rest) =
      (decodeFrom (position + (encodeChar c).length) rest).map (c :: ·) := by
  have hrange := toNat_range c
  have hc : Char.ofNat c.toNat = c := Char.ofNat_toNat c
  simp only [encodeChar]
  split
  · rename_i h
    rw [List.singleton_append, decodeFrom_one position rest h, hc]
    rfl
  split
  · rename_i hlow h
    have hparts : c.toNat / 64 * 64 + c.toNat % 64 = c.toNat := by omega
    rw [List.cons_append, List.singleton_append,
      decodeFrom_two position rest (by omega) (by omega) (by omega), hparts, hc]
    rfl
  split
  · rename_i hlow h
    have hparts : c.toNat / 4096 * 4096 + c.toNat / 64 % 64 * 64 + c.toNat % 64 = c.toNat := by
      omega
    rw [List.cons_append, List.cons_append, List.singleton_append,
      decodeFrom_three position rest (by omega) (by omega) (by omega) (by omega) (by omega),
      hparts, hc]
    rfl
  · have hparts : c.toNat / 262144 * 262144 + c.toNat / 4096 % 64 * 4096 +
        c.toNat / 64 % 64 * 64 + c.toNat % 64 = c.toNat := by
      omega
    rw [List.cons_append, List.cons_append, List.cons_append, List.singleton_append,
      decodeFrom_four position rest (by omega) (by omega) (by omega) (by omega) (by omega)
        (by omega), hparts, hc]
    rfl

end Sequences

/-- **Characters are decoded from their octets.** -/
theorem decodeFrom_flatMap_encodeChar (cs : List Char) (position : Nat) :
    decodeFrom position (cs.flatMap encodeChar) = .ok cs := by
  induction cs generalizing position with
  | nil =>
    rw [decodeFrom.eq_def]
    rfl
  | cons c cs ih =>
    rw [List.flatMap_cons, decodeFrom_encodeChar, ih]
    rfl

/-- **A text is decoded from its encoding.** -/
theorem decode_encode (s : String) : decode (encode s) = .ok s := by
  rw [decode, encode, decodeFrom_flatMap_encodeChar, Except.map, String.ofList_toList]

/-! ### Encoding what was decoded -/

/-- A code point outside the surrogates is that of its character. -/
theorem toNat_ofNat_of_valid {n : Nat} (h : n < 0xD800 ∨ 0xDFFF < n ∧ n < 0x110000) :
    (Char.ofNat n).toNat = n := by
  have hvalid : n.isValidChar := h
  rw [Char.ofNat, dif_pos hvalid]
  rfl

/-- An octet is that of its number. -/
theorem ofNat_of_eq_toNat {n : Nat} {b : UInt8} (h : n = b.toNat) : UInt8.ofNat n = b := by
  rw [h, UInt8.ofNat_toNat]

/-- The continuation octets are those from 0x80 to 0xBF. -/
theorem isContinuation_iff (b : UInt8) :
    isContinuation b = true ↔ 0x80 ≤ b.toNat ∧ b.toNat ≤ 0xBF := by
  simp only [isContinuation, Bool.and_eq_true, decide_eq_true_eq]

/-- A character of ASCII is encoded in one octet. -/
theorem encodeChar_one {b : UInt8} (h : b < 0x80) : encodeChar (Char.ofNat b.toNat) = [b] := by
  have hb : b.toNat < 0x80 := UInt8.lt_iff_toNat_lt.1 h
  have hn := toNat_ofNat_of_valid (n := b.toNat) (by omega)
  simp only [encodeChar, hn]
  rw [if_pos hb, UInt8.ofNat_toNat]

/-- What two octets decode to is encoded in these. -/
theorem encodeChar_two {b₀ b₁ : UInt8} (h₀ : 0xC2 ≤ b₀.toNat) (h₀' : b₀.toNat < 0xE0)
    (h₁ : isContinuation b₁ = true) :
    encodeChar (Char.ofNat ((b₀.toNat - 0xC0) * 64 + payload b₁)) = [b₀, b₁] := by
  rw [isContinuation_iff] at h₁
  unfold payload
  have hn := toNat_ofNat_of_valid (n := (b₀.toNat - 0xC0) * 64 + (b₁.toNat - 0x80)) (by omega)
  simp only [encodeChar, hn]
  rw [if_neg (by omega), if_pos (by omega), ofNat_of_eq_toNat (b := b₀) (by omega),
    ofNat_of_eq_toNat (b := b₁) (by omega)]

/-- What three octets decode to is encoded in these. -/
theorem encodeChar_three {b₀ b₁ b₂ : UInt8} (h₀ : 0xE0 ≤ b₀.toNat) (h₀' : b₀.toNat < 0xF0)
    (h₁ : followsThree b₀ b₁ = true) (h₂ : isContinuation b₂ = true) :
    encodeChar (Char.ofNat ((b₀.toNat - 0xE0) * 4096 + payload b₁ * 64 + payload b₂)) =
      [b₀, b₁, b₂] := by
  simp only [followsThree, Bool.and_eq_true, Bool.or_eq_true, decide_eq_true_eq, bne_iff_ne, ne_eq,
    ← UInt8.toNat_inj, isContinuation_iff] at h₁ h₂
  have hlow : b₀.toNat = 0xE0 → 0xA0 ≤ b₁.toNat := fun h => h₁.1.2.resolve_left fun hne => hne h
  have hhigh : b₀.toNat = 0xED → b₁.toNat < 0xA0 := fun h => h₁.2.resolve_left fun hne => hne h
  unfold payload
  have hn := toNat_ofNat_of_valid
    (n := (b₀.toNat - 0xE0) * 4096 + (b₁.toNat - 0x80) * 64 + (b₂.toNat - 0x80)) (by omega)
  simp only [encodeChar, hn]
  rw [if_neg (by omega), if_neg (by omega), if_pos (by omega),
    ofNat_of_eq_toNat (b := b₀) (by omega), ofNat_of_eq_toNat (b := b₁) (by omega),
    ofNat_of_eq_toNat (b := b₂) (by omega)]

/-- What four octets decode to is encoded in these. -/
theorem encodeChar_four {b₀ b₁ b₂ b₃ : UInt8} (h₀ : 0xF0 ≤ b₀.toNat) (h₀' : b₀.toNat ≤ 0xF4)
    (h₁ : followsFour b₀ b₁ = true) (h₂ : isContinuation b₂ = true)
    (h₃ : isContinuation b₃ = true) :
    encodeChar (Char.ofNat ((b₀.toNat - 0xF0) * 262144 + payload b₁ * 4096 + payload b₂ * 64 +
      payload b₃)) = [b₀, b₁, b₂, b₃] := by
  simp only [followsFour, Bool.and_eq_true, Bool.or_eq_true, decide_eq_true_eq, bne_iff_ne, ne_eq,
    ← UInt8.toNat_inj, isContinuation_iff] at h₁ h₂ h₃
  have hlow : b₀.toNat = 0xF0 → 0x90 ≤ b₁.toNat := fun h => h₁.1.2.resolve_left fun hne => hne h
  have hhigh : b₀.toNat = 0xF4 → b₁.toNat < 0x90 := fun h => h₁.2.resolve_left fun hne => hne h
  unfold payload
  have hn := toNat_ofNat_of_valid (n := (b₀.toNat - 0xF0) * 262144 + (b₁.toNat - 0x80) * 4096 +
    (b₂.toNat - 0x80) * 64 + (b₃.toNat - 0x80)) (by omega)
  simp only [encodeChar, hn]
  rw [if_neg (by omega), if_neg (by omega), if_neg (by omega),
    ofNat_of_eq_toNat (b := b₀) (by omega), ofNat_of_eq_toNat (b := b₁) (by omega),
    ofNat_of_eq_toNat (b := b₂) (by omega), ofNat_of_eq_toNat (b := b₃) (by omega)]

/-- An octet that starts a longer character is from 0xC2 to 0xF4. -/
theorem startByte_of_not {b : UInt8} (h : ¬(b < 0xC2 || 0xF4 < b) = true) :
    0xC2 ≤ b.toNat ∧ b.toNat ≤ 0xF4 := by
  simp only [Bool.or_eq_true, decide_eq_true_eq, UInt8.lt_iff_toNat_lt] at h
  have hlow : ¬b.toNat < 0xC2 := fun hb => h (.inl hb)
  have hhigh : ¬0xF4 < b.toNat := fun hb => h (.inr hb)
  omega

/-- What is decoded after a character stands after it. -/
theorem exists_of_map_cons_eq_ok {x : Except DecodeError (List Char)} {c : Char} {cs : List Char}
    (h : x.map (c :: ·) = .ok cs) : ∃ cs', x = .ok cs' ∧ cs = c :: cs' := by
  cases x with
  | error e => cases h
  | ok cs' => exact ⟨cs', rfl, (Except.ok.inj h).symm⟩

/-- **Octets that are decoded are the encoding of what they are decoded as.** -/
theorem flatMap_encodeChar_of_decodeFrom {position : Nat} {octets : List UInt8} {cs : List Char}
    (h : decodeFrom position octets = .ok cs) : cs.flatMap encodeChar = octets := by
  fun_induction decodeFrom position octets generalizing cs with
  | case1 =>
    obtain rfl := Except.ok.inj h
    rfl
  | case2 _ b₀ rest h₀ ih =>
    obtain ⟨cs', hrest, rfl⟩ := exists_of_map_cons_eq_ok h
    rw [List.flatMap_cons, encodeChar_one h₀, ih hrest]
    rfl
  | case5 _ b₀ h₀ hstart htwo b₁ rest h₁ ih =>
    obtain ⟨cs', hrest, rfl⟩ := exists_of_map_cons_eq_ok h
    obtain ⟨hlow, -⟩ := startByte_of_not hstart
    rw [List.flatMap_cons, encodeChar_two hlow (UInt8.lt_iff_toNat_lt.1 htwo) h₁, ih hrest]
    rfl
  | case10 _ b₀ h₀ hstart htwo hthree b₁ h₁ b₂ rest h₂ ih =>
    obtain ⟨cs', hrest, rfl⟩ := exists_of_map_cons_eq_ok h
    rw [Bool.not_eq_true', Bool.not_eq_false] at h₁
    rw [List.flatMap_cons, encodeChar_three (UInt8.not_lt.1 htwo)
      (UInt8.lt_iff_toNat_lt.1 hthree) h₁ h₂, ih hrest]
    rfl
  | case17 _ b₀ h₀ hstart htwo hthree b₁ h₁ b₂ h₂ b₃ rest h₃ ih =>
    obtain ⟨cs', hrest, rfl⟩ := exists_of_map_cons_eq_ok h
    obtain ⟨-, hhigh⟩ := startByte_of_not hstart
    rw [Bool.not_eq_true', Bool.not_eq_false] at h₁ h₂
    rw [List.flatMap_cons, encodeChar_four (UInt8.not_lt.1 hthree) hhigh h₁ h₂ h₃, ih hrest]
    rfl
  -- all other octets are refused
  | _ => cases h

/-- **Decoding succeeds exactly with an encoding**, and gives what was encoded. -/
theorem decodeFrom_eq_ok_iff (position : Nat) (octets : List UInt8) (cs : List Char) :
    decodeFrom position octets = .ok cs ↔ cs.flatMap encodeChar = octets :=
  ⟨flatMap_encodeChar_of_decodeFrom, fun h => h ▸ decodeFrom_flatMap_encodeChar cs position⟩

/-- **Octets decode to a text exactly if the text encodes to them.** -/
theorem decode_eq_ok_iff {octets : List UInt8} {s : String} :
    decode octets = .ok s ↔ encode s = octets := by
  refine ⟨fun h => ?_, fun h => h ▸ decode_encode s⟩
  rw [decode] at h
  cases hcs : decodeFrom 0 octets with
  | error e => rw [hcs] at h; cases h
  | ok cs =>
    rw [hcs] at h
    obtain rfl : String.ofList cs = s := Except.ok.inj h
    rw [encode, String.toList_ofList]
    exact (decodeFrom_eq_ok_iff 0 octets cs).1 hcs

/-! ### Line ends -/

/-- A text without carriage returns has its line ends unified already. -/
theorem unifyLineEnds_of_not_mem {s : List Char} (h : '\r' ∉ s) : unifyLineEnds s = s := by
  fun_induction unifyLineEnds s with
  | case1 => rfl
  | case2 s ih => exact absurd List.mem_cons_self h
  | case3 c s _ ih =>
    rw [List.mem_cons, not_or] at h
    rw [ih h.2, beq_eq_false_iff_ne.2 (Ne.symm h.1)]
    rfl

end Text
end LogBalancer
