/-
# Ports of teams

The value of the key "port" of a team is accepted exactly if it is an integer, or a text of the
grammar of `Port.Numeral` with at most 4300 characters, in characters or in octets (`IsPort`).  The
team holds the integer that it denotes.  What is written for an integer is the canonical text of the
grammar, so it is read back if it is not too long (`port_grammar`).
-/

import LogBalancer.Proofs.Document.Writable
import LogBalancer.Proofs.Port.Grammar
import LogBalancer.Proofs.Record.Config
import LogBalancer.Proofs.Text.Utf8

namespace LogBalancer

/-! ### Written ports -/

namespace Decimal

/-- The characters of a numeral. -/
theorem toList_numeral (p : Int) : (numeral p).toList = numeralChars p := String.toList_ofList

/-- A numeral has at least as many characters as digits. -/
theorem length_digits_le_numeral (p : Int) : (digits p.natAbs).length ≤ (numeral p).length := by
  rw [← String.length_toList, toList_numeral]
  cases p with
  | ofNat n => exact Nat.le_refl _
  | negSucc n => exact Nat.le_succ _

end Decimal

namespace Record

/-! ### Values -/

/-- A text of the grammar of ports that denotes `p`. -/
def Denotes (s : String) (p : Int) : Prop :=
  s.length ≤ 4300 ∧ ∃ w : Port.Numeral, w.text = s.toList ∧ w.value = p

/-- A value that is the port `p`: the integer, or a text that denotes it.  Nothing else is a port,
neither a flag nor a floating-point value. -/
def IsPort : Value → Int → Prop
  | .int n, p => n = p
  | .text s, p => Denotes s p
  | .bytes octets, p => ∃ s, Text.encode s = octets ∧ Denotes s p
  | _, _ => False

/-- A text is a port exactly if it is of the grammar. -/
theorem portOfText_eq_accepted_iff {s : String} {p : Int} :
    portOfText s = .accepted p ↔ Denotes s p := by
  have hread := Port.read_eq_ok_iff (s := s.toList) (p := p)
  rw [String.length_toList] at hread
  rw [Denotes, ← show Decimal.maxDigits = 4300 from rfl, ← hread]
  unfold portOfText
  cases Port.read s.toList with
  | ok n => exact ⟨fun h => congrArg Except.ok (Checked.accepted.inj h),
      fun h => congrArg Checked.accepted (Except.ok.inj h)⟩
  | error e => cases e <;> exact ⟨fun h => (nomatch h), fun h => (nomatch h)⟩

/-- A value is accepted exactly as the port that it is. -/
theorem port_eq_accepted_iff {v : Value} {p : Int} : port v = .accepted p ↔ IsPort v p := by
  cases v with
  | int n => exact ⟨Checked.accepted.inj, congrArg Checked.accepted⟩
  | text s => exact portOfText_eq_accepted_iff
  | bytes octets =>
    simp only [port, IsPort, ← Text.decode_eq_ok_iff, ← portOfText_eq_accepted_iff]
    cases Text.decode octets with
    | ok s =>
      refine ⟨fun h => ⟨s, rfl, h⟩, ?_⟩
      rintro ⟨_, hs, h⟩
      exact Except.ok.inj hs ▸ h
    | error e => exact ⟨fun h => (nomatch h), fun ⟨_, h, _⟩ => (nomatch h)⟩
  | _ => exact ⟨fun h => (nomatch h), fun h => h.elim⟩

/-- A value has no fault as a port exactly if it is one. -/
theorem faults_port_eq_nil_iff {v : Value} : (port v).faults = [] ↔ ∃ p, IsPort v p := by
  rw [(port_justified v).faults_eq_nil_iff]
  simp only [port_eq_accepted_iff]

/-! ### Other keys -/

section OtherKeys

variable {es : Entries} {key other : String}

/-- Below a key is nothing that is wrong with the value of another key. -/
theorem filterMap_below?_required_of_ne {α : Type} {read : Reader α} (h : key ≠ other) :
    (required key read es).faults.filterMap (Fault.below? (.key other)) = [] := by
  have hne : PathStep.key key ≠ .key other := fun hkey => h (PathStep.key.inj hkey)
  unfold required
  cases Value.lookup key es with
  | none => exact List.filterMap_eq_nil_iff.2 fun f hf => List.mem_singleton.1 hf ▸ if_neg hne
  | some w => exact (Checked.filterMap_below?_faults_under _ _ _).trans (if_neg hne)

/-- Below a key is nothing that is wrong with the flag of a team, under either key of the flag. -/
theorem filterMap_below?_teamFlag_of_ne (halias : flagAlias ≠ other) (hkey : flagKey ≠ other) :
    (teamFlag es).faults.filterMap (Fault.below? (.key other)) = [] := by
  unfold teamFlag
  cases Value.lookup flagAlias es with
  | none =>
    dsimp only
    rw [faults_optional, filterMap_below?_partFaults, if_neg hkey]
  | some w =>
    exact (Checked.filterMap_below?_faults_under _ _ _).trans
      (if_neg fun h => halias (PathStep.key.inj h))

end OtherKeys

/-! ### Teams -/

section Teams

variable {es : Entries} {v : Value} (hv : Value.lookup "port" es = some v)

include hv

/-- A team is accepted exactly as put together from its port, its name and its flag. -/
theorem team_eq_accepted_iff {t : Team} :
    team (.mapping es) = .accepted t ↔
      IsPort v t.port ∧ required "team" text es = .accepted t.name ∧
        teamFlag es = .accepted t.trueCheck := by
  have hport : required "port" port es = .accepted t.port ↔ IsPort v t.port := by
    rw [required, hv, ← port_eq_accepted_iff]
    exact Checked.under_eq_accepted_iff
  rw [team, record, Checked.map_eq_accepted_iff, ← hport]
  constructor
  · rintro ⟨⟨⟨p, n⟩, f⟩, hparts, rfl⟩
    obtain ⟨hparts, hflag⟩ := Checked.zip_eq_accepted_iff.1 hparts
    obtain ⟨hp, hname⟩ := Checked.zip_eq_accepted_iff.1 hparts
    exact ⟨hp, hname, hflag⟩
  · rintro ⟨hp, hname, hflag⟩
    exact ⟨((t.port, t.name), t.trueCheck),
      Checked.zip_eq_accepted_iff.2 ⟨Checked.zip_eq_accepted_iff.2 ⟨hp, hname⟩, hflag⟩, rfl⟩

/-- What is wrong with the port of a team is what is wrong with its value. -/
theorem faults_team_port :
    (team (.mapping es)).faults.filterMap (Fault.below? (.key "port")) = (port v).faults := by
  have hport : (required "port" port es).faults.filterMap (Fault.below? (.key "port")) =
      (port v).faults := by
    rw [required, hv]
    exact (Checked.filterMap_below?_faults_under _ _ _).trans (if_pos rfl)
  have hname : (required "team" text es).faults.filterMap (Fault.below? (.key "port")) = [] :=
    filterMap_below?_required_of_ne (by decide)
  have hflag : (teamFlag es).faults.filterMap (Fault.below? (.key "port")) = [] :=
    filterMap_below?_teamFlag_of_ne (by decide) (by decide)
  rw [team, record, Checked.faults_map, Checked.faults_zip, Checked.faults_zip,
    List.filterMap_append, List.filterMap_append, hport, hname, hflag, List.append_nil,
    List.append_nil]

/-- A flag or a floating-point value is no port of a team, even if it equals an integer. -/
theorem team_ne_accepted_of_flag_or_float (h : (∃ b, v = .flag b) ∨ ∃ x, v = .float x) (t : Team) :
    team (.mapping es) ≠ .accepted t := by
  intro ht
  have hport : IsPort v t.port := ((team_eq_accepted_iff hv).1 ht).1
  rcases h with ⟨b, rfl⟩ | ⟨x, rfl⟩
  · exact hport
  · exact hport

end Teams

/-! ### Written ports -/

/-- A team has a server if the numeral of its port is not too long. -/
theorem ofTeam_of_length {p : Int} (h : (Decimal.numeral p).length ≤ 4300) (settings : Settings)
    {t : Team} (ht : t.port = p) :
    Server.ofTeam settings t = .ok (Server.of settings t (Decimal.numeral p)) := by
  have hwritable : Decimal.isWritable p = true :=
    (Decimal.isWritable_iff p).2 (Nat.le_trans (Decimal.length_digits_le_numeral p) h)
  rw [Server.ofTeam, ht, portText_of_isWritable hwritable]
  rfl

/-- What is written for a port is read as the port. -/
theorem port_numeral {p : Int} (h : (Decimal.numeral p).length ≤ 4300) :
    port (.text (Decimal.numeral p)) = .accepted p := by
  have htext : (Port.Numeral.ofInt p).text = Decimal.numeralChars p := Port.Numeral.text_ofInt p
  refine port_eq_accepted_iff.2 ⟨h, Port.Numeral.ofInt p, ?_, ?_⟩
  · rw [htext, Decimal.toList_numeral]
  · exact (((Port.Numeral.ofInt p).text_eq_numeralChars_iff p).1 htext).2

/-- **Ports are exactly what the grammar says, and are written canonically.**  A value is accepted as
a port exactly if it is that port.  A team is accepted with the port that its value is; its port is
faultless exactly if its value is one; and no flag or floating-point value is.  The text of an integer
is that of exactly its canonical numeral.  If it has at most 4300 characters, it is what servers are
written with, and it is accepted as the integer. -/
theorem port_grammar :
    (∀ v p, port v = .accepted p ↔ IsPort v p) ∧
    (∀ es v, Value.lookup "port" es = some v →
      ((team (.mapping es)).faults.filterMap (Fault.below? (.key "port")) = [] ↔ ∃ p, IsPort v p) ∧
      (∀ t, team (.mapping es) = .accepted t ↔
        IsPort v t.port ∧ required "team" text es = .accepted t.name ∧
          teamFlag es = .accepted t.trueCheck) ∧
      (((∃ b, v = .flag b) ∨ ∃ x, v = .float x) → ∀ t, team (.mapping es) ≠ .accepted t)) ∧
    ∀ p,
      (∀ w : Port.Numeral,
        w.text = (Decimal.numeral p).toList ↔ w.IsCanonical ∧ w.value = p) ∧
      ((Decimal.numeral p).length ≤ 4300 →
        (∀ settings t, t.port = p →
          Server.ofTeam settings t = .ok (Server.of settings t (Decimal.numeral p))) ∧
        port (.text (Decimal.numeral p)) = .accepted p) := by
  refine ⟨fun v p => port_eq_accepted_iff, fun es v hv => ⟨?_, ?_, ?_⟩, fun p => ⟨fun w => ?_, ?_⟩⟩
  · rw [faults_team_port hv]
    exact faults_port_eq_nil_iff
  · exact fun t => team_eq_accepted_iff hv
  · exact team_ne_accepted_of_flag_or_float hv
  · rw [Decimal.toList_numeral]
    exact w.text_eq_numeralChars_iff p
  · exact fun h => ⟨fun settings t => ofTeam_of_length h settings, port_numeral h⟩

/-- A numeral with everything that is not needed. -/
def looseNumeral : Port.Numeral where
  before := ['\t', '\u3000']
  sign := .minus
  digits :=
    { first := ['0']
      more := [['0', '7'], ['0']]
      first_isGroup := by decide
      more_isGroup := by decide }
  zeros := 2
  after := [' ']
  before_isWhite := by decide
  after_isWhite := by decide

/-- White space, a sign, leading zeros, an underscore and a fraction are all read. -/
theorem port_grammar_of_looseNumeral :
    team (.mapping [(.text "team", .text "a"), (.text "port", .text "\t\u3000-0_07_0.00 ")]) =
      .accepted ⟨-70, "a", false⟩ ∧
    port (.text (Decimal.numeral (-70))) = .accepted (-70) := by
  have hport : IsPort (.text "\t\u3000-0_07_0.00 ") (-70) := ⟨by decide, looseNumeral, rfl, by decide⟩
  have hlength : (Decimal.numeral (-70)).length ≤ 4300 := by decide +kernel
  exact ⟨((port_grammar.2.1 _ _ rfl).2.1 ⟨-70, "a", false⟩).2 ⟨hport, rfl, rfl⟩,
    ((port_grammar.2.2 (-70)).2 hlength).2⟩

end Record
end LogBalancer
