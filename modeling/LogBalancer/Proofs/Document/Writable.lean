/-
# Documents that can be written

A document comes to be as soon as every port has few enough digits (`Document.ofTeams_eq_ok`).
Anything that is a port has (`Decimal.isWritable_of_isPort`), and few enough are 4300
(`Decimal.isWritable_iff`).
-/

import LogBalancer.Document.Basic

namespace LogBalancer

/-- A port that is not too long is written as its numeral. -/
theorem portText_of_isWritable {port : Int} (h : Decimal.isWritable port = true) :
    portText port = .ok (Decimal.numeral port) := by
  have hnumeral : Decimal.numeral? port = some (Decimal.numeral port) := if_pos h
  unfold portText
  split
  · rename_i hs
    rw [Option.some.inj (hs.symm.trans hnumeral)]
  · rename_i hs
    exact absurd (hs.symm.trans hnumeral) (by simp)

/-- A port in range is not too long. -/
theorem Decimal.isWritable_of_isPort {port : Int} (h : minPort ≤ port ∧ port ≤ maxPort) :
    isWritable port = true := by
  have hlow : 1 ≤ port := h.1
  have hhigh : port ≤ 65535 := h.2
  have hfive : Nat.pow 10 5 = 100000 := rfl
  have hsmall : port.natAbs < Nat.pow 10 5 := by omega
  have hgrows : ∀ n, 5 ≤ n → Nat.pow 10 5 ≤ Nat.pow 10 n := fun n =>
    Nat.pow_le_pow_right (by decide)
  exact decide_eq_true (Nat.lt_of_lt_of_le hsmall (hgrows maxDigits (by decide)))

/-- A number has at most `k` digits exactly if it is less than `10 ^ k`. -/
theorem Decimal.length_digits_le_iff {k : Nat} (hk : 0 < k) (n : Nat) :
    (digits n).length ≤ k ↔ n < Nat.pow 10 k := by
  obtain ⟨k, rfl⟩ : ∃ j, k = j + 1 := ⟨k - 1, by omega⟩
  induction n using Nat.strongRecOn generalizing k with
  | ind n ih =>
    have hpow : Nat.pow 10 (k + 1) = Nat.pow 10 k * 10 := Nat.pow_succ 10 k
    have hone : 1 ≤ Nat.pow 10 k := Nat.one_le_pow k 10 (by decide)
    by_cases hn : n < 10
    · rw [digits_of_lt_ten hn, List.length_singleton]
      omega
    · rw [digits_of_ten_le (by omega), List.length_append, List.length_singleton]
      rcases Nat.eq_zero_or_pos k with rfl | hpos
      · have hnonempty : 0 < (digits (n / 10)).length := by
          by_cases hd : n / 10 < 10
          · simp [digits_of_lt_ten hd]
          · simp [digits_of_ten_le (Nat.le_of_not_lt hd)]
        have hten : Nat.pow 10 (0 + 1) = 10 := rfl
        omega
      · obtain ⟨j, rfl⟩ : ∃ j, k = j + 1 := ⟨k - 1, by omega⟩
        have hshorter := ih (n / 10) (by omega) j (by omega)
        omega

/-- **An integer can be written exactly if it has at most 4300 decimal digits.** -/
theorem Decimal.isWritable_iff (p : Int) :
    isWritable p = true ↔ (digits p.natAbs).length ≤ maxDigits := by
  rw [length_digits_le_iff (by decide)]
  exact decide_eq_true_iff

/-- A traversal whose steps all succeed gives their values. -/
theorem mapM_eq_ok_map {α β ε : Type} {f : α → Except ε β} {g : α → β} {xs : List α}
    (h : ∀ x ∈ xs, f x = .ok (g x)) : xs.mapM f = .ok (xs.map g) := by
  induction xs with
  | nil => rfl
  | cons x xs ih =>
    rw [List.mapM_cons, h x List.mem_cons_self, ih fun y hy => h y (List.mem_cons_of_mem _ hy)]
    rfl

/-- **Teams whose ports can be written have a document**, with one server for each. -/
theorem Document.ofTeams_eq_ok (settings : Settings) {teams : List Team}
    (h : ∀ t ∈ teams, Decimal.isWritable t.port = true) :
    Document.ofTeams settings teams = .ok ⟨settings.api.fields,
      teams.map fun t => Server.of settings t (Decimal.numeral t.port)⟩ := by
  have hserver : ∀ t ∈ teams,
      Server.ofTeam settings t = .ok (Server.of settings t (Decimal.numeral t.port)) := by
    intro t ht
    rw [Server.ofTeam, portText_of_isWritable (h t ht)]
    rfl
  rw [Document.ofTeams, mapM_eq_ok_map hserver]
  rfl

end LogBalancer
