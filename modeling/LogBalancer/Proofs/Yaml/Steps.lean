/-
# Steps of reading a YAML text

How one token is cut off a text and how one node comes to its value.  The lexer settles, looks at a
character and adds a token (`Lexer.run_token`); a plain scalar is a token of the scanned text
(`Lexer.run_plain`), and a scalar that is one word of name characters at the end of a text is read
to its end (`scanPlain_word`).  A scalar has the value of its text, a collection that of its parts
(`Graph.build_of_scalar`, `Graph.build_of_parts`).
-/

import LogBalancer.Yaml.Graph.ToValue

namespace LogBalancer
namespace Yaml

/-! ### Words -/

/-- A character of names has no meaning of its own in a plain scalar. -/
theorem endsPlainWord_of_isNameChar {c : Char} (h : isNameChar c = true) (next : Option Char) :
    endsPlainWord false c next = false := by
  have hne : ∀ d : Char, isNameChar d = false → (c == d) = false := by
    intro d hd
    rw [beq_eq_false_iff_ne]
    rintro rfl
    exact Bool.false_ne_true (hd.symm.trans h)
  simp only [endsPlainWord, isGap, isBreak, hne ' ' (by decide), hne '\t' (by decide),
    hne '\r' (by decide), hne '\n' (by decide), hne '\x85' (by decide), hne '\u2028' (by decide),
    hne '\u2029' (by decide), hne ':' (by decide), Bool.or_false, Bool.false_and]

/-- A word is one to its end. -/
theorem plainWord_eq_self {s : List Char} (h : ∀ c ∈ s, isNameChar c = true) :
    plainWord false s = s := by
  induction s with
  | nil => rfl
  | cons c s ih =>
    rw [List.forall_mem_cons] at h
    rw [plainWord, endsPlainWord_of_isNameChar h.1, ih h.2]
    rfl

/-- A character of a name moves the place by one column. -/
theorem Cursor.advance_of_isNameChar {c : Char} (h : isNameChar c = true) (s : List Char)
    (index line column : Nat) :
    Cursor.advance ⟨c :: s, index, line, column⟩ = ⟨s, index + 1, line, column + 1⟩ := by
  have hbreak : isBreak c = false := by
    have hends := endsPlainWord_of_isNameChar h none
    simp only [endsPlainWord, isGap, Bool.or_eq_false_iff] at hends
    exact hends.1.1.2
  have hmark : (c == '\ufeff') = false := by
    rw [beq_eq_false_iff_ne]
    rintro rfl
    exact absurd h (by decide)
  simp only [advance, hbreak, hmark, Bool.false_and, Bool.false_eq_true, if_false]

/-- A word moves the place by its length. -/
theorem Cursor.advanceBy_word {s : List Char} (h : ∀ c ∈ s, isNameChar c = true)
    (index line column : Nat) :
    advanceBy ⟨s, index, line, column⟩ s.length =
      ⟨[], index + s.length, line, column + s.length⟩ := by
  induction s generalizing index column with
  | nil => rfl
  | cons c s ih =>
    rw [List.forall_mem_cons] at h
    rw [List.length_cons, advanceBy, advance_of_isNameChar h.1, ih h.2]
    simp only [Nat.add_assoc, Nat.add_comm 1]

/-- **A word at the end of a text is one plain scalar.** -/
theorem scanPlain_word {s : List Char} (hs : s ≠ []) (h : ∀ c ∈ s, isNameChar c = true)
    (indent : Int) (index line column : Nat) :
    scanPlain false indent ⟨s, index, line, column⟩ =
      (⟨s, false⟩, ⟨[], index + s.length, line, column + s.length⟩) := by
  obtain ⟨c, s, rfl⟩ := List.exists_cons_of_ne_nil hs
  have hcomment : (some c == some '#') = false := by
    rw [beq_eq_false_iff_ne]
    rintro h'
    obtain rfl := Option.some.inj h'
    exact absurd (h '#' List.mem_cons_self) (by decide)
  rw [scanPlain, scanPlainWords]
  simp only [plainWord_eq_self h, Cursor.peek, List.head?_cons, hcomment, List.isEmpty_cons,
    Bool.or_false, Bool.false_eq_true, if_false, Cursor.advanceBy_word h]
  rfl

/-! ### Tokens -/

namespace Lexer

/-- **A token is added** for the character at which the lexer settles. -/
theorem run_token {l : Lexer} (l₁ : Lexer) {l₂ : Lexer} {ch : Char}
    (hsettle : l.settle = .ok l₁) (hpeek : l₁.cursor.peek = some ch)
    (hpush : l₁.pushToken ch = .ok l₂) (fuel : Nat) :
    run (fuel + 1) l = run fuel l₂ := by
  simp only [run, hsettle, hpeek, hpush]

/-- **A plain scalar is a token of the scanned text.** -/
theorem run_plain {l : Lexer} (l₁ l₂ : Lexer) {ch : Char} {p : Plain} {c : Cursor}
    (hsettle : l.settle = .ok l₁) (hpeek : l₁.cursor.peek = some ch)
    (hplain : l₁.pushToken ch = l₁.pushPlain) (hsave : l₁.saveCandidate = .ok l₂)
    (hscan : scanPlain l₂.inFlow l₂.indent l₂.cursor = (p, c)) (fuel : Nat) :
    run (fuel + 1) l =
      run fuel { l₂.push (.scalar (String.ofList p.text) true) with
                 cursor := c, keyAllowed := p.atLineStart } := by
  apply run_token l₁ hsettle hpeek
  simp only [hplain, pushPlain, hsave, hscan, bind, Except.bind]
  rfl

/-- **At the end of the text the reading ends.** -/
theorem run_end {l l₁ : Lexer} (l₂ : Lexer) (hsettle : l.settle = .ok l₁)
    (hpeek : l₁.cursor.peek = none) (hreset : l₁.reset = .ok l₂) (fuel : Nat) :
    run (fuel + 1) l = ((l₂.push .streamEnd).done.reverse, none) := by
  simp only [run, hsettle, hpeek, hreset]

end Lexer

/-! ### Values -/

namespace Graph

variable {g : Graph}

/-- A scalar with a value is made. -/
theorem make_of_scalar {i : Nat} {v : Value} (hvalue : g.scalarValue? i = .ok (some v))
    (asKey : Bool) {made : Array Bool} (hnew : made.getD i true = false) (waiting : List Nat)
    (resolved : Array Bool) :
    g.make i asKey ⟨made, waiting, resolved⟩ =
      .ok ⟨made.setIfInBounds i true, waiting, resolved⟩ := by
  simp only [make, hnew, hvalue, Bool.false_eq_true, if_false]
  cases asKey && (g.node i).tag == .default_ <;> rfl

/-- A single waiting collection is made, and then what it has left waiting. -/
theorem makeLevels_of_makeParts {i : Nat} {made resolved : Array Bool} {s : Survey}
    (h : g.makeParts ⟨made, [], resolved⟩ i = .ok s) (n : Nat) :
    g.makeLevels (n + 1) ⟨made, [i], resolved⟩ = g.makeLevels n s := by
  simp only [makeLevels, List.reverse_singleton, List.foldlM_cons, List.foldlM_nil, h]
  rfl

/-- **A scalar has the value of its text.** -/
theorem build_of_scalar {i : Nat} {v : Value} (hvalue : g.scalarValue? i = .ok (some v))
    (fuel : Nat) {k : Known} (hnew : k.values.getD i none = none)
    (hopen : k.open_.contains i = false) :
    g.build (fuel + 1) i k = (v, { k with values := k.values.setIfInBounds i (some v) }) := by
  unfold build
  simp only [bind, StateT.bind, get, getThe, MonadStateOf.get, StateT.get, pure, hnew, hopen,
    hvalue]
  rfl

/-- **A collection has the value of its parts.** -/
theorem build_of_parts {i fuel : Nat} {k : Known} (k' : Known) {v : Value}
    (hvalue : g.scalarValue? i = .ok none) (hnew : k.values.getD i none = none)
    (hopen : k.open_.contains i = false)
    (hparts : g.buildParts fuel i { k with open_ := i :: k.open_ } = (v, k')) :
    g.build (fuel + 1) i k =
      (v, { k' with open_ := k'.open_.tail, values := k'.values.setIfInBounds i (some v) }) := by
  unfold build
  simp only [bind, StateT.bind, get, getThe, MonadStateOf.get, StateT.get, pure, hnew, hopen,
    hvalue]
  let made := g.buildParts fuel i { k with open_ := i :: k.open_ }
  show (made.1, { made.2 with open_ := made.2.open_.tail,
                              values := made.2.values.setIfInBounds i (some made.1) }) = _
  rw [show made = (v, k') from hparts]

/-- A document without a collection inside itself has the value of the first round. -/
theorem approach_of_build {n : Nat} {before : Array Value} {v : Value} {k : Known}
    (h : g.build (2 * g.nodes.size + 2) g.root
      ⟨before, Array.replicate g.nodes.size none, [], false⟩ = (v, k))
    (hcircular : k.circular = false) : g.approach (n + 1) before = v := by
  rw [approach]
  simp only [StateT.run, h, hcircular]
  rfl

end Graph

/-- **The stages of reading a text.** -/
theorem read_of_stages {depth : Nat} {s : List Char} {tokens : List Token} {g : Graph} {v : Value}
    (hallowed : s.all isAllowed = true) (htokens : Token.ofText s = (tokens, none))
    (hnodes : Graph.ofTokens depth tokens none = .ok (some g)) (hvalue : g.toValue = .ok v) :
    read depth s = .ok v := by
  simp only [read, Graph.ofText, hallowed, htokens, hnodes]
  exact hvalue

end Yaml
end LogBalancer
