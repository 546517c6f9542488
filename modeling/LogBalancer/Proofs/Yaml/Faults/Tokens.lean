/-
# Faults among the tokens

Cutting a text into tokens fails where the text is malformed, and has two faults of its own: the escape
of a number that is no code point and a version with too long a number (`Token.ofText_fault`).

`FailsOnly` says of a computation for what it fails, apart from malformed texts, of which every stage
finds some.  There is one lemma for each way in which computations are put together.
-/

import LogBalancer.Yaml.Token.Lexer

namespace LogBalancer
namespace Yaml

/-- A fault of a malformed text, or one with a property. -/
def Fault.IsAdmitted (p : Fault → Prop) (fault : Fault) : Prop :=
  (∃ rule, fault = .malformed rule) ∨ p fault

/-- Whether a computation fails only for malformed texts and for faults with a property. -/
def FailsOnly {α : Type} (p : Fault → Prop) (x : Except Fault α) : Prop :=
  ∀ fault, x = .error fault → fault.IsAdmitted p

namespace FailsOnly

variable {α β : Type} {p : Fault → Prop}

/-- A value is no failure. -/
theorem ok (a : α) : FailsOnly p (.ok a) := by
  intro fault h
  cases h

/-- A malformed text may be failed for. -/
theorem malformed (rule : Rule) : FailsOnly p (.error (.malformed rule) : Except Fault α) := by
  intro fault h
  exact .inl ⟨rule, (Except.error.inj h).symm⟩

/-- So may a fault with the property. -/
theorem fault {fault : Fault} (h : p fault) : FailsOnly p (.error fault : Except Fault α) := by
  intro fault' h'
  obtain rfl := Except.error.inj h'
  exact .inr h

/-- Two steps fail for what either fails for. -/
theorem bind {x : Except Fault α} {f : α → Except Fault β} (hx : FailsOnly p x)
    (hf : ∀ a, FailsOnly p (f a)) : FailsOnly p (x >>= f) := by
  intro fault h
  cases x with
  | error e => exact hx fault (congrArg Except.error (Except.error.inj h))
  | ok a => exact hf a fault h

/-- A choice fails for what either side fails for. -/
theorem ite {c : Prop} [Decidable c] {x y : Except Fault α} (hx : FailsOnly p x)
    (hy : FailsOnly p y) : FailsOnly p (if c then x else y) := by
  split
  · exact hx
  · exact hy

/-- A rule that is broken makes a text malformed. -/
theorem demand (rule : Rule) (condition : Bool) : FailsOnly p (demand rule condition) :=
  ite (ok ()) (malformed rule)

/-- A step for each item of a list fails for what the steps fail for. -/
theorem mapM {f : α → Except Fault β} (hf : ∀ a, FailsOnly p (f a)) (as : List α) :
    FailsOnly p (as.mapM f) := by
  induction as with
  | nil => exact ok []
  | cons a as ih =>
    rw [List.mapM_cons]
    exact bind (hf a) fun _ => bind ih fun _ => ok _

/-- A run along a list fails for what its steps fail for. -/
theorem foldlM {f : β → α → Except Fault β} (hf : ∀ b a, FailsOnly p (f b a)) (as : List α)
    (b : β) : FailsOnly p (as.foldlM f b) := by
  induction as generalizing b with
  | nil => exact ok b
  | cons a as ih =>
    rw [List.foldlM_cons]
    exact bind (hf b a) ih

end FailsOnly

/-! ### Directives, anchors and tags -/

/-- The misfit of an escape of a number that is no code point. -/
def Misfit.IsEscape (m : Misfit) : Prop := ∃ n, 0x110000 ≤ n ∧ m = .codePoint n

/-- The misfit of a version with a number of too many digits. -/
def Misfit.IsVersion (m : Misfit) : Prop := ∃ n, Decimal.maxDigits < n ∧ m = .longInteger n

/-- The faults that a text can have before any of its tokens becomes a node, unless it is malformed. -/
def Fault.IsOfToken (fault : Fault) : Prop :=
  ∃ m : Misfit, fault = .misfit m ∧ (m.IsEscape ∨ m.IsVersion)

section Properties

variable {p : Fault → Prop}

/-- A name fails only where it is malformed. -/
theorem scanName_failsOnly (rule : Rule) (c : Cursor) : FailsOnly p (scanName rule c) :=
  .bind (.demand _ _) fun _ => .ok _

/-- So does the name of an anchor. -/
theorem scanAnchorName_failsOnly (c : Cursor) : FailsOnly p (scanAnchorName c) :=
  .bind (scanName_failsOnly _ _) fun _ => .bind (.demand _ _) fun _ => .ok _

/-- So do hexadecimal digits. -/
theorem scanHex_failsOnly (rule : Rule) (size : Nat) (c : Cursor) :
    FailsOnly p (scanHex rule size c) :=
  .ite (.ok _) (.malformed rule)

/-- So do the octets of a tag. -/
theorem scanOctets_failsOnly (fuel : Nat) (c : Cursor) : FailsOnly p (scanOctets fuel c) := by
  induction fuel generalizing c with
  | zero => exact .ok _
  | succ fuel ih =>
    exact .ite (.bind (scanHex_failsOnly _ _ _) fun _ => .bind (ih _) fun _ => .ok _)
      (.ok _)

/-- So do the characters of a tag: octets that are not UTF-8 are malformed. -/
theorem scanTagChars_failsOnly (fuel : Nat) (c : Cursor) : FailsOnly p (scanTagChars fuel c) := by
  induction fuel generalizing c with
  | zero => exact .ok _
  | succ fuel ih =>
    rw [scanTagChars]
    split
    · exact .ok _
    · refine .ite (.bind (scanOctets_failsOnly _ _) fun _ => ?_)
        (.ite (.bind (ih _) fun _ => .ok _) (.ok _))
      dsimp only
      split
      · exact .bind (.ok _) fun _ => .bind (ih _) fun _ => .ok _
      · exact .malformed _

/-- The text of a tag fails only where it is malformed. -/
theorem scanTagText_failsOnly (c : Cursor) : FailsOnly p (scanTagText c) :=
  .bind (scanTagChars_failsOnly _ _) fun _ => .bind (.demand _ _) fun _ => .ok _

/-- So does the handle of a tag. -/
theorem scanHandle_failsOnly (c : Cursor) : FailsOnly p (scanHandle c) :=
  .bind (.demand _ _) fun _ => .ite (.ok _) (.ite (.ok _) (.malformed _))

/-- So does a tag. -/
theorem scanTag_failsOnly (c : Cursor) : FailsOnly p (scanTag c) := by
  have hend (handle : Option String) (suffix : String) (c : Cursor) :
      FailsOnly p (do demand .tags (endsWord c.peek); return (Token.tag handle suffix, c)) :=
    .bind (.demand _ _) fun _ => .ok _
  have htext (handle : String) (c : Cursor) : FailsOnly p (do
      let text ← scanTagText c
      demand .tags (endsWord text.2.peek)
      return (Token.tag (some handle) text.1, text.2)) :=
    .bind (scanTagText_failsOnly _) fun _ => hend _ _ _
  refine .ite ?_ (.ite (hend _ _ _) (.ite ?_ (htext _ _)))
  · exact .bind (scanTagText_failsOnly _) fun _ => .bind (.demand _ _) fun _ => hend _ _ _
  · exact .bind (scanHandle_failsOnly _) fun _ => htext _ _

/-- The rest of a line fails only where it is malformed. -/
theorem scanLineRest_failsOnly (rule : Rule) (c : Cursor) : FailsOnly p (scanLineRest rule c) := by
  refine .bind (.demand _ _) fun _ => ?_
  split <;> exact .ok _

/-- The number of a version that is well formed fails only for its length. -/
theorem scanVersionNumber_failsOnly (c : Cursor) :
    FailsOnly Fault.IsOfToken (scanVersionNumber c) := by
  refine .bind (.demand _ _) fun _ => ?_
  dsimp only
  split
  · rename_i hlong
    exact .bind (.fault ⟨_, rfl, .inr ⟨_, hlong, rfl⟩⟩) fun _ => .ok _
  · exact .ok _

/-- A directive that is well formed fails only for the length of its version. -/
theorem scanDirective_failsOnly (c : Cursor) :
    FailsOnly Fault.IsOfToken (scanDirective c) := by
  have hend (directive : Directive) (c : Cursor) : FailsOnly Fault.IsOfToken (do
      let c ← scanLineRest .directives c
      return (Token.directive directive, c)) :=
    .bind (scanLineRest_failsOnly _ _) fun _ => .ok _
  refine .bind (scanName_failsOnly _ _) fun _ => .bind (.demand _ _) fun _ => ?_
  refine .ite ?_ (.ite ?_ (hend _ _))
  · refine .bind (scanVersionNumber_failsOnly _) fun _ => .bind (.demand _ _) fun _ => ?_
    refine .bind (scanVersionNumber_failsOnly _) fun _ => .bind (.demand _ _) fun _ => ?_
    exact hend _ _
  · refine .bind (scanHandle_failsOnly _) fun _ => .bind (.demand _ _) fun _ => ?_
    refine .bind (scanTagText_failsOnly _) fun _ => .bind (.demand _ _) fun _ => ?_
    exact hend _ _

/-- The indentation of a block scalar fails only where it is malformed. -/
theorem scanIncrement_failsOnly (c : Cursor) : FailsOnly p (scanIncrement c) := by
  unfold scanIncrement
  split
  · exact .ite (.bind (.demand _ _) fun _ => .ok _) (.ok _)
  · exact .ok _

/-- So does the header of a block scalar. -/
theorem scanBlockHeader_failsOnly (c : Cursor) : FailsOnly p (scanBlockHeader c) := by
  have hend (header : Chomping × Option Nat) (c : Cursor) : FailsOnly p (do
      demand .blockScalars (endsWord c.peek)
      return (header, c)) :=
    .bind (.demand _ _) fun _ => .ok _
  unfold scanBlockHeader
  dsimp only
  split
  · exact .bind (scanIncrement_failsOnly _) fun _ => hend _ _
  · refine .bind (scanIncrement_failsOnly _) fun _ => ?_
    split <;> exact hend _ _

/-- So does a block scalar, until it gets a value. -/
theorem scanBlockScalar_failsOnly (indent : Int) (c : Cursor) :
    FailsOnly p (scanBlockScalar indent c) :=
  .bind (scanBlockHeader_failsOnly _) fun _ =>
    .bind (scanLineRest_failsOnly _ _) fun _ => .ok _

/-- Line ends in a quoted scalar fail only where they are malformed. -/
theorem scanQuotedBreaks_failsOnly (fuel : Nat) (c : Cursor) :
    FailsOnly p (scanQuotedBreaks fuel c) := by
  induction fuel generalizing c with
  | zero => exact .ok _
  | succ fuel ih =>
    refine .bind (.demand _ _) fun _ => ?_
    dsimp only
    split
    · exact .bind (ih _) fun _ => .ok _
    · exact .ok _

/-- So does its spacing. -/
theorem scanQuotedSpacing_failsOnly (c : Cursor) : FailsOnly p (scanQuotedSpacing c) := by
  refine .bind (.demand _ _) fun _ => ?_
  split
  · exact .bind (scanQuotedBreaks_failsOnly _ _) fun _ => .ok _
  · exact .ok _

end Properties

/-! ### Tokens -/

/-- A number has no character only if it is beyond the code points. -/
theorem charOf_failsOnly (n : Nat) : FailsOnly Fault.IsOfToken (charOf n) := by
  unfold charOf
  split
  · exact .ok _
  · rename_i hlarge
    exact .fault ⟨_, rfl, .inl ⟨n, Nat.not_lt.1 hlarge, rfl⟩⟩

/-- An escape that is well formed fails only for its number. -/
theorem scanEscape_failsOnly (c : Cursor) : FailsOnly Fault.IsOfToken (scanEscape c) := by
  unfold scanEscape
  split
  · exact .malformed _
  · split
    · exact .ok _
    · exact .bind (scanHex_failsOnly _ _ _) fun _ => .bind (charOf_failsOnly _) fun _ => .ok _
    · split
      · exact scanQuotedBreaks_failsOnly _ _
      · exact .malformed _

/-- What is between quotes fails only for its escapes, if it is well formed. -/
theorem scanQuotedContent_failsOnly (double : Bool) (fuel : Nat) (c : Cursor) :
    FailsOnly Fault.IsOfToken (scanQuotedContent double fuel c) := by
  induction fuel generalizing c with
  | zero => exact .malformed _
  | succ fuel ih =>
    have hend (part : List Char) (c : Cursor) : FailsOnly Fault.IsOfToken (do
        let rest ← scanQuotedContent double fuel c
        return (part ++ rest.1, rest.2)) :=
      .bind (ih _) fun _ => .ok _
    rw [scanQuotedContent]
    split
    · exact .malformed _
    · refine .ite (.ok _) (.ite (hend _ _) (.ite ?_ (.ite ?_ (hend _ _))))
      · exact .bind (scanEscape_failsOnly _) fun _ => hend _ _
      · exact .bind (scanQuotedSpacing_failsOnly _) fun _ => hend _ _

/-- So does a quoted scalar. -/
theorem scanQuoted_failsOnly (c : Cursor) : FailsOnly Fault.IsOfToken (scanQuoted c) :=
  .bind (scanQuotedContent_failsOnly _ _ _) fun _ => .ok _

namespace Lexer

section States

variable {p : Fault → Prop} (l : Lexer)

/-- Giving up keys that did not come fails only where one has to come. -/
theorem dropStale_failsOnly : FailsOnly p l.dropStale := .bind (.demand _ _) fun _ => .ok _

/-- So does giving up the key at hand. -/
theorem dropCandidate_failsOnly : FailsOnly p l.dropCandidate :=
  .bind (.demand _ _) fun _ => .ok _

/-- So does taking note of another key. -/
theorem saveCandidate_failsOnly : FailsOnly p l.saveCandidate :=
  .ite (.bind (dropCandidate_failsOnly _) fun _ => .ok _) (.ok _)

/-- So does going on to the next token. -/
theorem settle_failsOnly : FailsOnly p l.settle := .bind (dropStale_failsOnly _) fun _ => .ok _

/-- So does ending all collections. -/
theorem reset_failsOnly : FailsOnly p l.reset := .bind (dropCandidate_failsOnly _) fun _ => .ok _

/-- A token that starts a node fails for what its text fails for. -/
theorem pushNode_failsOnly {scan : Cursor → Except Fault (Token × Cursor)}
    (hscan : ∀ c, FailsOnly p (scan c)) : FailsOnly p (l.pushNode scan) :=
  .bind (saveCandidate_failsOnly _) fun _ => .bind (hscan _) fun _ => .ok _

/-- Opening a bracket fails only where it is malformed. -/
theorem openFlow_failsOnly (t : Token) : FailsOnly p (l.openFlow t) :=
  .bind (saveCandidate_failsOnly _) fun _ => .ok _

/-- So does closing one. -/
theorem closeFlow_failsOnly (t : Token) : FailsOnly p (l.closeFlow t) :=
  .bind (dropCandidate_failsOnly _) fun _ => .bind (.demand _ _) fun _ => .ok _

/-- So does the sign of an item. -/
theorem pushEntry_failsOnly : FailsOnly p l.pushEntry :=
  .bind (.demand _ _) fun _ => .bind (dropCandidate_failsOnly _) fun _ => .ok _

/-- So does the sign of a key. -/
theorem pushKey_failsOnly : FailsOnly p l.pushKey :=
  .bind (.demand _ _) fun _ => .bind (dropCandidate_failsOnly _) fun _ => .ok _

/-- So does the sign of a value. -/
theorem pushValue_failsOnly : FailsOnly p l.pushValue := by
  unfold pushValue
  split
  · exact .ok _
  · exact .bind (.demand _ _) fun _ => .bind (dropCandidate_failsOnly _) fun _ => .ok _

/-- So does the token of a block scalar. -/
theorem pushBlockScalar_failsOnly : FailsOnly p l.pushBlockScalar :=
  .bind (dropCandidate_failsOnly _) fun _ =>
    .bind (scanBlockScalar_failsOnly _ _) fun _ => .ok _

/-- So does the token of a plain scalar. -/
theorem pushPlain_failsOnly : FailsOnly p l.pushPlain :=
  .bind (saveCandidate_failsOnly _) fun _ => .ok _

end States

/-- **Adding a token that is well formed fails only for an escape or a version.** -/
theorem pushToken_failsOnly (l : Lexer) (ch : Char) :
    FailsOnly Fault.IsOfToken (l.pushToken ch) := by
  have hname (t : String → Token) : FailsOnly Fault.IsOfToken (l.pushNode fun c => do
      let name ← scanAnchorName c
      return (t name.1, name.2)) :=
    pushNode_failsOnly l fun _ => .bind (scanAnchorName_failsOnly _) fun _ => .ok _
  refine .ite ?_ (.ite ?_ (.ite ?_ ?_))
  · exact .bind (reset_failsOnly _) fun _ => .bind (scanDirective_failsOnly _) fun _ => .ok _
  · exact .bind (reset_failsOnly _) fun _ => .ok _
  · exact .bind (reset_failsOnly _) fun _ => .ok _
  refine .ite (openFlow_failsOnly _ _) (.ite (openFlow_failsOnly _ _) (.ite (closeFlow_failsOnly _ _)
    (.ite (closeFlow_failsOnly _ _) ?_)))
  refine .ite (.bind (dropCandidate_failsOnly _) fun _ => .ok _) (.ite (pushEntry_failsOnly _)
    (.ite (pushKey_failsOnly _) (.ite (pushValue_failsOnly _) ?_)))
  refine .ite (hname .reference) (.ite (hname .anchor) (.ite (pushNode_failsOnly _ scanTag_failsOnly)
    (.ite (pushBlockScalar_failsOnly _) ?_)))
  exact .ite (pushNode_failsOnly _ scanQuoted_failsOnly) (.ite (pushPlain_failsOnly _) (.malformed _))

/-- A run of the lexer ends for what its tokens fail for, by induction on the fuel. -/
theorem run_fault {fuel : Nat} {l : Lexer} {fault : Fault} (h : (run fuel l).2 = some fault) :
    fault.IsAdmitted Fault.IsOfToken := by
  induction fuel generalizing l with
  | zero =>
    obtain rfl := Option.some.inj h
    exact .inl ⟨_, rfl⟩
  | succ fuel ih =>
    rw [run] at h
    split at h
    · rename_i f hsettle
      obtain rfl := Option.some.inj h
      exact settle_failsOnly l f hsettle
    · rename_i l₁ hsettle
      split at h
      · split at h
        · cases h
        · rename_i f hreset
          obtain rfl := Option.some.inj h
          exact reset_failsOnly l₁ f hreset
      · split at h
        · exact ih h
        · rename_i f hpush
          obtain rfl := Option.some.inj h
          exact pushToken_failsOnly l₁ _ f hpush

end Lexer

/-- **Cutting a text into tokens fails only where it is malformed, for an escape or for a version.** -/
theorem Token.ofText_fault {s : List Char} {fault : Fault} (h : (ofText s).2 = some fault) :
    fault.IsAdmitted Fault.IsOfToken :=
  Lexer.run_fault h

end Yaml
end LogBalancer
