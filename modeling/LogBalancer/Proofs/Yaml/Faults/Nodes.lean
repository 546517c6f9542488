/-
# Faults among the nodes

Building the nodes of a document reads its tokens one after the other and fails where they end, with
the fault that has ended them.  Apart from malformed texts it has one fault of its own, which is that
the nodes nest too deeply (`Graph.ofTokens_failsOnly`).
-/

import LogBalancer.Proofs.Yaml.Faults.Tokens
import LogBalancer.Yaml.Graph.OfTokens

namespace LogBalancer
namespace Yaml

namespace Build

/-- Whether a step fails only for malformed texts and for faults with a property, if the fault that ends
the tokens is one of these. -/
structure Steady {α : Type} (p : Fault → Prop) (x : Build α) : Prop where
  failsOnly : ∀ b, b.ending.IsAdmitted p → FailsOnly p (x b)
  ending : ∀ b a b', x b = .ok (a, b') → b'.ending = b.ending

namespace Steady

variable {α β : Type} {p : Fault → Prop}

/-- A step that only gives a value is steady. -/
theorem pure (a : α) : Steady p (pure a) where
  failsOnly _ _ := .ok _
  ending _ _ _ h := by
    obtain ⟨-, rfl⟩ := Prod.mk.inj (Except.ok.inj h)
    rfl

/-- Two steady steps, one after the other, are steady. -/
theorem bind {x : Build α} {f : α → Build β} (hx : Steady p x) (hf : ∀ a, Steady p (f a)) :
    Steady p (x >>= f) where
  failsOnly b hb := by
    intro fault h
    cases hxb : x b with
    | error e =>
      simp only [Bind.bind, StateT.bind, Except.bind, hxb] at h
      obtain rfl := Except.error.inj h
      exact hx.failsOnly b hb e hxb
    | ok r =>
      simp only [Bind.bind, StateT.bind, Except.bind, hxb] at h
      refine (hf r.1).failsOnly r.2 ?_ fault h
      rw [hx.ending b r.1 r.2 hxb]
      exact hb
  ending b c b' h := by
    cases hxb : x b with
    | error e =>
      simp only [Bind.bind, StateT.bind, Except.bind, hxb] at h
      cases h
    | ok r =>
      simp only [Bind.bind, StateT.bind, Except.bind, hxb] at h
      rw [(hf r.1).ending r.2 c b' h, hx.ending b r.1 r.2 hxb]

/-- A choice between steady steps is steady. -/
theorem ite {c : Prop} [Decidable c] {x y : Build α} (hx : Steady p x) (hy : Steady p y) :
    Steady p (if c then x else y) := by
  split
  · exact hx
  · exact hy

/-- Stopping at a broken rule is steady. -/
theorem fail (rule : Rule) : Steady p (fail rule : Build α) where
  failsOnly _ _ := .malformed rule
  ending _ _ _ h := by cases h

/-- Looking at the builder is steady. -/
theorem get : Steady p (get : Build Builder) where
  failsOnly _ _ := .ok _
  ending _ _ _ h := by
    obtain ⟨-, rfl⟩ := Prod.mk.inj (Except.ok.inj h)
    rfl

/-- A change that keeps the ending is steady. -/
theorem modify {f : Builder → Builder} (hf : ∀ b, (f b).ending = b.ending) :
    Steady p (modify f : Build PUnit) where
  failsOnly _ _ := .ok _
  ending b _ _ h := by
    obtain ⟨-, rfl⟩ := Prod.mk.inj (Except.ok.inj h)
    exact hf b

/-- Looking at the next token is steady, since where the tokens end so does the text. -/
theorem peek : Steady p peek where
  failsOnly b hb := by
    intro fault h
    unfold Build.peek at h
    split at h
    · exact Except.error.inj h ▸ hb
    · cases h
  ending b _ _ h := by
    unfold Build.peek at h
    split at h
    · cases h
    · obtain ⟨-, rfl⟩ := Prod.mk.inj (Except.ok.inj h)
      rfl

/-- Adding a node is steady. -/
theorem add (n : Node) : Steady p (add n) where
  failsOnly _ _ := .ok _
  ending _ _ _ h := by
    obtain ⟨-, rfl⟩ := Prod.mk.inj (Except.ok.inj h)
    rfl

/-- Moving over a token is steady. -/
theorem skip : Steady p skip := modify fun _ => rfl

/-- Going down is steady, if nodes may nest too deeply. -/
theorem down (hdeep : p .tooDeep) (levels : Nat) : Steady p (down levels) where
  failsOnly b _ := by
    cases levels with
    | zero => exact .fault hdeep
    | succ left => exact .ok _
  ending b _ _ h := by
    cases levels with
    | zero => cases h
    | succ left =>
      obtain ⟨-, rfl⟩ := Prod.mk.inj (Except.ok.inj h)
      rfl

/-- Moving over a token that may be there is steady. -/
theorem accept (t : Token) : Steady p (accept t) :=
  bind peek fun _ => ite (bind skip fun _ => pure _) (pure _)

/-- Moving over a token that must be there is steady. -/
theorem expect (t : Token) : Steady p (expect t) :=
  bind (accept t) fun _ => ite (pure _) (fail _)

/-- Filling a node is steady. -/
theorem fill (i : Nat) (content : Content) : Steady p (fill i content) := modify fun _ => rfl

/-- Naming a node is steady. -/
theorem name (anchor : Option String) (i : Nat) : Steady p (name anchor i) := by
  cases anchor with
  | none => exact pure _
  | some a => exact modify fun _ => rfl

end Steady

variable {p : Fault → Prop}

/-- Finding the text of a tag is steady. -/
theorem tagName_steady (handle : Option String) (suffix : String) :
    Steady p (tagName handle suffix) := by
  unfold tagName
  split
  · exact .pure _
  · refine .bind .get fun b => ?_
    split
    · exact .pure _
    · exact .fail _

/-- Reading an anchor is steady. -/
theorem anchor?_steady : Steady p anchor? := by
  refine .bind .peek fun t => ?_
  split
  · exact .bind .skip fun _ => .pure _
  · exact .pure _

/-- Reading a tag is steady. -/
theorem tag?_steady : Steady p tag? := by
  refine .bind .peek fun t => ?_
  split
  · exact .bind .skip fun _ => .pure _
  · exact .pure _

/-- Reading the properties of a node is steady. -/
theorem properties_steady : Steady p properties := by
  have hend (anchor : Option String) (tag : Option (Option String × String)) : Steady p (do
      let tag ← tag.mapM fun t => tagName t.1 t.2
      return (anchor, tag)) := by
    refine .bind ?_ fun _ => .pure _
    cases tag with
    | none => exact .pure _
    | some t => exact .bind (tagName_steady t.1 t.2) fun _ => .pure _
  refine .bind anchor?_steady fun anchor => ?_
  split
  · exact .bind tag?_steady fun _ => hend _ _
  · refine .bind tag?_steady fun tag => ?_
    split
    · exact .bind anchor?_steady fun _ => hend _ _
    · exact .bind (.pure _) fun _ => hend _ _

/-- Looking whether an anchor is taken is steady. -/
theorem checkAnchor_steady (anchor : Option String) : Steady p (checkAnchor anchor) := by
  cases anchor with
  | none => exact .pure _
  | some a => exact .bind .get fun _ => .ite (.fail _) (.pure _)

/-- Following an alias is steady. -/
theorem resolve_steady (anchor : String) : Steady p (resolve anchor) := by
  refine .bind .get fun b => ?_
  split
  · exact .pure _
  · exact .fail _

/-- Adding a scalar is steady. -/
theorem addScalar_steady (anchor tag : Option String) (plain : Bool) (text : String) :
    Steady p (addScalar anchor tag plain text) :=
  .bind (.add _) fun _ => .bind (.name _ _) fun _ => .pure _

/-- The functions for nodes and collections with one budget. -/
structure NodesSteady (p : Fault → Prop) (budget : Nat) : Prop where
  node (block entries : Bool) (levels : Nat) : Steady p (node block entries levels budget)
  nodeUnless (block entries : Bool) (stops : List Token) (levels : Nat) :
    Steady p (nodeUnless block entries stops levels budget)
  blockItems (levels : Nat) : Steady p (blockItems levels budget)
  plainItems (levels : Nat) : Steady p (plainItems levels budget)
  blockEntries (levels : Nat) : Steady p (blockEntries levels budget)
  flowItems (first : Bool) (levels : Nat) : Steady p (flowItems first levels budget)
  flowEntries (first : Bool) (levels : Nat) : Steady p (flowEntries first levels budget)

namespace NodesSteady

variable {budget : Nat} (h : NodesSteady p budget)
include h

/-- A node is read steadily, if what is in it is. -/
theorem succ_node (hdeep : p .tooDeep) (block entries : Bool) (levels : Nat) :
    Steady p (Build.node block entries levels (budget + 1)) := by
  rw [Build.node]
  refine .bind .peek fun t => ?_
  split
  · exact .bind .skip fun _ => resolve_steady _
  refine .bind properties_steady fun properties => ?_
  obtain ⟨anchor, tag⟩ := properties
  have hcollection (otherwise : Tag) (empty : Content) (read : Nat → Build Content)
      (hread : ∀ below, Steady p (read below)) : Steady p (do
        checkAnchor anchor
        let below ← Build.down levels
        let i ← Build.add ⟨Tag.ofCollection tag otherwise, empty⟩
        Build.name anchor i
        Build.fill i (← read below)
        return i) :=
    .bind (checkAnchor_steady _) fun _ => .bind (.down hdeep _) fun _ => .bind (.add _) fun _ =>
      .bind (.name _ _) fun _ => .bind (hread _) fun _ => .bind (.fill _ _) fun _ => .pure _
  have hsequence {read : Nat → Build (List Nat)} (hread : ∀ below, Steady p (read below)) :=
    hcollection .list (.sequence []) (fun below => do return .sequence (← read below))
      fun below => .bind (hread below) fun _ => .pure _
  have hmapping {read : Nat → Build (List (Nat × Nat))} (hread : ∀ below, Steady p (read below)) :=
    hcollection .mapping (.mapping []) (fun below => do return .mapping (← read below))
      fun below => .bind (hread below) fun _ => .pure _
  refine .bind .peek fun t => ?_
  split
  · exact .bind .skip fun _ => .bind (checkAnchor_steady _) fun _ => addScalar_steady _ _ _ _
  · exact .bind .skip fun _ => hsequence (h.flowItems true)
  · exact .bind .skip fun _ => hmapping (h.flowEntries true)
  · refine .ite (hsequence h.plainItems) (.ite ?_ (.ite ?_ (.ite ?_ (.fail _))))
    · exact .bind .skip fun _ => hsequence h.blockItems
    · exact .bind .skip fun _ => hmapping h.blockEntries
    · exact .bind (checkAnchor_steady _) fun _ => addScalar_steady _ _ _ _

/-- A node that may be missing is read steadily, if one that is there is. -/
theorem succ_nodeUnless (block entries : Bool) (stops : List Token) (levels : Nat) :
    Steady p (Build.nodeUnless block entries stops levels (budget + 1)) :=
  .bind .peek fun _ => .ite (.add _) (h.node _ _ _)

/-- The items of a block list are read steadily, if each one is and those after it are. -/
theorem succ_blockItems (levels : Nat) : Steady p (Build.blockItems levels (budget + 1)) :=
  .bind (.accept _) fun _ => .ite
    (.bind (h.nodeUnless _ _ _ _) fun _ => .bind (h.blockItems _) fun _ => .pure _)
    (.bind (.expect _) fun _ => .pure _)

/-- So are those of a list at the column of the mapping around it. -/
theorem succ_plainItems (levels : Nat) : Steady p (Build.plainItems levels (budget + 1)) :=
  .bind (.accept _) fun _ => .ite
    (.bind (h.nodeUnless _ _ _ _) fun _ => .bind (h.plainItems _) fun _ => .pure _) (.pure _)

/-- The value of an entry, and what follows it. -/
theorem entry_steady {α : Type} (block entries : Bool) (stops : List Token) (levels : Nat)
    {rest : Nat → Build α} (hrest : ∀ value, Steady p (rest value)) : Steady p (do
      let value ←
        if ← Build.accept .value then Build.nodeUnless block entries stops levels budget
        else addEmpty
      rest value) :=
  .bind (.accept _) fun _ => .ite (.bind (h.nodeUnless _ _ _ _) hrest) (.bind (.add _) hrest)

/-- The entries of a block mapping are read steadily, if each one is and those after it are. -/
theorem succ_blockEntries (levels : Nat) : Steady p (Build.blockEntries levels (budget + 1)) :=
  .bind (.accept _) fun _ => .ite
    (.bind (h.nodeUnless _ _ _ _) fun _ =>
      h.entry_steady _ _ _ _ fun _ => .bind (h.blockEntries _) fun _ => .pure _)
    (.bind (.expect _) fun _ => .pure _)

/-- The items of a list in brackets are read steadily, one with a key among them. -/
theorem succ_flowItems (hdeep : p .tooDeep) (first : Bool) (levels : Nat) :
    Steady p (Build.flowItems first levels (budget + 1)) := by
  have hitems : Steady p (do
      if ← Build.accept .key then
        let stops : List Token := [.flowEntry, .flowSequenceEnd]
        let below ← Build.down levels
        let i ← Build.add ⟨.mapping, .mapping []⟩
        let key ← Build.nodeUnless false false (.value :: stops) below budget
        let value ←
          if ← Build.accept .value then Build.nodeUnless false false stops below budget
          else addEmpty
        Build.fill i (.mapping [(key, value)])
        return i :: (← Build.flowItems false levels budget)
      else if ← Build.accept .flowSequenceEnd then return []
      else
        let item ← Build.node false false levels budget
        return item :: (← Build.flowItems false levels budget)) := by
    refine .bind (.accept _) fun _ => .ite ?_ ?_
    · refine .bind (.down hdeep _) fun _ => .bind (.add _) fun _ => ?_
      refine .bind (h.nodeUnless _ _ _ _) fun _ => ?_
      exact h.entry_steady _ _ _ _ fun _ => .bind (.fill _ _) fun _ =>
        .bind (h.flowItems false _) fun _ => .pure _
    · refine .bind (.accept _) fun _ => .ite (.pure _) ?_
      exact .bind (h.node _ _ _) fun _ => .bind (h.flowItems false _) fun _ => .pure _
  refine .bind (.accept _) fun _ => .ite (.pure _) (.ite hitems ?_)
  exact .bind (.expect _) fun _ => hitems

/-- The entries of a mapping in braces are read steadily. -/
theorem succ_flowEntries (first : Bool) (levels : Nat) :
    Steady p (Build.flowEntries first levels (budget + 1)) := by
  have hentries : Steady p (do
      let stops : List Token := [.flowEntry, .flowMappingEnd]
      if ← Build.accept .key then
        let key ← Build.nodeUnless false false (.value :: stops) levels budget
        let value ←
          if ← Build.accept .value then Build.nodeUnless false false stops levels budget
          else addEmpty
        return (key, value) :: (← Build.flowEntries false levels budget)
      else if ← Build.accept .flowMappingEnd then return []
      else
        let key ← Build.node false false levels budget
        let value ← addEmpty
        return (key, value) :: (← Build.flowEntries false levels budget)) := by
    refine .bind (.accept _) fun _ => .ite ?_ ?_
    · refine .bind (h.nodeUnless _ _ _ _) fun _ => ?_
      exact h.entry_steady _ _ _ _ fun _ => .bind (h.flowEntries false _) fun _ => .pure _
    · refine .bind (.accept _) fun _ => .ite (.pure _) ?_
      exact .bind (h.node _ _ _) fun _ => .bind (.add _) fun _ =>
        .bind (h.flowEntries false _) fun _ => .pure _
  refine .bind (.accept _) fun _ => .ite (.pure _) (.ite hentries ?_)
  exact .bind (.expect _) fun _ => hentries

end NodesSteady

/-- **Nodes are read steadily**, by induction on the budget for all of their functions at once. -/
theorem nodesSteady (hdeep : p .tooDeep) (budget : Nat) : NodesSteady p budget := by
  induction budget with
  | zero =>
    exact ⟨fun _ _ _ => .fail _, fun _ _ _ _ => .fail _, fun _ => .fail _, fun _ => .fail _,
      fun _ => .fail _, fun _ _ => .fail _, fun _ _ => .fail _⟩
  | succ budget ih =>
    exact ⟨ih.succ_node hdeep, ih.succ_nodeUnless, ih.succ_blockItems, ih.succ_plainItems,
      ih.succ_blockEntries, ih.succ_flowItems hdeep, ih.succ_flowEntries⟩

/-- Directives are read steadily. -/
theorem directives_steady (version : Bool) (handles : List (String × String)) (budget : Nat) :
    Steady p (directives version handles budget) := by
  induction budget generalizing version handles with
  | zero => exact .fail _
  | succ budget ih =>
    refine .bind .peek fun t => ?_
    split
    · refine .bind .skip fun _ => ?_
      split
      · exact .ite (.bind (.fail _) fun _ => ih _ _) (ih _ _)
      · exact .ite (.bind (.fail _) fun _ => ih _ _) (ih _ _)
      · exact ih _ _
    · exact .modify fun _ => rfl

/-- Moving over the ends of a document is steady. -/
theorem skipEnds_steady (budget : Nat) : Steady p (skipEnds budget) := by
  induction budget with
  | zero => exact .fail _
  | succ budget ih => exact .bind (.accept _) fun _ => .ite ih (.pure _)

/-- **A document is read steadily.** -/
theorem document_steady (hdeep : p .tooDeep) (levels budget : Nat) : Steady p (document levels budget) := by
  have hend (root : Nat) : Steady p (do
      skipEnds budget
      expect .streamEnd
      return some root) :=
    .bind (skipEnds_steady _) fun _ => .bind (.expect _) fun _ => .pure _
  have hnode : Steady p (do
      let root ← node true false levels budget
      skipEnds budget
      expect .streamEnd
      return some root) :=
    .bind ((nodesSteady hdeep budget).node _ _ _) hend
  refine .bind .peek fun t => ?_
  split
  · exact .pure _
  rotate_left 2
  · exact hnode
  -- explicit documents, with directives or without
  all_goals
    refine .bind (directives_steady _ _ _) fun _ => .bind (.expect _) fun _ => ?_
    refine .bind .peek fun t => ?_
    split
    all_goals first | exact .bind (.add _) hend | exact hnode

end Build

/-- **Building the nodes adds no fault** to the one that ends the tokens but that they nest too
deeply. -/
theorem Graph.ofTokens_failsOnly {p : Fault → Prop} (hdeep : p .tooDeep) (depth : Nat)
    {tokens : List Token} {fault : Option Fault} (h : ∀ f, fault = some f → f.IsAdmitted p) :
    FailsOnly p (Graph.ofTokens depth tokens fault) := by
  refine .bind ((Build.document_steady hdeep _ _).failsOnly _ ?_) fun _ => .ok _
  cases fault with
  | none => exact .inl ⟨_, rfl⟩
  | some f => exact h f rfl

/-- **A well-formed text gets no nodes only for a fault of its tokens, or if they nest too deeply.** -/
theorem Graph.ofText_failsOnly (depth : Nat) (s : List Char) :
    FailsOnly (fun fault => fault.IsOfToken ∨ fault = .tooDeep) (Graph.ofText depth s) :=
  .bind (.demand _ _) fun _ => Graph.ofTokens_failsOnly (.inr rfl) depth fun _ h =>
    (Token.ofText_fault h).imp_right .inl

end Yaml
end LogBalancer
