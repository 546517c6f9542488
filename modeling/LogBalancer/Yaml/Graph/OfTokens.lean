/-
# From tokens to nodes

`Graph.ofTokens` builds the nodes of the one document that a text may hold.  A text without a
document has none; a second document is a fault.

The functions for nodes and collections call each other.  Each call takes one unit from a budget
that is larger than the number of calls any list of tokens can lead to, since between two
tokens there are at most four of them.

Apart from that, collections are only followed down to a level, since a reader has two calls open
for each collection around a node: one that reads the collection and one that reads its part.  A
document that goes deeper than half the depth of the reader ends the reading, whatever follows.
-/

import LogBalancer.Yaml.Graph.Basic
import LogBalancer.Yaml.Token.Lexer

namespace LogBalancer
namespace Yaml

/-- A document in the making. -/
structure Builder where
  tokens : List Token
  /-- What stops the reading where the tokens end. -/
  ending : Fault
  nodes : Array Node := #[]
  anchors : List (String × Nat) := []
  handles : List (String × String) := [("!", "!"), ("!!", Tag.standard)]

/-- A step of the making of a document. -/
abbrev Build (α : Type) := StateT Builder (Except Fault) α

namespace Build

/-- Stops at a broken rule. -/
def fail {α : Type} (rule : Rule) : Build α := fun _ => .error (.malformed rule)

/-- The next token. -/
def peek : Build Token := fun b =>
  match b.tokens with
  | [] => .error b.ending
  | t :: _ => .ok (t, b)

/-- Moves over the next token. -/
def skip : Build Unit := modify fun b => { b with tokens := b.tokens.tail }

/-- Moves over the next token if it is the given one. -/
def accept (t : Token) : Build Bool := do
  if (← peek) == t then
    skip
    return true
  else return false

/-- Moves over the next token, which must be the given one. -/
def expect (t : Token) : Build Unit := do
  unless ← accept t do fail .nesting

/-- Adds a node. -/
def add (n : Node) : Build Nat := fun b => .ok (b.nodes.size, { b with nodes := b.nodes.push n })

/-- Fills in what a node holds. -/
def fill (i : Nat) (content : Content) : Build Unit :=
  modify fun b => { b with nodes := b.nodes.modify i fun n => { n with content := content } }

/-- Names a node. -/
def name (anchor : Option String) (i : Nat) : Build Unit :=
  match anchor with
  | none => pure ()
  | some a => modify fun b => { b with anchors := (a, i) :: b.anchors }

/-- Goes down into a collection, if there are levels left to go, and gives those left in it. -/
def down (levels : Nat) : Build Nat := fun b =>
  match levels with
  | 0 => .error .tooDeep
  | left + 1 => .ok (left, b)

/-- The node for nothing. -/
def addEmpty : Build Nat := add ⟨.null, .scalar []⟩

/-- The text of a tag. -/
def tagName (handle : Option String) (suffix : String) : Build String := do
  match handle with
  | none => return suffix
  | some h =>
    match (← get).handles.lookup h with
    | some start => return start ++ suffix
    | none => fail .tags

/-- Reads an anchor if there is one. -/
def anchor? : Build (Option String) := do
  match ← peek with
  | .anchor a =>
    skip
    return some a
  | _ => return none

/-- Reads a tag if there is one. -/
def tag? : Build (Option (Option String × String)) := do
  match ← peek with
  | .tag handle suffix =>
    skip
    return some (handle, suffix)
  | _ => return none

/-- The properties of a node: an anchor and a tag in either order. -/
def properties : Build (Option String × Option String) := do
  let (anchor, tag) ← do
    match ← anchor? with
    | some a => pure (some a, ← tag?)
    | none =>
      match ← tag? with
      | some t => pure (← anchor?, some t)
      | none => pure (none, none)
  let tag ← tag.mapM fun (handle, suffix) => tagName handle suffix
  return (anchor, tag)

/-- Fails if an anchor is taken. -/
def checkAnchor (anchor : Option String) : Build Unit := do
  match anchor with
  | none => return
  | some a => if ((← get).anchors.lookup a).isSome then fail .references

/-- The node that an alias refers to. -/
def resolve (anchor : String) : Build Nat := do
  match (← get).anchors.lookup anchor with
  | some i => return i
  | none => fail .references

/-- Adds a scalar. -/
def addScalar (anchor tag : Option String) (plain : Bool) (text : String) : Build Nat := do
  let s := text.toList
  let i ← add ⟨Tag.ofScalar tag plain s, .scalar s⟩
  name anchor i
  return i

mutual

/-- Reads a node with `levels` levels left to go down.  `block` allows block collections, `entries` a
list of entries at the column of the mapping around it. -/
def node (block entries : Bool) (levels : Nat) : Nat → Build Nat
  | 0 => fail .nesting
  | budget + 1 => do
    match ← peek with
    | .reference a =>
      skip
      resolve a
    | _ =>
      let (anchor, tag) ← properties
      let collection (otherwise : Tag) (empty : Content) (read : Nat → Build Content) :
          Build Nat := do
        checkAnchor anchor
        let below ← down levels
        let i ← add ⟨Tag.ofCollection tag otherwise, empty⟩
        name anchor i
        fill i (← read below)
        return i
      let sequence (read : Nat → Build (List Nat)) : Build Nat :=
        collection .list (.sequence []) fun below => do return .sequence (← read below)
      let mapping (read : Nat → Build (List (Nat × Nat))) : Build Nat :=
        collection .mapping (.mapping []) fun below => do return .mapping (← read below)
      match ← peek with
      | .scalar text plain =>
        skip
        checkAnchor anchor
        addScalar anchor tag plain text
      | .flowSequenceStart =>
        skip
        sequence fun below => flowItems true below budget
      | .flowMappingStart =>
        skip
        mapping fun below => flowEntries true below budget
      | t =>
        if entries && t == .blockEntry then sequence fun below => plainItems below budget
        else if block && t == .blockSequenceStart then do
          skip
          sequence fun below => blockItems below budget
        else if block && t == .blockMappingStart then do
          skip
          mapping fun below => blockEntries below budget
        else if anchor.isSome || tag.isSome then do
          checkAnchor anchor
          addScalar anchor tag true ""
        else fail .nesting
termination_by structural budget => budget

/-- A node, or the node for nothing before one of the given tokens. -/
def nodeUnless (block entries : Bool) (stops : List Token) (levels : Nat) : Nat → Build Nat
  | 0 => fail .nesting
  | budget + 1 => do
    if stops.contains (← peek) then addEmpty else node block entries levels budget
termination_by structural budget => budget

/-- The items of a block list up to its end. -/
def blockItems (levels : Nat) : Nat → Build (List Nat)
  | 0 => fail .nesting
  | budget + 1 => do
    if ← accept .blockEntry then
      let item ← nodeUnless true false [.blockEntry, .blockEnd] levels budget
      return item :: (← blockItems levels budget)
    else
      expect .blockEnd
      return []
termination_by structural budget => budget

/-- The items of a list at the column of the mapping around it. -/
def plainItems (levels : Nat) : Nat → Build (List Nat)
  | 0 => fail .nesting
  | budget + 1 => do
    if ← accept .blockEntry then
      let item ← nodeUnless true false [.blockEntry, .key, .value, .blockEnd] levels budget
      return item :: (← plainItems levels budget)
    else return []
termination_by structural budget => budget

/-- The entries of a block mapping up to its end. -/
def blockEntries (levels : Nat) : Nat → Build (List (Nat × Nat))
  | 0 => fail .nesting
  | budget + 1 => do
    if ← accept .key then
      let stops : List Token := [.key, .value, .blockEnd]
      let key ← nodeUnless true true stops levels budget
      let value ←
        if ← accept .value then nodeUnless true true stops levels budget
        else addEmpty
      return (key, value) :: (← blockEntries levels budget)
    else
      expect .blockEnd
      return []
termination_by structural budget => budget

/-- The items of a list in brackets.  An item with a key is a mapping of one entry. -/
def flowItems (first : Bool) (levels : Nat) : Nat → Build (List Nat)
  | 0 => fail .nesting
  | budget + 1 => do
    if ← accept .flowSequenceEnd then return []
    unless first do expect .flowEntry
    if ← accept .key then
      let stops : List Token := [.flowEntry, .flowSequenceEnd]
      let below ← down levels
      let i ← add ⟨.mapping, .mapping []⟩
      let key ← nodeUnless false false (.value :: stops) below budget
      let value ←
        if ← accept .value then nodeUnless false false stops below budget
        else addEmpty
      fill i (.mapping [(key, value)])
      return i :: (← flowItems false levels budget)
    else if ← accept .flowSequenceEnd then return []
    else
      let item ← node false false levels budget
      return item :: (← flowItems false levels budget)
termination_by structural budget => budget

/-- The entries of a mapping in braces. -/
def flowEntries (first : Bool) (levels : Nat) : Nat → Build (List (Nat × Nat))
  | 0 => fail .nesting
  | budget + 1 => do
    if ← accept .flowMappingEnd then return []
    unless first do expect .flowEntry
    let stops : List Token := [.flowEntry, .flowMappingEnd]
    if ← accept .key then
      let key ← nodeUnless false false (.value :: stops) levels budget
      let value ←
        if ← accept .value then nodeUnless false false stops levels budget
        else addEmpty
      return (key, value) :: (← flowEntries false levels budget)
    else if ← accept .flowMappingEnd then return []
    else
      let key ← node false false levels budget
      let value ← addEmpty
      return (key, value) :: (← flowEntries false levels budget)
termination_by structural budget => budget

end

/-- Reads the directives of a document: at most one version, which is 1, and distinct handles. -/
def directives (version : Bool) (handles : List (String × String)) : Nat → Build Unit
  | 0 => fail .directives
  | budget + 1 => do
    match ← peek with
    | .directive d =>
      skip
      match d with
      | .version major _ =>
        if version || major != 1 then fail .directives
        directives true handles budget
      | .tagHandle handle start =>
        if (handles.lookup handle).isSome then fail .directives
        directives version ((handle, start) :: handles) budget
      | .reserved => directives version handles budget
    | _ => modify fun b => { b with handles := handles ++ b.handles }

/-- Moves over the marks that end a document. -/
def skipEnds : Nat → Build Unit
  | 0 => fail .nesting
  | budget + 1 => do if ← accept .documentEnd then skipEnds budget

/-- Reads the document of a text. -/
def document (levels budget : Nat) : Build (Option Nat) := do
  let root ←
    match ← peek with
    | .streamEnd => return none
    | .directive _ | .documentStart =>
      directives false [] budget
      expect .documentStart
      match ← peek with
      | .directive _ | .documentStart | .documentEnd | .streamEnd => addEmpty
      | _ => node true false levels budget
    | _ => node true false levels budget
  skipEnds budget
  expect .streamEnd
  return some root

end Build

/-- The document of a list of tokens, which `fault` has ended if there is one. -/
def Graph.ofTokens (depth : Nat) (tokens : List Token) (fault : Option Fault) :
    Except Fault (Option Graph) := do
  let start : Builder := { tokens := tokens, ending := fault.getD (.malformed .nesting) }
  let (root, b) ← (Build.document (depth / 2) (4 * tokens.length + 8)).run start
  return root.map fun r => ⟨b.nodes, r, depth⟩

/-- The document of a text, for a reader of a depth. -/
def Graph.ofText (depth : Nat) (s : List Char) : Except Fault (Option Graph) := do
  demand .characters (s.all isAllowed)
  let (tokens, fault) := Token.ofText s
  Graph.ofTokens depth tokens fault

end Yaml
end LogBalancer
