/-
# From nodes to values

What a document stands for.  Every node has one value, wherever it is referred to.

Faults are looked for level by level (`Graph.firstFault?`): the root is made, then the parts of
each collection in the order in which the collections were made.  Making a scalar reads its
text; making a collection checks its tag, and its shape is checked when its parts are made.

Two chains of references are followed by calls within calls: from a scalar through default entries
to its text, and from a mapping through merge keys to the mappings that it names.  A chain that is
longer than the reader is deep ends the reading; so does one of default entries that leads back to
its start.  Merge keys are resolved once and for all, and no call goes on from a mapping that has
none left.

Values are built after that, from the parts up.  A collection that contains itself has a value
without end.  It is approached in rounds: inside itself it stands for its value of the round
before, and in the first round for nothing.  After `rounds` rounds no record looks any deeper.
-/

import LogBalancer.Text.Base64
import LogBalancer.Yaml.Graph.OfTokens
import LogBalancer.Yaml.Number

namespace LogBalancer
namespace Yaml
namespace Graph

/-- The text of a scalar, for a reader of a depth.  A mapping with a default entry stands for the
scalar in it. -/
def scalarText (g : Graph) : Nat → Nat → Except Fault (List Char)
  | 0, _ => .error .tooDeep
  | depth + 1, i =>
    match (g.node i).content with
    | .scalar s => .ok s
    | .mapping entries =>
      match entries.find? fun (k, _) => (g.node k).tag == .default_ with
      | some (_, v) => g.scalarText depth v
      | none => .error (.malformed .types)
    | .sequence _ => .error (.malformed .types)

/-- The spellings of a flag in lower case. -/
def flagWords : List (String × Bool) :=
  [("yes", true), ("no", false), ("true", true), ("false", false), ("on", true), ("off", false)]

/-- The value of a scalar as a flag. -/
def flagValue (s : List Char) : Except Misfit Bool :=
  let word := Text.lower (String.ofList s)
  match flagWords.lookup word with
  | some b => .ok b
  | none => .error (.flag word)

/-- A misfit as a fault. -/
def fitting {α : Type} (x : Except Misfit α) : Except Fault α := x.mapError .misfit

/-- The value of a node of a scalar type.  `none` for the types of collections. -/
def scalarValue? (g : Graph) (i : Nat) : Except Fault (Option Value) := do
  let text := g.scalarText g.depth i
  match (g.node i).tag with
  | .null => let _ ← text; return some .null
  | .flag => return some (.flag (← fitting (flagValue (← text))))
  | .int => return some (.int (← fitting (Number.integer (← text))))
  | .float => return some (.float (← fitting (Number.float (← text))))
  | .text => return some (.text (String.ofList (← text)))
  | .binary =>
    let s ← text
    demand .types (s.all fun c => c.toNat < 0x80)
    match Text.base64Decode s with
    | some octets => return some (.bytes octets)
    | none => throw (.malformed .types)
  | .timestamp =>
    let s ← text
    let s := if s.getLast? == some '\n' then s.dropLast else s
    match Timestamp.ofChars? s with
    | some t => return some (← fitting t.value)
    | none => throw (.misfit .timestamp)
  | .merge | .default_ | .unknown _ => throw (.malformed .types)
  | .orderedMap | .pairs | .set | .list | .mapping => return none

/-- Whether a node is the sign of a merge key. -/
def isMerge (g : Graph) (k : Nat) : Bool := (g.node k).tag == .merge

/-- The entries of a mapping without its merge keys.  The mappings that these name come first: of
several merge keys the last one's last, of a list of mappings the first one's last, so that the
entries that count come later.  `open_` are the mappings on the way here, which add nothing
more.  Of `depth` calls one is taken for each mapping up to one whose merge keys are `resolved`. -/
def flatten (g : Graph) (resolved : Nat → Bool) :
    Nat → Nat → List Nat → Nat → Except Fault (List (Nat × Nat))
  | 0, _, _, _ => .error (.malformed .mergeKeys)
  | fuel + 1, depth, open_, i =>
    match (g.node i).content with
    | .mapping entries => do
      if depth = 0 then throw .tooDeep
      let own := entries.filter fun (k, _) => !g.isMerge k
      if open_.contains i then return own
      let depth := if resolved i then fuel else depth - 1
      let merged ← (entries.filter fun (k, _) => g.isMerge k).mapM fun (_, v) =>
        match (g.node v).content with
        | .mapping _ => g.flatten resolved fuel depth (i :: open_) v
        | .sequence items => do
          let lists ← items.mapM (g.flatten resolved fuel depth (i :: open_))
          return lists.reverse.flatten
        | .scalar _ => .error (.malformed .mergeKeys)
      return merged.flatten ++ own
    | _ => .error (.malformed .mergeKeys)

/-- The nodes that the merge keys of a mapping name. -/
def mergeTargets (g : Graph) (i : Nat) : List Nat :=
  match (g.node i).content with
  | .mapping entries => (entries.filter fun (k, _) => g.isMerge k).flatMap fun (_, v) =>
      match (g.node v).content with
      | .sequence items => items
      | _ => [v]
  | _ => []

/-- Adds a node to those whose merge keys are resolved, with all nodes that these name. -/
def resolve (g : Graph) : Nat → Array Bool → Nat → Array Bool
  | 0, resolved, _ => resolved
  | fuel + 1, resolved, i =>
    if resolved.getD i true then resolved
    else (g.mergeTargets i).foldl (g.resolve fuel) (resolved.setIfInBounds i true)

/-- The entries of a node that is read as a mapping. -/
def entries (g : Graph) (resolved : Nat → Bool) (i : Nat) : Except Fault (List (Nat × Nat)) :=
  match (g.node i).content with
  | .mapping _ => g.flatten resolved (g.nodes.size + 2) g.depth [] i
  | _ => .error (.malformed .types)

/-- The entries of a node once all merge keys are resolved; none if it is no mapping. -/
def resolvedEntries (g : Graph) (i : Nat) : List (Nat × Nat) :=
  (g.flatten (fun _ => true) (g.nodes.size + 2) (g.nodes.size + 2) [] i).toOption.getD []

/-- The items of a node that is read as a list. -/
def items (g : Graph) (i : Nat) : Except Fault (List Nat) :=
  match (g.node i).content with
  | .sequence items => .ok items
  | _ => .error (.malformed .types)

/-- The key and value of a node that is read as a pair: a mapping of one entry. -/
def pair (g : Graph) (i : Nat) : Except Fault (Nat × Nat) :=
  match (g.node i).content with
  | .mapping [entry] => .ok entry
  | _ => .error (.malformed .types)

/-- Whether the value of a node can be a key. -/
def isKey (g : Graph) (i : Nat) : Bool :=
  match (g.node i).tag with
  | .orderedMap | .pairs | .set | .list | .mapping => false
  | _ => true

/-! ### Faults -/

/-- The nodes made so far, the collections whose parts are not made yet, and the nodes whose merge
keys are resolved. -/
structure Survey where
  made : Array Bool
  waiting : List Nat
  resolved : Array Bool

/-- Makes a node.  As the key of a mapping, the sign of a default entry is a text. -/
def make (g : Graph) (i : Nat) (asKey : Bool) (s : Survey) : Except Fault Survey := do
  if s.made.getD i true then return s
  let s := { s with made := s.made.setIfInBounds i true }
  if asKey && (g.node i).tag == .default_ then return s
  match ← g.scalarValue? i with
  | some _ => return s
  | none => return { s with waiting := i :: s.waiting }

/-- Makes the key and the value of an entry. -/
def makeEntry (g : Graph) (s : Survey) (entry : Nat × Nat) : Except Fault Survey := do
  let s ← g.make entry.1 true s
  demand .keys (g.isKey entry.1)
  g.make entry.2 false s

/-- Makes the parts of a collection. -/
def makeParts (g : Graph) (s : Survey) (i : Nat) : Except Fault Survey := do
  match (g.node i).tag with
  | .list => (← g.items i).foldlM (fun s part => g.make part false s) s
  | .mapping | .set =>
    let entries ← g.entries (s.resolved.getD · true) i
    entries.foldlM g.makeEntry { s with resolved := g.resolve g.nodes.size s.resolved i }
  | _ =>
    (← g.items i).foldlM (fun s part => do
      let (key, value) ← g.pair part
      g.make value false (← g.make key false s)) s

/-- Makes the parts of all waiting collections, level by level. -/
def makeLevels (g : Graph) : Nat → Survey → Except Fault Unit
  | 0, _ => .ok ()
  | fuel + 1, s =>
    match s.waiting with
    | [] => .ok ()
    | waiting => do
      let s ← waiting.reverse.foldlM g.makeParts { s with waiting := [] }
      g.makeLevels fuel s

/-- The first fault of a document. -/
def firstFault? (g : Graph) : Except Fault Unit := do
  let none_ := Array.replicate g.nodes.size false
  let s ← g.make g.root false ⟨none_, [], none_⟩
  g.makeLevels (g.nodes.size + 1) s

/-! ### Values -/

/-- The values known so far in a round. -/
structure Known where
  /-- The values of the round before. -/
  before : Array Value
  values : Array (Option Value)
  /-- The collections whose values are being built. -/
  open_ : List Nat
  /-- Whether a collection was met inside itself. -/
  circular : Bool

/-- A collection without parts. -/
def emptyOf : Tag → Value
  | .mapping => .mapping []
  | .set => .set []
  | _ => .list []

/-- Adds a key to a set. -/
def addKey (items : List Value) (key : Value) : List Value :=
  if items.any (Value.sameKey · key) then items else items ++ [key]

mutual

/-- The value of a node. -/
def build (g : Graph) : Nat → Nat → StateM Known Value
  | 0, _ => return .null
  | fuel + 1, i => do
    let k ← get
    match k.values.getD i none with
    | some v => return v
    | none =>
      if k.open_.contains i then
        set { k with circular := true }
        return k.before.getD i .null
      else
        let v ←
          match g.scalarValue? i with
          | .ok (some v) => pure v
          | .error _ => pure (.text "=")
          | .ok none => do
            set { k with open_ := i :: k.open_ }
            let v ← buildParts g fuel i
            modify fun k => { k with open_ := k.open_.tail }
            pure v
        modify fun k => { k with values := k.values.setIfInBounds i (some v) }
        return v

/-- The value of a collection. -/
def buildParts (g : Graph) : Nat → Nat → StateM Known Value
  | 0, _ => return .null
  | fuel + 1, i => do
    match (g.node i).tag with
    | .list =>
      let parts ← ((g.items i).toOption.getD []).mapM (g.build fuel)
      return .list parts
    | .mapping =>
      let parts ← (g.resolvedEntries i).mapM fun (k, v) => do
        return (← g.build fuel k, ← g.build fuel v)
      return .mapping (parts.foldl (fun es (k, v) => Value.insert k v es) [])
    | .set =>
      let keys ← (g.resolvedEntries i).mapM fun (k, v) => do
        let key ← g.build fuel k
        let _ ← g.build fuel v
        return key
      return .set (keys.foldl addKey [])
    | _ =>
      let parts ← ((g.items i).toOption.getD []).mapM fun part => do
        match g.pair part with
        | .ok (k, v) => return .pair (← g.build fuel k) (← g.build fuel v)
        | .error _ => return .null
      return .list parts

end

/-- The number of rounds in which values without end are approached. -/
def rounds : Nat := 8

/-- The value of the root after some rounds, given the values of the round before. -/
def approach (g : Graph) : Nat → Array Value → Value
  | 0, before => before.getD g.root .null
  | n + 1, before =>
    let start : Known := ⟨before, Array.replicate g.nodes.size none, [], false⟩
    let (v, k) := (g.build (2 * g.nodes.size + 2) g.root).run start
    if k.circular then
      g.approach n (k.values.mapIdx fun i v => v.getD (before.getD i .null))
    else v

/-- The value of a document. -/
def toValue (g : Graph) : Except Fault Value := do
  g.firstFault?
  return g.approach rounds (g.nodes.map fun n => emptyOf n.tag)

end Graph

/-- The value of the document that a text holds, for a reader of a depth; null if it holds none. -/
def read (depth : Nat) (s : List Char) : Except Fault Value := do
  match ← Graph.ofText depth s with
  | some g => g.toValue
  | none => return .null

end Yaml
end LogBalancer
