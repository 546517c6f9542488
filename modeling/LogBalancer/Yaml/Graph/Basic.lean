/-
# The nodes of a document

A document is a graph: nodes are numbered in the order in which they start, and a collection
refers to its parts by number.  An alias is a second reference to one node, so a node can be
shared, and a collection can be a part of itself.

Whoever reads a document follows the references from node to node by calls within calls, of which
only so many can be open at a time.  How many is the depth of the reader; a document that needs
more cannot be read.
-/

import LogBalancer.Yaml.Tag

namespace LogBalancer
namespace Yaml

/-- What a node holds. -/
inductive Content
  | scalar (text : List Char)
  | sequence (items : List Nat)
  | mapping (entries : List (Nat × Nat))
  deriving DecidableEq, Repr

/-- A node. -/
structure Node where
  tag : Tag
  content : Content
  deriving DecidableEq, Repr

/-- The number of calls that a reader can usually have open. -/
def usualDepth : Nat := 980

/-- A document with its root, in the hands of a reader. -/
structure Graph where
  nodes : Array Node
  root : Nat
  /-- The number of calls that the reader can have open. -/
  depth : Nat := usualDepth

/-- The node of a number; a number without a node counts as null. -/
def Graph.node (g : Graph) (i : Nat) : Node :=
  g.nodes.getD i ⟨.null, .scalar []⟩

end Yaml
end LogBalancer
