/-
# Tokens of a YAML text

The units that a text is cut into.  Indentation shows in the tokens: a block collection is
opened by a start token where a deeper column begins and closed by `blockEnd`.
-/

namespace LogBalancer
namespace Yaml

/-- A line that starts with a percent sign. -/
inductive Directive
  | version (major minor : Nat)
  /-- `handle` stands for `start` in the tags of the document. -/
  | tagHandle (handle start : String)
  | reserved
  deriving DecidableEq, Repr

/-- A token. -/
inductive Token
  | directive (d : Directive)
  | documentStart
  | documentEnd
  | streamEnd
  | blockSequenceStart
  | blockMappingStart
  | blockEnd
  | flowSequenceStart
  | flowSequenceEnd
  | flowMappingStart
  | flowMappingEnd
  | flowEntry
  | blockEntry
  | key
  | value
  | reference (name : String)
  | anchor (name : String)
  /-- A tag: a suffix, after what the handle stands for if there is one. -/
  | tag (handle : Option String) (suffix : String)
  /-- A scalar; `plain` if it has no quotes and no block header. -/
  | scalar (text : String) (plain : Bool)
  deriving DecidableEq, Repr

end Yaml
end LogBalancer
