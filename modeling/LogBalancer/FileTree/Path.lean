/-
# Paths

A path is a list of names, from a root or from the current directory.  Names are separated by
slashes; empty names and single dots are left out, two dots are kept.  The text of a path is in
this form, and the path without names is a single dot.
-/

namespace LogBalancer

/-- A path.  `root` is empty for a path from the current directory; otherwise it is one slash, or
two where the text started with exactly two. -/
structure Path where
  root : String := ""
  names : List String := []
  deriving DecidableEq, Repr

namespace Path

/-- The names between the slashes of a text. -/
def split : List Char → List (List Char)
  | [] => [[]]
  | c :: s =>
    if c = '/' then [] :: split s
    else match split s with
      | [] => [[c]]
      | n :: ns => (c :: n) :: ns

/-- The root of a text. -/
def rootOf : List Char → String
  | '/' :: '/' :: '/' :: _ => "/"
  | '/' :: '/' :: _ => "//"
  | '/' :: _ => "/"
  | _ => ""

/-- The path of a text. -/
def ofString (s : String) : Path where
  root := rootOf s.toList
  names := ((split s.toList).filter fun n => n != [] && n != ['.']).map String.ofList

/-- The text of a path. -/
def toString (p : Path) : String :=
  let text := p.root ++ "/".intercalate p.names
  if text.isEmpty then "." else text

/-- The path without its last name; a path without names stays. -/
def parent (p : Path) : Path := { p with names := p.names.dropLast }

/-- The path of a name in the directory of a path. -/
def child (p : Path) (name : String) : Path := { p with names := p.names ++ [name] }

/-- Whether a path is from a root. -/
def isAbsolute (p : Path) : Bool := !p.root.isEmpty

/-- Whether the text of a path holds the character NUL, which no file name does. -/
def holdsNul (p : Path) : Bool := p.names.any fun n => n.toList.contains '\x00'

end Path
end LogBalancer
