/-
# Looking at files

How a path leads to a location, and what can be asked about it.  `FileTree.follow` goes down
from a directory name by name; every name but the last must lead to a directory, two dots lead
to the directory above, and a name of more than 255 octets is refused.  Nothing changes a tree.
-/

import LogBalancer.FileTree.Basic

namespace LogBalancer
namespace FileTree

/-- The largest number of octets of a name. -/
def maxName : Nat := 255

/-- The first number of octets that is too large for the text of a path. -/
def pathLimit : Nat := 4096

/-- The location of a path of names, from a location on. -/
def follow (t : FileTree) (here : Location) : List String → Except FileError Location
  | [] => if (t.get? here).isSome then .ok here else .error .noEntry
  | name :: rest =>
    match t.get? here with
    | none => .error .noEntry
    | some .directory =>
      if name = ".." then t.follow here.dropLast rest
      else if maxName < name.utf8ByteSize then .error .nameTooLong
      else
        match t.get? (here ++ [name]) with
        | none => .error .noEntry
        | some _ => t.follow (here ++ [name]) rest
    | some _ => .error .notDirectory

/-- Where a path starts. -/
def startOf (cwd : Location) (p : Path) : Location := if p.isAbsolute then [] else cwd

/-- Refuses a path whose text is too long. -/
def checkSize (p : Path) : Except FileError Unit :=
  if p.toString.utf8ByteSize < pathLimit then .ok () else .error .nameTooLong

/-- The location of a path. -/
def locate (t : FileTree) (cwd : Location) (p : Path) : Except FileError Location := do
  checkSize p
  t.follow (startOf cwd p) p.names

/-- What is at a path. -/
def stat (t : FileTree) (cwd : Location) (p : Path) : Except FileError Entry := do
  let l ← t.locate cwd p
  match t.get? l with
  | some e => return e
  | none => throw .noEntry

/-- Whether what is at a path has a property.  Nothing at the path means no; other errors are
reported. -/
def test (t : FileTree) (cwd : Location) (p : Path) (property : Entry → Bool) :
    Except Failure Bool :=
  if p.holdsNul then .ok false
  else match t.stat cwd p with
    | .ok e => .ok (property e)
    | .error e => if e.meansAbsent then .ok false else .error ⟨e, [p.toString]⟩

/-- Whether an entry is a regular file. -/
def Entry.isFile : Entry → Bool
  | .file _ | .unreadable => true
  | _ => false

/-- Whether a regular file is at a path. -/
def isFile (t : FileTree) (cwd : Location) (p : Path) : Except Failure Bool :=
  t.test cwd p Entry.isFile

/-- Whether a directory is at a path. -/
def isDirectory (t : FileTree) (cwd : Location) (p : Path) : Except Failure Bool :=
  t.test cwd p (· == .directory)

/-- The octets of the file at a path. -/
def octetsAt (t : FileTree) (cwd : Location) (p : Path) : Except Failure (List UInt8) :=
  match t.stat cwd p with
  | .error e => .error ⟨e, [p.toString]⟩
  | .ok (.file octets) => .ok octets
  | .ok .directory => .error ⟨.isDirectory, [p.toString]⟩
  | .ok _ => .error ⟨.inputOutput, []⟩

/-- The location that a path names by its text alone: two dots drop the name before them, whether
or not it leads to a directory. -/
def resolve (cwd : Location) (p : Path) : Location :=
  p.names.foldl (fun l name => if name = ".." then l.dropLast else l ++ [name]) (startOf cwd p)

/-- The path of a location. -/
def pathOf (l : Location) : Path := ⟨"/", l⟩

end FileTree
end LogBalancer
