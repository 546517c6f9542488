/-
# File trees

A tree of directories and files.  A `Location` is the list of names on the way down from the
root; `FileTree.get?` is what is there.  The root is always a directory.  The tree is changed
by `put` and `erase`, which change one location each.

Links and permissions are outside of the tree.  A location has one path of names and an entry has one
location, and whoever looks at a tree may look everywhere: an entry is there or not, and only a path
that is too long, or that goes through something else than a directory, keeps one from it.

`Failure` is a refused operation: the error and the paths it names.
-/

import LogBalancer.Decimal.Numeral
import LogBalancer.FileTree.Path
import LogBalancer.Text.Quoted

namespace LogBalancer

/-- A place in a tree: the names on the way down from the root. -/
abbrev Location := List String

/-- What is at a place. -/
inductive Entry
  | directory
  | file (octets : List UInt8)
  /-- A regular file that cannot be read. -/
  | unreadable
  /-- Something that is neither a directory nor a regular file. -/
  | device
  deriving DecidableEq, Repr

/-- A tree.  Of two entries for one location the first counts. -/
structure FileTree where
  entries : List (Location × Entry) := []
  deriving DecidableEq, Repr

/-- Why an operation is refused. -/
inductive FileError
  | noEntry
  | inputOutput
  | busy
  | alreadyThere
  | notDirectory
  | isDirectory
  | nameTooLong
  | other (code : Nat) (reason : String)
  deriving DecidableEq, Repr

namespace FileError

/-- The number of an error. -/
def code : FileError → Nat
  | .noEntry => 2
  | .inputOutput => 5
  | .busy => 16
  | .alreadyThere => 17
  | .notDirectory => 20
  | .isDirectory => 21
  | .nameTooLong => 36
  | .other code _ => code

/-- An error in words. -/
def reason : FileError → String
  | .noEntry => "No such file or directory"
  | .inputOutput => "Input/output error"
  | .busy => "Device or resource busy"
  | .alreadyThere => "File exists"
  | .notDirectory => "Not a directory"
  | .isDirectory => "Is a directory"
  | .nameTooLong => "File name too long"
  | .other _ reason => reason

/-- Whether the error only says that there is nothing at a path. -/
def meansAbsent : FileError → Bool
  | .noEntry | .notDirectory => true
  | _ => false

end FileError

/-- A refused operation with the texts of the paths that its report names. -/
structure Failure where
  error : FileError
  subjects : List String := []
  deriving DecidableEq, Repr

/-- The report of a refused operation. -/
def Failure.message (f : Failure) : String :=
  "[Errno " ++ Decimal.natural f.error.code ++ "] " ++ f.error.reason ++
    (if f.subjects.isEmpty then "" else ": " ++ " -> ".intercalate (f.subjects.map Text.quoted))

namespace FileTree

/-- What is at a location. -/
def get? (t : FileTree) (l : Location) : Option Entry :=
  if l = [] then some .directory else t.entries.lookup l

/-- Puts an entry at a location. -/
def put (t : FileTree) (l : Location) (e : Entry) : FileTree :=
  ⟨(l, e) :: t.entries.filter fun x => x.1 != l⟩

/-- Removes what is at a location. -/
def erase (t : FileTree) (l : Location) : FileTree :=
  ⟨t.entries.filter fun x => x.1 != l⟩

/-- Removes what is at a location and below it. -/
def eraseAll (t : FileTree) (l : Location) : FileTree :=
  ⟨t.entries.filter fun x => !l.isPrefixOf x.1⟩

/-- Whether a directory is at a location. -/
def isDirectoryAt (t : FileTree) (l : Location) : Bool := t.get? l == some .directory

/-- The paths of everything below a location, directories with a slash at the end, in the order of
their characters. -/
def listing (t : FileTree) (l : Location) : List String :=
  let shown := t.entries.filterMap fun (m, e) =>
    if l.isPrefixOf m && l.length < m.length then
      some ("/".intercalate (m.drop l.length) ++ (if e = .directory then "/" else ""))
    else none
  shown.mergeSort fun a b => decide (a ≤ b)

/-- Below the root, an entry is where it was put. -/
theorem get?_put_self (t : FileTree) {l : Location} (h : l ≠ []) (e : Entry) :
    (t.put l e).get? l = some e := by
  simp [get?, put, h]

/-- Dropping the entries of one location loses none of another. -/
theorem lookup_filter_ne {l m : Location} (h : m ≠ l) (es : List (Location × Entry)) :
    (es.filter fun x => x.1 != l).lookup m = es.lookup m := by
  induction es with
  | nil => rfl
  | cons x es ih =>
    obtain ⟨k, e⟩ := x
    by_cases hk : k = l
    · subst hk
      have : (m == k) = false := by simpa using h
      simp [List.lookup_cons, this, ih]
    · by_cases hm : m = k <;> simp [List.lookup_cons, hk, hm, ih]

/-- Putting an entry at one location changes no other. -/
theorem get?_put_of_ne (t : FileTree) {l m : Location} (h : m ≠ l) (e : Entry) :
    (t.put l e).get? m = t.get? m := by
  by_cases hm : m = []
  · simp [get?, hm]
  · have : (m == l) = false := by simpa using h
    simp [get?, put, hm, List.lookup_cons, this, lookup_filter_ne h]

end FileTree
end LogBalancer
