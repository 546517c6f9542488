/-
# Changing files

Directories are made one by one, with their parents where asked.  A file is replaced as a whole:
its new text goes to a temporary file in the same directory, which then takes the place of the
file, so there is never a file with a part of its text.  If filling or renaming the temporary file
fails, it is removed again.

Each step can be refused by the tree itself, or for a reason that lies outside of it: such
reasons come as a `Trouble`, which says of each step whether it fails and why.  Two steps can
strand the temporary file: closing it, since nothing cleans up after that, and removing it.
-/

import LogBalancer.FileTree.Access
import LogBalancer.Text.Utf8

namespace LogBalancer
namespace FileTree

/-- The steps of replacing a file. -/
inductive Stage
  /-- Making the directory at a location. -/
  | makeDirectory (l : Location)
  | createTemporary
  /-- Closing the new temporary file, before it is opened again for the text. -/
  | closeTemporary
  | fillTemporary
  | rename
  /-- Removing the temporary file after a failure. -/
  | removeTemporary
  deriving DecidableEq, Repr

/-- What goes wrong for outside reasons. -/
structure Trouble where
  /-- For each step the reason for which it fails, if it does. -/
  reason : Stage → Option FileError := fun _ => none
  /-- The number of octets that are in the temporary file where filling it fails. -/
  written : Nat := 0

/-- Why a file is not replaced. -/
inductive ReplaceError
  | failed (f : Failure)
  /-- The path holds the character NUL. -/
  | nul
  deriving DecidableEq, Repr

/-- An error of one path. -/
def failedAt (e : FileError) (p : Path) : ReplaceError := .failed ⟨e, [p.toString]⟩

/-! ### Directories -/

/-- Where a directory of a path can be made: the location if its parent is a directory and nothing is
there. -/
def vacancy (t : FileTree) (cwd : Location) (p : Path) : Except FileError Location := do
  checkSize p
  match p.names.getLast? with
  | none => throw .alreadyThere
  | some name =>
    let parent ← t.follow (startOf cwd p) p.names.dropLast
    unless t.isDirectoryAt parent do throw .notDirectory
    if name = ".." then throw .alreadyThere
    if maxName < name.utf8ByteSize then throw .nameTooLong
    if (t.get? (parent ++ [name])).isSome then throw .alreadyThere
    return parent ++ [name]

/-- Makes the directory of a path in an existing directory. -/
def makeDirectory (t : FileTree) (cwd : Location) (p : Path) (trouble : Trouble) :
    Except FileError FileTree :=
  match t.vacancy cwd p with
  | .error e => .error e
  | .ok l =>
    match trouble.reason (.makeDirectory l) with
    | some e => .error e
    | none => .ok (t.put l .directory)

/-- Lets an error of making a directory pass if a directory is there. -/
def orThere (t : FileTree) (cwd : Location) (p : Path) (e : FileError) :
    Except ReplaceError Unit :=
  match t.isDirectory cwd p with
  | .ok true => .ok ()
  | .ok false => .error (failedAt e p)
  | .error f => .error (.failed f)

/-- Makes the directory of a path and those above it, with `fuel` levels to go up.  Directories that
are made stay, also if a later one cannot be made. -/
def makeDirectoriesFrom (cwd : Location) (trouble : Trouble) :
    Nat → FileTree → Path → FileTree × Except ReplaceError Unit
  | 0, t, p => (t, .error (failedAt .noEntry p))
  | fuel + 1, t, p =>
    match t.makeDirectory cwd p trouble with
    | .ok t => (t, .ok ())
    | .error .noEntry =>
      if p.names.isEmpty then (t, .error (failedAt .noEntry p))
      else
        match makeDirectoriesFrom cwd trouble fuel t p.parent with
        | (t, .error e) => (t, .error e)
        | (t, .ok ()) =>
          match t.makeDirectory cwd p trouble with
          | .ok t => (t, .ok ())
          | .error .noEntry => (t, .error (failedAt .noEntry p))
          | .error e => (t, t.orThere cwd p e)
    | .error e => (t, t.orThere cwd p e)

/-- Makes the directory of a path and those above it. -/
def makeDirectories (t : FileTree) (cwd : Location) (p : Path) (trouble : Trouble := {}) :
    FileTree × Except ReplaceError Unit :=
  if p.holdsNul then (t, .error .nul)
  else makeDirectoriesFrom cwd trouble (p.names.length + 1) t p

/-! ### Temporary files -/

/-- The name of a temporary file by number. -/
def temporaryName (n : Nat) : String :=
  let ds := Decimal.digits n
  ".lbconfig_" ++ String.ofList (List.replicate (8 - ds.length) '0' ++ ds) ++ ".tmp"

/-- The first name of a temporary file, from a number on, that is free in a directory. -/
def freeName (t : FileTree) (directory : Location) : Nat → Nat → String
  | 0, n => temporaryName n
  | fuel + 1, n =>
    if (t.get? (directory ++ [temporaryName n])).isSome then t.freeName directory fuel (n + 1)
    else temporaryName n

/-- A name of a temporary file that is free in a directory. -/
def temporaryIn (t : FileTree) (directory : Location) : String :=
  t.freeName directory t.entries.length 0

/-! ### Files -/

/-- Where a file can take the place at a path whose directory is at `directory`. -/
def target (t : FileTree) (directory : Location) (p : Path) : Except FileError Location := do
  checkSize p
  match p.names.getLast? with
  | none => throw .busy
  | some name =>
    if name = ".." then throw .busy
    if maxName < name.utf8ByteSize then throw .nameTooLong
    if t.isDirectoryAt (directory ++ [name]) then throw .isDirectory
    return directory ++ [name]

/-- The path by which a temporary file is handled: it is from the root on, also where the path of
the file is not. -/
def temporaryPath (p : Path) (temporary : Location) : Path :=
  ⟨if p.isAbsolute then p.root else "/", temporary⟩

/-- Creates a temporary file, which is empty. -/
def createTemporary (t : FileTree) (temporary : Location) (path : Path) (trouble : Trouble) :
    Except Failure FileTree := do
  let refused (e : FileError) : Failure := ⟨e, [path.toString]⟩
  (checkSize path).mapError refused
  match trouble.reason .createTemporary with
  | some e => throw (refused e)
  | none => return t.put temporary (.file [])

/-- Where a temporary file takes the place of the file at a path. -/
def destination (t : FileTree) (directory : Location) (p temporary : Path) (trouble : Trouble) :
    Except ReplaceError Location :=
  if p.holdsNul then .error .nul
  else
    let refused (e : FileError) : ReplaceError := .failed ⟨e, [temporary.toString, p.toString]⟩
    match t.target directory p with
    | .error e => .error (refused e)
    | .ok l =>
      match trouble.reason .rename with
      | some e => .error (refused e)
      | none => .ok l

/-- Removes a temporary file after a failure, which is reported.  A file that is gone already is as
good as removed; one that cannot be removed stays, and that is reported instead. -/
def discard (t : FileTree) (temporary : Location) (path : Path) (trouble : Trouble)
    (failure : ReplaceError) : FileTree × Except ReplaceError Unit :=
  match trouble.reason .removeTemporary with
  | none => (t.erase temporary, .error failure)
  | some e =>
    if e.code = FileError.noEntry.code then (t.erase temporary, .error failure)
    else (t, .error (failedAt e path))

/-- Replaces the file at a path in the existing directory at `directory` by a text. -/
def replaceIn (t : FileTree) (directory : Location) (p : Path) (text : String)
    (trouble : Trouble) : FileTree × Except ReplaceError Unit :=
  let temporary := directory ++ [t.temporaryIn directory]
  let path := temporaryPath p temporary
  let octets := Text.encode text
  match t.createTemporary temporary path trouble with
  | .error f => (t, .error (.failed f))
  | .ok created =>
    match trouble.reason .closeTemporary with
    | some e => (created, .error (.failed ⟨e, []⟩))
    | none =>
      match trouble.reason .fillTemporary with
      | some e =>
        let begun := created.put temporary (.file (octets.take trouble.written))
        begun.discard temporary path trouble (.failed ⟨e, []⟩)
      | none =>
        let filled := created.put temporary (.file octets)
        match filled.destination directory p path trouble with
        | .error e => filled.discard temporary path trouble e
        | .ok l => ((filled.erase temporary).put l (.file octets), .ok ())

/-- Replaces the file at a path by a text.  The directories above it are made. -/
def replace (t : FileTree) (cwd : Location) (p : Path) (text : String)
    (trouble : Trouble := {}) : FileTree × Except ReplaceError Unit :=
  match t.makeDirectories cwd p.parent trouble with
  | (t, .error e) => (t, .error e)
  | (t, .ok ()) =>
    match t.locate cwd p.parent with
    | .error e => (t, .error (failedAt e p.parent))
    | .ok directory => t.replaceIn directory p text trouble

end FileTree
end LogBalancer
