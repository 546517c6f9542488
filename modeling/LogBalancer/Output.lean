/-
# Output

Where a rendered text goes: to a file, which is replaced as a whole, or to a stream.  A failure
is noted before it is reported.
-/

import LogBalancer.Escape
import LogBalancer.Journal

namespace LogBalancer
namespace Output

/-- The part of the program that takes the notes of this module. -/
def source : String := "lbconfig.core.persistence.output_file"

/-- Why a text is not written. -/
inductive WriteError
  /-- The file at the path is not written. -/
  | file (path : Path) (failure : Failure)
  /-- The stream does not take the text. -/
  | stream (reason : String)
  deriving DecidableEq, Repr

/-- The failure in one line. -/
def WriteError.message : WriteError → String
  | .file path failure => "Cannot write " ++ path.toString ++ ": " ++ failure.message
  | .stream reason => (TextStream.EmitError.failed reason).message

/-- Why writing fails. -/
inductive Error
  | write (e : WriteError)
  | escape (e : Escape)
  deriving DecidableEq, Repr

/-- The failure in one line. -/
def Error.message : Error → String
  | .write e => e.message
  | .escape e => e.message

/-- Writes a text to the file at a path. -/
def toFile (tree : FileTree) (cwd : Location) (text : String) (path : Path)
    (trouble : FileTree.Trouble := {}) : Noted (FileTree × Except Error Unit) :=
  match tree.replace cwd path text trouble with
  | (tree, .ok ()) =>
    ⟨[⟨Level.debug, source,
        "Config written to " ++ path.toString ++ " (" ++ Decimal.natural text.length ++ " bytes)"⟩],
      (tree, .ok ())⟩
  | (tree, .error .nul) => ⟨[], (tree, .error (.escape .nul))⟩
  | (tree, .error (.failed f)) =>
    ⟨[⟨Level.error, source,
        "Failed to write config to " ++ path.toString ++ ": " ++ f.message⟩],
      (tree, .error (.write (.file path f)))⟩

/-- Writes a text to a stream. -/
def emit (stream : TextStream) (text : String) (trouble : TextStream.Trouble := {}) :
    Noted (TextStream × Except Error Unit) :=
  match stream.emit text trouble with
  | (stream, .ok ()) => ⟨[], (stream, .ok ())⟩
  | (stream, .error .closed) => ⟨[], (stream, .error (.escape .closedStream))⟩
  | (stream, .error (.failed reason)) =>
    ⟨[⟨Level.error, source, "Failed to write config to output stream: " ++ reason⟩],
      (stream, .error (.write (.stream reason)))⟩

end Output
end LogBalancer
