/-
# Text streams

A stream that texts are appended to.  `TextStream.emit` appends a text and flushes the stream;
either step may fail for a reason of the stream's own.  A failed write stores nothing, a failed
flush comes after the text is stored, and a closed stream takes nothing.
-/

namespace LogBalancer

/-- An open stream with the text that it has taken, or a closed one. -/
inductive TextStream
  | opened (text : String)
  | closed
  deriving DecidableEq, Repr

namespace TextStream

/-- The reasons for which the two steps of an emission fail, if they do. -/
structure Trouble where
  write : Option String := none
  flush : Option String := none
  deriving DecidableEq, Repr

/-- Why a text is not emitted. -/
inductive EmitError
  | failed (reason : String)
  | closed
  deriving DecidableEq, Repr

/-- The failure in one line. -/
def EmitError.message : EmitError → String
  | .failed reason => "Cannot write output: " ++ reason
  | .closed => "I/O operation on closed file"

/-- Appends a text. -/
def emit (stream : TextStream) (text : String) (trouble : Trouble := {}) :
    TextStream × Except EmitError Unit :=
  match stream with
  | .closed => (.closed, .error .closed)
  | .opened before =>
    match trouble.write, trouble.flush with
    | some reason, _ => (.opened before, .error (.failed reason))
    | none, some reason => (.opened (before ++ text), .error (.failed reason))
    | none, none => (.opened (before ++ text), .ok ())

/-- The text of an open stream. -/
def text? : TextStream → Option String
  | .opened s => some s
  | .closed => none

end TextStream
end LogBalancer
