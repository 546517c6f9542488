/-
# The journal

Progress and failures are recorded as notes, each with a level and the name of the part of the
program that took it.  A `Journal` has a level and sinks; a note whose level is positive and
at least that of the journal is written to every sink, as one block that ends with a line end.

`Journal.setUp` leaves exactly one sink, whatever there was before.  At the level of
information or below, a block starts with the name of the note's level and its source; above
it holds the text alone.

A level without a name is called by its number.  `Journal.log` makes a note before it takes it, which
fails if the note passes and its level has too many digits to be written.
-/

import LogBalancer.Port

namespace LogBalancer

/-- A note. -/
structure Note where
  level : Int
  source : String
  text : String
  deriving DecidableEq, Repr

namespace Level

def debug : Int := 10

def info : Int := 20

def warning : Int := 30

def error : Int := 40

def critical : Int := 50

/-- The names by which levels can be asked for. -/
def names : List (String × Int) :=
  [("CRITICAL", critical), ("FATAL", critical), ("ERROR", error), ("WARNING", warning),
   ("WARN", warning), ("INFO", info), ("DEBUG", debug), ("NOTSET", 0)]

/-- The upper-case form of a character, where that is a letter of a level's name: of the ASCII
letters, the dotless i and the long s. -/
def upperLetter (c : Char) : Char :=
  if 'a' ≤ c && c ≤ 'z' then Char.ofNat (c.toNat - 32)
  else if c == 'ı' then 'I'
  else if c == 'ſ' then 'S'
  else c

/-- The level of a name in any case.  A name that is not known means `warning`. -/
def ofName (name : String) : Int :=
  (names.lookup (name.map upperLetter)).getD warning

/-- What a block calls a level. -/
def title (level : Int) : String :=
  if level = critical then "CRITICAL"
  else if level = error then "ERROR"
  else if level = warning then "WARNING"
  else if level = info then "INFO"
  else if level = debug then "DEBUG"
  else if level = 0 then "NOTSET"
  else "Level " ++ Decimal.numeral level

end Level

/-- Where a journal writes: nowhere, or on the error stream with or without details. -/
inductive Sink
  | silent
  | plain
  | detailed
  deriving DecidableEq, Repr

/-- The block of a note, without its line end. -/
def Sink.block (note : Note) : Sink → Option String
  | .silent => none
  | .plain => some note.text
  | .detailed =>
    let source := if note.source.isEmpty then "root" else note.source
    some (Level.title note.level ++ " " ++ source ++ ": " ++ note.text)

/-- A journal: its level, its sinks and what has been written on the error stream. -/
structure Journal where
  level : Int := Level.warning
  sinks : List Sink := [.silent]
  written : String := ""
  deriving DecidableEq, Repr

namespace Journal

/-- The sink of a level. -/
def sinkFor (level : Int) : Sink := if level ≤ Level.info then .detailed else .plain

/-- Sets the journal up for the level of a name. -/
def setUp (journal : Journal) (levelName : String) : Journal :=
  let level := Level.ofName levelName
  { journal with level := level, sinks := [sinkFor level] }

/-- Whether a note of this level is written. -/
def passes (journal : Journal) (level : Int) : Bool := 0 < level && journal.level ≤ level

/-- What a note adds to the error stream. -/
def blocks (journal : Journal) (note : Note) : String :=
  if journal.passes note.level then
    String.join (journal.sinks.filterMap fun sink => (sink.block note).map (· ++ "\n"))
  else ""

/-- Takes a note. -/
def take (journal : Journal) (note : Note) : Journal :=
  { journal with written := journal.written ++ journal.blocks note }

/-- Takes several notes in order. -/
def takeAll (journal : Journal) (notes : List Note) : Journal := notes.foldl take journal

/-- Whether a note can be made, if it passes. -/
def canLog (journal : Journal) (note : Note) : Bool :=
  !journal.passes note.level || Decimal.isWritable note.level

/-- Makes a note and takes it. -/
def log (journal : Journal) (note : Note) : Except TooLong Journal :=
  if journal.canLog note then .ok (journal.take note) else .error ⟨⟩

/-- Logs several notes in order, up to the first that cannot be made. -/
def logAll (journal : Journal) : List Note → Journal × Except TooLong Unit
  | [] => (journal, .ok ())
  | note :: notes =>
    match journal.log note with
    | .ok next => next.logAll notes
    | .error e => (journal, .error e)

end Journal

/-- A value and the notes taken on the way to it. -/
structure Noted (α : Type) where
  notes : List Note
  value : α
  deriving Repr

namespace Noted

/-- A value without notes. -/
def pure {α : Type} (a : α) : Noted α := ⟨[], a⟩

/-- Goes on from a value; the notes come in order. -/
def bind {α β : Type} (x : Noted α) (f : α → Noted β) : Noted β :=
  let y := f x.value
  ⟨x.notes ++ y.notes, y.value⟩

instance : Monad Noted where
  pure := Noted.pure
  bind := Noted.bind

/-- Takes one note. -/
def note (level : Int) (source text : String) : Noted Unit := ⟨[⟨level, source, text⟩], ()⟩

end Noted
end LogBalancer
