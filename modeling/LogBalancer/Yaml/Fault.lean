/-
# Faults of a YAML text

Three kinds of fault stop the reading of a document.  A text may be malformed: it breaks a rule of
the language.  Or a scalar does not fit the type that it has or is given (`Misfit`): a date that
is in no calendar, a text that is no number.  Or the parts of the document nest more deeply than
the reader can go.  The first kind is reported without details, the second with the text of the
scalar.
-/

import LogBalancer.Decimal.Numeral
import LogBalancer.Text.Quoted

namespace LogBalancer
namespace Yaml

/-- The rule that a malformed text breaks. -/
inductive Rule
  /-- Only printable characters. -/
  | characters
  /-- Every token starts with a character that can start one. -/
  | tokens
  /-- Entries, keys and values stand where they are allowed. -/
  | positions
  /-- A key on one line is followed by a colon. -/
  | simpleKeys
  | directives
  | anchors
  | tags
  | blockScalars
  | quotedScalars
  /-- Nodes, collections and documents nest. -/
  | nesting
  /-- Aliases name an earlier anchor, and anchors are distinct. -/
  | references
  /-- The tag of a node is known and fits its kind. -/
  | types
  | mergeKeys
  /-- Keys are scalars. -/
  | keys
  deriving DecidableEq, Repr

/-- A part of a date or a time that is out of range. -/
inductive CalendarPart
  | year (n : Nat)
  | month
  | day
  | hour
  | minute
  | second
  /-- The offset from universal time, in seconds. -/
  | offset (seconds : Int)
  deriving DecidableEq, Repr

/-- How a scalar fails to be a value of its type. -/
inductive Misfit
  /-- An escape for a number that is no code point. -/
  | codePoint (n : Nat)
  | calendar (part : CalendarPart)
  /-- A timestamp without the form of one. -/
  | timestamp
  | integer (base : Nat) (text : List Char)
  /-- A decimal number, of a scalar or of a version, with too many digits. -/
  | longInteger (digits : Nat)
  | float (text : List Char)
  /-- A factor of a sexagesimal number beyond every floating-point value. -/
  | floatRange
  | flag (text : String)
  /-- A number without a single character. -/
  | emptyNumber
  deriving DecidableEq, Repr

/-- Why a text has no value. -/
inductive Fault
  | malformed (rule : Rule)
  | misfit (m : Misfit)
  /-- The reader has gone down as far as it can. -/
  | tooDeep
  deriving DecidableEq, Repr

/-- What is reported of a malformed text. -/
def malformedMessage : String := "<yaml error>"

/-- What is reported where the reader cannot go deeper. -/
def tooDeepMessage : String := "maximum recursion depth exceeded"

/-- An out-of-range part in words. -/
def CalendarPart.message : CalendarPart → String
  | .year n => "year " ++ Decimal.natural n ++ " is out of range"
  | .month => "month must be in 1..12"
  | .day => "day is out of range for month"
  | .hour => "hour must be in 0..23"
  | .minute => "minute must be in 0..59"
  | .second => "second must be in 0..59"
  | .offset s =>
    let days := s.fdiv 86400
    let seconds := s.fmod 86400
    "offset must be a timedelta strictly between -timedelta(hours=24) and timedelta(hours=24), " ++
      "not datetime.timedelta(days=" ++ Decimal.numeral days ++
      (if seconds = 0 then "" else ", seconds=" ++ Decimal.numeral seconds) ++ ")."

/-- A misfit in words. -/
def Misfit.message : Misfit → String
  | .codePoint n =>
    if n < Nat.pow 2 31 then "chr() arg not in range(0x110000)"
    else "Python int too large to convert to C int"
  | .calendar part => part.message
  | .timestamp => "'NoneType' object has no attribute 'groupdict'"
  | .integer base text =>
    "invalid literal for int() with base " ++ Decimal.natural base ++ ": " ++
      String.ofList ((Text.quotedChars text).take 200)
  | .longInteger n =>
    "Exceeds the limit (4300 digits) for integer string conversion: value has " ++
      Decimal.natural n ++ " digits; use sys.set_int_max_str_digits() to increase the limit"
  | .float text => "could not convert string to float: " ++ String.ofList (Text.quotedChars text)
  | .floatRange => "int too large to convert to float"
  | .flag text => Text.quoted text
  | .emptyNumber => "string index out of range"

end Yaml
end LogBalancer
