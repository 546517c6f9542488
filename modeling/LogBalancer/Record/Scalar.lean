/-
# Scalars of records

How one value is read as a text, a flag or a port.

| kind | accepted |
| --- | --- |
| text | texts, and octets that are UTF-8 |
| flag | flags, 0 and 1 as integer or floating-point value, and the spellings of `flagSpellings` |
| port | integers of any size, and texts of the grammar of `Port.read` |

A flag or a floating-point value is never a port, although both may equal an integer.
-/

import LogBalancer.Decimal.Shortest
import LogBalancer.Port
import LogBalancer.Record.Fault
import LogBalancer.Text.Utf8
import LogBalancer.Value

namespace LogBalancer
namespace Record

/-- A way to read a value. -/
abbrev Reader (α : Type) := Value → Checked α

/-- Reads a text. -/
def text : Reader String
  | .text s => .accepted s
  | .bytes octets =>
    match Text.decode octets with
    | .ok s => .accepted s
    | .error _ => .fault .notUnicode
  | _ => .fault .notText

/-- The spellings of true and of false, in lower case. -/
def flagSpellings : List (String × Bool) :=
  [("1", true), ("on", true), ("t", true), ("true", true), ("y", true), ("yes", true),
   ("0", false), ("off", false), ("f", false), ("false", false), ("n", false), ("no", false)]

/-- The lower-case form of an ASCII letter; other characters are kept. -/
def lowerLetter (c : Char) : Char :=
  if 'A' ≤ c && c ≤ 'Z' then Char.ofNat (c.toNat + 32) else c

/-- Reads a spelling of a flag, in any case, without trimming. -/
def flagText (s : String) : Checked Bool :=
  match flagSpellings.lookup (s.map lowerLetter) with
  | some b => .accepted b
  | none => .fault .unreadableFlag

/-- Reads an integer as a flag; `inRange` says whether it is one that could have been meant. -/
def flagNumber (n : Int) (inRange : Bool) : Checked Bool :=
  if n = 0 then .accepted false
  else if n = 1 then .accepted true
  else .fault (if inRange then .unreadableFlag else .notFlag)

/-- The first integer too large for 64 bits with a sign. -/
def longLimit : Int := 9223372036854775808

/-- Reads a flag. -/
def flag : Reader Bool
  | .flag b => .accepted b
  | .text s => flagText s
  | .bytes octets =>
    match Text.decode octets with
    | .ok s => flagText s
    | .error _ => .fault .unreadableFlag
  | .int n => flagNumber n (-longLimit ≤ n && n < longLimit)
  | .float x =>
    match x.toInt? with
    | some n => flagNumber n (-longLimit < n && n < longLimit)
    | none => .fault .notFlag
  | _ => .fault .notFlag

/-- Reads a flag of which null is a spelling too: it means false. -/
def optionalFlag : Reader Bool
  | .null => .accepted false
  | v => flag v

/-- Reads the text of a port. -/
def portOfText (s : String) : Checked Int :=
  match Port.read s.toList with
  | .ok n => .accepted n
  | .error .unreadable => .fault .unreadableInteger
  | .error .tooLong => .fault .oversizedInteger

/-- Reads a port. -/
def port : Reader Int
  | .flag b => .fault (.refusedPort (if b then "True" else "False"))
  | .float x => .fault (.refusedPort x.text)
  | .int n => .accepted n
  | .text s => portOfText s
  | .bytes octets =>
    match Text.decode octets with
    | .ok s => portOfText s
    | .error _ => .fault .unreadableInteger
  | _ => .fault .notInteger

/-- Reads a sequence of any kind, item by item.  The items of a set come in the order of the file, which
is not the order of every keeper of sets. -/
def sequence {α : Type} (otherwise : Cause) (read : Reader α) : Reader (List α)
  | .list items => .allFrom read 0 items
  | .set items => .allFrom read 0 items
  | .pair a b => .allFrom read 0 [a, b]
  | _ => .fault otherwise

end Record
end LogBalancer
