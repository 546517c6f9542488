/-
# Values

What a team file can hold before it is read as a configuration: null, flags, integers of any
size, floating-point values, texts, octet strings, dates, moments, lists, pairs, sets and
mappings.  A text is a string of characters, so no surrogate stands alone in it.

Mappings keep the order of the file.  A set has no order of its own.  Here its items stand in the order
of the file too; where a set is kept by the hashes of its items they come in that order instead, which
is another one for each run, so nothing should rest on the order of a set.

`Value.typeName` is what messages call the type of a value.
-/

import LogBalancer.Decimal.Binary64

namespace LogBalancer

/-- A point in time: the fields of a timestamp.  With an offset from universal time, in seconds,
the point is fixed; without one it is not. -/
structure Moment where
  year : Nat
  month : Nat
  day : Nat
  hour : Nat
  minute : Nat
  second : Nat
  microsecond : Nat
  offset : Option Int
  deriving DecidableEq, Repr

/-- A value of a team file. -/
inductive Value
  | null
  | flag (b : Bool)
  | int (n : Int)
  | float (x : Decimal.Binary64)
  | text (s : String)
  | bytes (octets : List UInt8)
  | date (year month day : Nat)
  | moment (m : Moment)
  | list (items : List Value)
  | pair (key value : Value)
  | set (items : List Value)
  | mapping (entries : List (Value × Value))
  deriving Repr

namespace Value

/-- The name of a value's type. -/
def typeName : Value → String
  | .null => "NoneType"
  | .flag _ => "bool"
  | .int _ => "int"
  | .float _ => "float"
  | .text _ => "str"
  | .bytes _ => "bytes"
  | .date .. => "date"
  | .moment _ => "datetime"
  | .list _ => "list"
  | .pair .. => "tuple"
  | .set _ => "set"
  | .mapping _ => "dict"

/-- The integer a flag, an integer or a floating-point value equals. -/
def asInt? : Value → Option Int
  | .flag b => some (if b then 1 else 0)
  | .int n => some n
  | .float x => x.toInt?
  | _ => none

/-- Seconds and microseconds of a moment with an offset, counted from a fixed day in days of
universal time. -/
def Moment.universal (m : Moment) (offset : Int) : Int × Nat :=
  let y : Int := if m.month ≤ 2 then (m.year : Int) - 1 else m.year
  let month : Int := if m.month ≤ 2 then (m.month : Int) + 12 else m.month
  let days := 365 * y + y / 4 - y / 100 + y / 400 + (153 * (month - 3) + 2) / 5 + m.day
  (((days * 24 + m.hour) * 60 + m.minute) * 60 + m.second - offset, m.microsecond)

/-- Whether two values are the same key.  Numbers are compared by value across flags, integers and
floating-point values. -/
def sameKey (a b : Value) : Bool :=
  match a, b with
  | .null, .null => true
  | .text s, .text t => s == t
  | .bytes s, .bytes t => s == t
  | .date y m d, .date y' m' d' => y == y' && m == m' && d == d'
  | .moment m, .moment n =>
    match m.offset, n.offset with
    | none, none => m == n
    | some o, some p => Moment.universal m o == Moment.universal n p
    | _, _ => false
  | .float x, .float y => x.numEq y
  | a, b =>
    match a.asInt?, b.asInt? with
    | some m, some n => m == n
    | _, _ => false

/-- The value that a mapping has for a text. -/
def lookup (key : String) : List (Value × Value) → Option Value
  | [] => none
  | (.text k, v) :: rest => if k = key then some v else lookup key rest
  | _ :: rest => lookup key rest

/-- Sets the value of a key: in its place if it has one, otherwise at the end. -/
def insert (key value : Value) : List (Value × Value) → List (Value × Value)
  | [] => [(key, value)]
  | (k, v) :: rest =>
    if sameKey k key then (k, value) :: rest else (k, v) :: insert key value rest

end Value
end LogBalancer
