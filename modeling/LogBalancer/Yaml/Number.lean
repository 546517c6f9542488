/-
# Numbers of a YAML text

The value of a scalar that is an integer or a floating-point value.  Underscores are dropped.
An integer is binary after `0b`, hexadecimal after `0x` and octal after any other `0`.  A number
with colons is sexagesimal: each part counts sixty times the part after it.
-/

import LogBalancer.Decimal.Literal
import LogBalancer.Text.Lower
import LogBalancer.Yaml.Fault

namespace LogBalancer
namespace Yaml
namespace Number

open Decimal (Binary64)

/-- The parts of a text between colons. -/
def parts : List Char → List (List Char)
  | [] => [[]]
  | c :: s =>
    if c == ':' then [] :: parts s
    else match parts s with
      | [] => [[c]]
      | p :: ps => (c :: p) :: ps

/-- A sign, true for minus, and the rest of a text that is not empty. -/
def signed (s : List Char) : Except Misfit (Bool × List Char) :=
  match s with
  | [] => .error .emptyNumber
  | '-' :: rest => .ok (true, rest)
  | '+' :: rest => .ok (false, rest)
  | s => .ok (false, s)

/-- The integer of a literal in a base. -/
def literal (base : Nat) (s : List Char) : Except Misfit Int :=
  match Decimal.readInteger base s with
  | .ok n => .ok n
  | .error .malformed => .error (.integer base s)
  | .error (.tooLong n) => .error (.longInteger n)

/-- The value of an unsigned integer. -/
def magnitude (s : List Char) : Except Misfit Int :=
  match s with
  | [] => .error .emptyNumber
  | ['0'] => .ok 0
  | '0' :: 'b' :: ds => literal 2 ds
  | '0' :: 'x' :: ds => literal 16 ds
  | '0' :: ds => literal 8 ('0' :: ds)
  | s =>
    if s.contains ':' then do
      let places ← (parts s).mapM (literal 10)
      return places.foldl (fun n d => 60 * n + d) 0
    else literal 10 s

/-- The value of a scalar as an integer. -/
def integer (text : List Char) : Except Misfit Int := do
  let (negative, s) ← signed (text.filter (· != '_'))
  let n ← magnitude s
  return if negative then -n else n

/-- The value of a floating-point literal. -/
def floatLiteral (s : List Char) : Except Misfit Binary64 :=
  match Decimal.readFloat s with
  | some x => .ok x
  | none => .error (.float s)

/-- Adds up sexagesimal parts from the last one on, of which the first counts `weight` times. -/
def sumPlaces (weight : Nat) (sum : Binary64) : List Binary64 → Except Misfit Binary64
  | [] => .ok sum
  | d :: ds =>
    match Binary64.ofRatio false weight 1 with
    | .infinite _ => .error .floatRange
    | w => sumPlaces (60 * weight) (sum.add (d.mul w)) ds

/-- The value of an unsigned floating-point scalar in lower case. -/
def floatMagnitude (s : List Char) : Except Misfit Binary64 :=
  if s == ['.', 'i', 'n', 'f'] then .ok (.infinite false)
  else if s == ['.', 'n', 'a', 'n'] then .ok .nan
  else if s.contains ':' then do
    let places ← (parts s).mapM floatLiteral
    sumPlaces 1 (Binary64.zero false) places.reverse
  else floatLiteral s

/-- The value of a scalar as a floating-point value. -/
def float (text : List Char) : Except Misfit Binary64 := do
  let (negative, s) ← signed (Text.lowerFrom [] (text.filter (· != '_')))
  let x ← floatMagnitude s
  return if negative then x.neg else x

end Number
end Yaml
end LogBalancer
