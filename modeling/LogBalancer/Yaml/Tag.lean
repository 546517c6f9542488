/-
# Tags

The type of a node.  A node has the type that its tag names; a plain scalar without a tag has
the type of the first of these forms that it has, and is a text if it has none.

| type | form |
| --- | --- |
| flag | `yes`, `no`, `true`, `false`, `on`, `off` in lower, upper or capitalised letters |
| float | digits with a point, an exponent only with a sign; `.inf`, `.nan` |
| integer | decimal, `0b`, `0` octal, `0x`, sexagesimal; underscores after the first digit |
| merge | `<<` |
| null | nothing, `~`, `null` in the three spellings |
| timestamp | see `Timestamp` |
| default | `=` |
-/

import LogBalancer.Yaml.Timestamp

namespace LogBalancer
namespace Yaml

/-- The type of a node. -/
inductive Tag
  | null
  | flag
  | int
  | float
  | binary
  | timestamp
  | orderedMap
  | pairs
  | set
  | text
  | list
  | mapping
  | merge
  | default_
  | unknown (name : String)
  deriving DecidableEq, Repr

namespace Tag

/-- What the names of the standard tags start with. -/
def standard : String := "tag:yaml.org,2002:"

/-- The standard tags by name. -/
def names : List (String × Tag) :=
  [("null", .null), ("bool", .flag), ("int", .int), ("float", .float), ("binary", .binary),
   ("timestamp", .timestamp), ("omap", .orderedMap), ("pairs", .pairs), ("set", .set),
   ("str", .text), ("seq", .list), ("map", .mapping), ("merge", .merge), ("value", .default_)]

/-- The type that a tag names. -/
def ofName (name : String) : Tag :=
  match names.find? fun (n, _) => standard ++ n == name with
  | some (_, t) => t
  | none => .unknown name

/-! ### Forms of plain scalars -/

/-- The spellings of a flag. -/
def flagWords : List String :=
  ["yes", "Yes", "YES", "no", "No", "NO", "true", "True", "TRUE", "false", "False", "FALSE",
   "on", "On", "ON", "off", "Off", "OFF"]

/-- The spellings of null. -/
def nullWords : List String := ["", "~", "null", "Null", "NULL"]

/-- The text after an optional sign. -/
def afterSign : List Char → List Char
  | '+' :: s => s
  | '-' :: s => s
  | s => s

/-- Whether a character is a digit or an underscore. -/
def isSpacedDigit (c : Char) : Bool := Decimal.isDigit c || c == '_'

/-- The text after a digit and further digits and underscores. -/
def afterDigits? : List Char → Option (List Char)
  | [] => none
  | c :: s => if Decimal.isDigit c then some (s.dropWhile isSpacedDigit) else none

/-- The text after the sexagesimal places that it starts with, and whether there are any.  A place
is a colon and one or two digits, below sixty. -/
def afterPlaces (any : Bool) : Nat → List Char → Bool × List Char
  | 0, s => (any, s)
  | fuel + 1, s =>
    match s with
    | ':' :: a :: rest =>
      if Decimal.isDigit a then
        match rest with
        | b :: rest' =>
          if Decimal.isDigit b then
            if a ≤ '5' then afterPlaces true fuel rest' else (any, s)
          else afterPlaces true fuel rest
        | [] => (true, [])
      else (any, s)
    | _ => (any, s)

/-- Whether a text is empty or an exponent with a sign. -/
def isExponent : List Char → Bool
  | [] => true
  | e :: sign :: ds =>
    (e == 'e' || e == 'E') && (sign == '+' || sign == '-') && !ds.isEmpty &&
      ds.all Decimal.isDigit
  | _ => false

/-- Whether a text has the form of a floating-point value. -/
def isFloat (s : List Char) : Bool :=
  let unsigned := afterSign s
  let withPoint := match afterDigits? unsigned with
    | some ('.' :: rest) => isExponent (rest.dropWhile isSpacedDigit)
    | some rest =>
      match afterPlaces false rest.length rest with
      | (true, '.' :: rest) => rest.all isSpacedDigit
      | _ => false
    | none => false
  let fraction := match s with
    | '.' :: rest => (afterDigits? rest).any isExponent
    | _ => false
  withPoint || fraction ||
    [".inf", ".Inf", ".INF"].contains (String.ofList unsigned) ||
    [".nan", ".NaN", ".NAN"].contains (String.ofList s)

/-- Whether a text has the form of an integer. -/
def isInteger (s : List Char) : Bool :=
  match afterSign s with
  | [] => false
  | '0' :: rest =>
    match rest with
    | [] => true
    | 'b' :: ds => !ds.isEmpty && ds.all fun c => c == '0' || c == '1' || c == '_'
    | 'x' :: ds =>
      !ds.isEmpty && ds.all fun c =>
        isSpacedDigit c || ('a' ≤ c && c ≤ 'f') || ('A' ≤ c && c ≤ 'F')
    | ds => ds.all fun c => ('0' ≤ c && c ≤ '7') || c == '_'
  | c :: rest =>
    if Decimal.isDigit c then
      let rest := rest.dropWhile isSpacedDigit
      rest.isEmpty || afterPlaces false rest.length rest == (true, [])
    else false

/-- The type of a plain scalar.  A line end at the end of the text is no part of the form. -/
def ofPlain (text : List Char) : Tag :=
  let s := if text.getLast? == some '\n' && 1 < text.length then text.dropLast else text
  let word := String.ofList s
  if flagWords.contains word then .flag
  else if isFloat s then .float
  else if isInteger s then .int
  else if word == "<<" then .merge
  else if nullWords.contains word then .null
  else if Timestamp.isPlain s then .timestamp
  else if word == "=" then .default_
  else .text

/-- The type of a scalar with an optional tag.  The tag `!` asks for the type of the form. -/
def ofScalar (tag : Option String) (plain : Bool) (text : List Char) : Tag :=
  match tag with
  | none => if plain then ofPlain text else .text
  | some name => if name == "!" then ofPlain text else ofName name

/-- The type of a collection with an optional tag. -/
def ofCollection (tag : Option String) (otherwise : Tag) : Tag :=
  match tag with
  | none => otherwise
  | some name => if name == "!" then otherwise else ofName name

end Tag
end Yaml
end LogBalancer
