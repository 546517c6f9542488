/-
# Placeholders

A team file may name environment variables: a placeholder is `$`, an opening brace, a name and
a closing brace, where the name is any text without a closing brace and without a line feed.
It stands for the value of the variable, or for nothing if the variable is not set.

A text is read from left to right.  Where a placeholder starts, it is taken up to the first
closing brace, so an inner opener belongs to the name; every other character stands for
itself.  Values that are put in are not read again.
-/

namespace LogBalancer

/-- The environment: the value of each variable that is set. -/
abbrev Environment := List (String × String)

namespace Placeholder

/-- A piece of a text. -/
inductive Piece
  | char (c : Char)
  | variable_ (name : List Char)
  deriving DecidableEq, Repr

/-- The characters that a name may have. -/
def isNameChar (c : Char) : Bool := c != '\x7d' && c != '\n'

/-- The name before the first closing brace and what follows the brace, if the brace comes before
the end of the line. -/
def closed? : List Char → Option (List Char × List Char)
  | [] => none
  | c :: s =>
    if c = '\x7d' then some ([], s)
    else if c = '\n' then none
    else (closed? s).map fun (name, rest) => (c :: name, rest)

/-- What follows a closed mark is shorter than what followed its start. -/
theorem closed?_length {s name rest : List Char} (h : closed? s = some (name, rest)) :
    rest.length < s.length := by
  induction s generalizing name with
  | nil => simp [closed?] at h
  | cons c s ih =>
    unfold closed? at h
    split at h
    · simp only [Option.some.injEq, Prod.mk.injEq] at h
      simp [← h.2]
    · split at h
      · simp at h
      · obtain ⟨⟨n, r⟩, hr, heq⟩ := Option.map_eq_some_iff.1 h
        simp only [Prod.mk.injEq] at heq
        have := ih (heq.2 ▸ hr)
        simp only [List.length_cons]
        omega

/-- The name and the rest of a text that starts with a placeholder. -/
def start? : List Char → Option (List Char × List Char)
  | '$' :: '\x7b' :: s => closed? s
  | _ => none

/-- What follows a mark is shorter than the text that starts with it. -/
theorem start?_length {s name rest : List Char} (h : start? s = some (name, rest)) :
    rest.length < s.length := by
  unfold start? at h
  split at h
  · have := closed?_length h
    simp only [List.length_cons]
    omega
  · simp at h

/-- The pieces of a text. -/
def pieces (s : List Char) : List Piece :=
  match h : start? s with
  | some (name, rest) =>
    have := start?_length h
    .variable_ name :: pieces rest
  | none =>
    match s with
    | [] => []
    | c :: rest => .char c :: pieces rest
termination_by s.length
decreasing_by
  all_goals simp_all

/-- The value of a variable; nothing if it is not set. -/
def valueOf (env : Environment) (name : List Char) : List Char :=
  match env.lookup (String.ofList name) with
  | some v => v.toList
  | none => []

/-- What a piece stands for. -/
def Piece.expand (env : Environment) : Piece → List Char
  | .char c => [c]
  | .variable_ name => valueOf env name

/-- The names of the placeholders of a text. -/
def names (s : List Char) : List String :=
  (pieces s).filterMap fun
    | .char _ => none
    | .variable_ name => some (String.ofList name)

/-- A text with its placeholders replaced. -/
def expandChars (env : Environment) (s : List Char) : List Char :=
  (pieces s).flatMap (Piece.expand env)

/-- A text with its placeholders replaced. -/
def expand (env : Environment) (s : String) : String := String.ofList (expandChars env s.toList)

end Placeholder
end LogBalancer
