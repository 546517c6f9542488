/-
# Arguments

How a list of arguments is read as options and operands.

An argument that starts with a hyphen and has more than one character is an option.  A long
option is written out in full and takes its value after an equals sign or from the next
argument; short options can be joined, and the value of the last one is the rest of the argument
or the next one.  After two hyphens everything is an operand.  The first operand ends the
options of the program; those of a command may stand between its operands.
-/

namespace LogBalancer
namespace Arguments

/-- The options of the program and its commands. -/
inductive Switch
  | version
  | help
  | verbose
  | quiet
  | debug
  | config
  | output
  | format
  | noValidate
  | json
  deriving DecidableEq, Repr

/-- An option under one of its names. -/
structure Spec where
  name : String
  switch : Switch
  takesValue : Bool := false

/-- The options of the program. -/
def programSpecs : List Spec :=
  [⟨"--version", .version, false⟩, ⟨"--help", .help, false⟩,
   ⟨"--verbose", .verbose, false⟩, ⟨"-v", .verbose, false⟩,
   ⟨"--quiet", .quiet, false⟩, ⟨"-q", .quiet, false⟩,
   ⟨"--debug", .debug, false⟩,
   ⟨"--config", .config, true⟩, ⟨"-c", .config, true⟩]

/-- The options of `generate`. -/
def generateSpecs : List Spec :=
  [⟨"--help", .help, false⟩,
   ⟨"--output", .output, true⟩, ⟨"-o", .output, true⟩,
   ⟨"--format", .format, true⟩, ⟨"-f", .format, true⟩,
   ⟨"--no-validate", .noValidate, false⟩]

/-- The options of `check` and `teams`. -/
def listSpecs : List Spec :=
  [⟨"--help", .help, false⟩, ⟨"--json-output", .json, false⟩, ⟨"--json", .json, false⟩]

/-- A list of arguments that cannot be read. -/
structure Misuse
  deriving DecidableEq, Repr

/-- An option as it was given. -/
abbrev Given := Switch × Option String

/-- What one argument says: the options in it, and the one whose value is the next argument. -/
structure Reading where
  given : List Given := []
  open_ : Option Switch := none

/-- The option of a name. -/
def find? (specs : List Spec) (name : String) : Option Spec := specs.find? (·.name == name)

/-- Reads the letters of joined short options. -/
def readLetters (specs : List Spec) : List Char → Except Misuse Reading
  | [] => .ok {}
  | c :: rest =>
    match find? specs (String.ofList ['-', c]) with
    | none => .error ⟨⟩
    | some spec =>
      if spec.takesValue then
        if rest.isEmpty then .ok { open_ := some spec.switch }
        else .ok { given := [(spec.switch, some (String.ofList rest))] }
      else (readLetters specs rest).map fun r => { r with given := (spec.switch, none) :: r.given }

/-- Reads an option argument. -/
def readOption (specs : List Spec) (arg : String) : Except Misuse Reading :=
  let s := arg.toList
  let name := s.takeWhile (· != '=')
  let value := s.drop (name.length + 1)
  let hasValue := s.contains '='
  if "--".toList.isPrefixOf s then
    match find? specs (String.ofList name) with
    | none => .error ⟨⟩
    | some spec =>
      if spec.takesValue then
        if hasValue then .ok { given := [(spec.switch, some (String.ofList value))] }
        else .ok { open_ := some spec.switch }
      else if hasValue then .error ⟨⟩
      else .ok { given := [(spec.switch, none)] }
  else readLetters specs (s.drop 1)

/-- The options and operands of a list of arguments. -/
structure Parsed where
  given : List Given := []
  operands : List String := []

/-- Whether an argument is an option. -/
def isOption (arg : String) : Bool :=
  match arg.toList with
  | '-' :: _ :: _ => true
  | _ => false

/-- Adds what was read before. -/
def Parsed.after (given : List Given) (p : Parsed) : Parsed := { p with given := given ++ p.given }

/-- Reads a list of arguments.  With `mixed`, options may follow operands. -/
def parse (specs : List Spec) (mixed : Bool) : List String → Except Misuse Parsed
  | [] => .ok {}
  | arg :: rest =>
    if arg = "--" then .ok { operands := rest }
    else if isOption arg then
      match readOption specs arg with
      | .error e => .error e
      | .ok r =>
        match r.open_ with
        | none => (parse specs mixed rest).map (·.after r.given)
        | some switch =>
          match rest with
          | [] => .error ⟨⟩
          | value :: rest =>
            (parse specs mixed rest).map (·.after (r.given ++ [(switch, some value)]))
    else if mixed then (parse specs mixed rest).map fun p => { p with operands := arg :: p.operands }
    else .ok { operands := arg :: rest }

/-- Whether an option was given. -/
def Parsed.has (p : Parsed) (switch : Switch) : Bool := p.given.any (·.1 == switch)

/-- The last value that was given for an option. -/
def Parsed.value? (p : Parsed) (switch : Switch) : Option String :=
  (p.given.reverse.find? (·.1 == switch)).bind (·.2)

/-- The first of the options that ask for a text only, if one was given. -/
def Parsed.asks? (p : Parsed) : Option Switch :=
  (p.given.find? fun g => g.1 == .version || g.1 == .help).map (·.1)

end Arguments
end LogBalancer
