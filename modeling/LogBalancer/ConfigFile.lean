/-
# Configuration files

A configuration in one of the two text formats, with the path at which it belongs and a
sentence on what it is.  `ConfigFile.generate` makes one from a configuration; it looks at the
format first, then validates if asked to, then renders.
-/

import LogBalancer.Document.Json
import LogBalancer.Document.Toml
import LogBalancer.Problem

namespace LogBalancer

/-- The text formats. -/
inductive Format
  | toml
  | json
  deriving DecidableEq, Repr

namespace Format

/-- The name of a format, which is also its file extension. -/
def name : Format → String
  | .toml => "toml"
  | .json => "json"

/-- The formats in the order in which messages list them. -/
def all : List Format := [.toml, .json]

/-- The format of a name. -/
def ofName? (s : String) : Option Format := all.find? (·.name == s)

/-- The names in alphabetical order. -/
def names : List String := (all.map name).mergeSort (fun a b => decide (a ≤ b))

/-- The text of a team list in a format. -/
def render (format : Format) (settings : Settings) (teams : List Team) : Except TooLong String :=
  match format with
  | .toml => renderToml settings teams
  | .json => renderJson settings teams

end Format

/-- Why a configuration is not rendered. -/
inductive RenderError
  | unknownFormat (name : String)
  | refused (reason : Refusal)
  | tooLong
  deriving DecidableEq, Repr

/-- The failure in one line. -/
def RenderError.message : RenderError → String
  | .unknownFormat name =>
    "Unknown format " ++ Text.quoted name ++ " (expected one of: " ++
      ", ".intercalate (Format.all.map Format.name) ++ ")"
  | .refused reason => reason.message
  | .tooLong => TooLong.message

/-- The text of a team list in a format, validated first if `validate` is set. -/
def renderTeams (format : Format) (validate : Bool) (settings : Settings) (teams : List Team) :
    Except RenderError String := do
  if validate then (validateTeams teams).mapError .refused
  (format.render settings teams).mapError fun _ => .tooLong

/-- A text with the path at which it belongs. -/
structure ConfigFile where
  path : String
  content : String
  reason : String := ""
  deriving DecidableEq, Repr

namespace ConfigFile

/-- The sentence on a rendered configuration. -/
def reasonFor (format : Format) (teamCount : Nat) : String :=
  "Generated " ++ format.name ++ " config for " ++ Decimal.natural teamCount ++ " team(s)"

/-- The path of a file for which none is given. -/
def defaultPath (format : Format) : String := "gobetween." ++ format.name

/-- The file of a configuration in the format of a name.  An empty path counts as none. -/
def generate (config : Config) (path : Option String) (formatName : String) (validate : Bool) :
    Except RenderError ConfigFile :=
  match Format.ofName? formatName with
  | none => .error (.unknownFormat formatName)
  | some format => do
    let content ← renderTeams format validate config.toSettings config.teams
    let path := match path with
      | some p => if p.isEmpty then defaultPath format else p
      | none => defaultPath format
    return ⟨path, content, reasonFor format config.teams.length⟩

end ConfigFile
end LogBalancer
