/-
# Generating

From a team file to a rendered configuration in its place.  Whatever is wrong with the
configuration or the asked format is an error of the result; a failure to write is not, and
ends the operation.

A text goes to one place: to the output file if there is one, otherwise to the stream if there
is one.
-/

import LogBalancer.ConfigFile
import LogBalancer.Output
import LogBalancer.TeamFile

namespace LogBalancer

/-- What is asked for. -/
structure Request where
  /-- An explicit team file. -/
  path : Option Path := none
  validate : Bool := true
  format : String := "toml"
  output : Option Path := none

namespace Generation

/-- The outcome of generating. -/
structure Result where
  ok : Bool := false
  text : String := ""
  format : String
  teamCount : Nat := 0
  source : Option Path := none
  destination : Option Path := none
  errors : List String := []

/-- Outside reasons for which the writing fails. -/
structure Trouble where
  file : FileTree.Trouble := {}
  stream : TextStream.Trouble := {}

/-- The tree and the stream afterwards, with the result or the failure that ended the operation. -/
structure Outcome where
  tree : FileTree
  stream : Option TextStream
  result : Except Output.Error Result

/-- The part of the program that takes the notes of this module. -/
def source : String := "lbconfig.core.use_cases.generate"

/-- The notes of rendering: a refused list is noted, and so are rendered server blocks. -/
def renderNotes (format : Format) (config : Config) :
    Except RenderError ConfigFile → List Note
  | .error (.refused (.invalid problems)) =>
    [⟨Level.debug, "lbconfig.core.services.team_validation",
      "Team validation failed: " ++ Decimal.natural problems.length ++ " problem(s)"⟩]
  | .error _ => []
  | .ok _ =>
    match format with
    | .toml =>
      [⟨Level.debug, "lbconfig.core.services.generators.gobetween",
        "Rendered " ++ Decimal.natural config.teams.length ++ " server blocks"⟩]
    | .json => []

/-- Renders a configuration, with notes. -/
def render (request : Request) (config : Config) : Noted (Except RenderError ConfigFile) :=
  let file := ConfigFile.generate config none request.format request.validate
  match Format.ofName? request.format with
  | some format => ⟨renderNotes format config file, file⟩
  | none => ⟨[], file⟩

/-- The errors that a failure to render leaves in a result. -/
def renderErrors : RenderError → List String
  | .refused (.invalid problems) => problems
  | e => [e.message]

/-- Brings a text to its place.  The result is `done` once it is there. -/
def deliver (host : Host) (request : Request) (stream : Option TextStream) (trouble : Trouble)
    (text : String) (done : Result) : Noted Outcome :=
  match request.output with
  | some output => do
    let (tree, written) ← Output.toFile host.tree host.cwd text output trouble.file
    return ⟨tree, stream, written.map fun _ => { done with destination := some output }⟩
  | none =>
    match stream with
    | some s => do
      let (s, written) ← Output.emit s text trouble.stream
      return ⟨host.tree, some s, written.map fun _ => done⟩
    | none => return ⟨host.tree, none, .ok done⟩

/-- Generates what is asked for. -/
def run (host : Host) (request : Request) (stream : Option TextStream) (trouble : Trouble := {}) :
    Noted Outcome := do
  let unchanged (result : Except Output.Error Result) : Outcome := ⟨host.tree, stream, result⟩
  let empty : Result := { format := request.format }
  match ← (TeamFile.resolve host request.path).run with
  | .error (.config e) => return unchanged (.ok { empty with errors := [e.message] })
  | .error (.escape e) => return unchanged (.error (.escape e))
  | .ok (config, source) =>
    let resolved := { empty with source := source, teamCount := config.teams.length }
    match ← render request config with
    | .error e => return unchanged (.ok { resolved with errors := renderErrors e })
    | .ok file =>
      Noted.note Level.info Generation.source file.reason
      deliver host request stream trouble file.content
        { resolved with ok := true, text := file.content }

end Generation
end LogBalancer
