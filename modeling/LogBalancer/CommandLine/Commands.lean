/-
# Commands

What the commands do and print.  A command that runs gives an `Ending`: the exit code and the
texts on the two output streams, or the failure that ended it.

* `generate` writes the rendered configuration to a file or to standard output, and nothing else
  to standard output.
* `check` reports on the configuration on standard output.
* `teams` lists the teams on standard output.
-/

import LogBalancer.CommandLine.Terminal
import LogBalancer.Generation
import LogBalancer.Inspection

namespace LogBalancer
namespace Commands

/-- How a command ends. -/
structure Ending where
  tree : FileTree
  exitCode : Nat := 0
  stdout : String := ""
  /-- What the command itself writes on the error stream, after all notes. -/
  stderr : String := ""
  escape : Option Escape := none

/-- The ending of a command that a failure ends. -/
def Ending.escaping (tree : FileTree) (e : Escape) (stdout : String := "") : Ending :=
  { tree := tree, exitCode := 1, stdout := stdout, escape := some e }

/-- An item of a list of messages. -/
def bullet (s : String) : String := "   • " ++ s

/-- Lines as they are shown. -/
def lines (colours : Bool) (ls : List String) : String :=
  String.join (ls.map (Terminal.line colours))

/-! ### generate -/

/-- The text on standard output that a stream holds. -/
def shown (stream : Option TextStream) : String := (stream.bind TextStream.text?).getD ""

/-- Generates a configuration. -/
def generate (host : Host) (request : Request) (quiet colours : Bool)
    (trouble : Generation.Trouble := {}) : Noted Ending := do
  let stdout := if request.output.isSome then none else some (TextStream.opened "")
  let outcome ← Generation.run host request stdout trouble
  let text := shown outcome.stream
  match outcome.result with
  | .error (.escape e) => return .escaping outcome.tree e text
  | .error (.write e) =>
    return { tree := outcome.tree, exitCode := 1, stdout := text,
             stderr := lines colours [Terminal.paint .red false ("❌ " ++ e.message)] }
  | .ok result =>
    if result.ok then
      let report := match request.output with
        | some output =>
          if quiet then ""
          else lines colours [Terminal.paint .green false
            ("✅ Wrote " ++ Decimal.natural result.teamCount ++ " team(s) to " ++ output.toString)]
        | none => ""
      return { tree := outcome.tree, stdout := text, stderr := report }
    else
      return { tree := outcome.tree, exitCode := 1, stdout := text,
               stderr := lines colours
                 (Terminal.paint .red true "❌ Cannot generate config:" ::
                   result.errors.map bullet) }

/-! ### check -/

/-- The outcome of a check as a JSON value. -/
def checkJson (r : Inspection.Result) : Json :=
  .object
    [("valid", .flag r.valid),
     ("config_path", match r.path with
       | some p => .text p.toString
       | none => .null),
     ("errors", .array (r.errors.map .text)),
     ("warnings", .array (r.warnings.map .text)),
     ("team_count", .number r.teamCount)]

/-- The outcome of a check in lines. -/
def checkLines (r : Inspection.Result) : List String :=
  let source := match r.path with
    | some p => p.toString
    | none => "built-in catalog"
  (if r.valid then
    [Terminal.paint .green true "✅ Configuration is valid",
     "   Source: " ++ source,
     "   Teams: " ++ Decimal.natural r.teamCount]
  else Terminal.paint .red true "❌ Configuration errors:" :: r.errors.map bullet) ++
  (if r.warnings.isEmpty then []
  else "" :: Terminal.paint .yellow false "⚠️  Warnings:" :: r.warnings.map bullet)

/-- Checks the configuration. -/
def check (host : Host) (path : Option Path) (asJson colours : Bool) : Noted Ending := do
  match ← Inspection.run host path with
  | .error e => return .escaping host.tree e
  | .ok r =>
    return { tree := host.tree, exitCode := if r.valid then 0 else 1,
             stdout := lines colours
               (if asJson then [(checkJson r).render] else checkLines r) }

/-! ### teams -/

/-- A row of the list of teams. -/
structure Row where
  team : String
  port : Int
  script : String
  deriving DecidableEq, Repr

/-- The rows of a configuration. -/
def rows (config : Config) : List Row :=
  config.teams.map fun t => ⟨t.name, t.port, config.healthcheck.script t⟩

/-- A row as a JSON value. -/
def Row.json (r : Row) : Json :=
  .object [("team", .text r.team), ("port", .number r.port), ("script", .text r.script)]

/-- A text filled up with spaces on its left. -/
def padLeft (width : Nat) (s : String) : String :=
  String.ofList (List.replicate (width - s.length) ' ') ++ s

/-- A text filled up with spaces on its right. -/
def padRight (width : Nat) (s : String) : String :=
  s ++ String.ofList (List.replicate (width - s.length) ' ')

/-- A row in a line whose port is written as `port`. -/
def Row.line (r : Row) (port : String) : String :=
  padLeft 6 port ++ "  " ++ padRight 24 r.team ++ " ./" ++ r.script

/-- The lines of the rows, up to the first whose port cannot be written. -/
def rowLines : List Row → List String × Bool
  | [] => ([], true)
  | r :: rest =>
    match portText r.port with
    | .error _ => ([], false)
    | .ok port =>
      let (ls, complete) := rowLines rest
      (r.line port :: ls, complete)

/-- Lists the teams. -/
def teams (host : Host) (path : Option Path) (asJson colours : Bool) : Noted Ending := do
  match ← (TeamFile.resolve host path).run with
  | .error (.config e) =>
    return { tree := host.tree, exitCode := 1,
             stderr := lines colours [Terminal.paint .red false ("❌ " ++ e.message)] }
  | .error (.escape e) => return .escaping host.tree e
  | .ok (config, _) =>
    let rs := rows config
    if asJson then
      if rs.all fun r => Decimal.isWritable r.port then
        return { tree := host.tree,
                 stdout := lines colours [(Json.array (rs.map Row.json)).render] }
      else return .escaping host.tree .tooLong
    else
      let (ls, complete) := rowLines rs
      if complete then return { tree := host.tree, stdout := lines colours ls }
      else return .escaping host.tree .tooLong (lines colours ls)

end Commands
end LogBalancer
