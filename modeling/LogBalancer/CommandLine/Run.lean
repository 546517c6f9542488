/-
# Running the program

From a list of arguments to an exit code and the texts on the two output streams.  A list of
arguments that cannot be read ends with exit code 2 and leaves everything as it is.

The notes of a command are written by a journal that is set up before the command starts, at
the level that the options ask for: `--debug` before `--verbose` before `--quiet` before the
environment.
-/

import LogBalancer.CommandLine.Arguments
import LogBalancer.CommandLine.Commands

namespace LogBalancer
namespace CommandLine

open Arguments (Parsed)
open Commands (Ending)

/-- The line that `--version` prints. -/
def versionText : String := "lbconfig, version 0.1.0\n"

/-- How the program is called. -/
def usageText : String :=
  "Usage: lbconfig [OPTIONS] COMMAND [ARGS]...\n\n" ++
    "Options: --version, -v/--verbose, -q/--quiet, --debug, -c/--config PATH, --help\n" ++
    "Commands:\n" ++
    "  generate  -o/--output FILE, -f/--format [toml|json], --no-validate\n" ++
    "  check     --json\n" ++
    "  teams     --json\n"

/-- The variable that holds the name of a level. -/
def levelVariable : String := "LBCONFIG_LOG_LEVEL"

/-- The name of the level at which notes are written. -/
def levelName (options : Parsed) (environment : Environment) : String :=
  if options.has .debug then "DEBUG"
  else if options.has .verbose then "INFO"
  else if options.has .quiet then "ERROR"
  else (environment.lookup levelVariable).getD "WARNING"

/-- The end of a run before a command starts. -/
inductive Stop
  /-- The arguments cannot be read. -/
  | misuse
  /-- Only a text was asked for. -/
  | text (s : String)
  | escape (e : Escape)

/-- The ending of a run that stops early. -/
def Stop.ending (tree : FileTree) : Stop → Ending
  | .misuse => { tree := tree, exitCode := 2, stderr := usageText }
  | .text s => { tree := tree, stdout := s }
  | .escape e => .escaping tree e

/-- Reads arguments and answers the options that ask for a text only. -/
def readOptions (specs : List Arguments.Spec) (mixed : Bool) (args : List String) :
    Except Stop Parsed :=
  match Arguments.parse specs mixed args with
  | .error _ => .error .misuse
  | .ok p =>
    match p.asks? with
    | some .version => .error (.text versionText)
    | some _ => .error (.text usageText)
    | none => .ok p

/-- The path that an option gives; an empty value counts as none. -/
def pathValue (p : Parsed) (switch : Arguments.Switch) : Except Stop (Option String) :=
  match p.value? switch with
  | none => .ok none
  | some v =>
    if v.toList.contains '\x00' then .error (.escape .nul)
    else if v.isEmpty then .ok none
    else .ok (some v)

/-- What the options of the program ask for. -/
structure Program where
  options : Parsed
  path : Option Path

/-- Reads the options of the program. -/
def readProgram (args : List String) : Except Stop Program := do
  let options ← readOptions Arguments.programSpecs false args
  let path ← pathValue options .config
  return ⟨options, path.map Path.ofString⟩

/-- A value of `--output`: it must not name a directory. -/
def checkOutput (host : Host) (p : Parsed) : Except Stop (Option Path) := do
  match ← pathValue p .output with
  | none => return none
  | some v =>
    let path := Path.ofString v
    match host.tree.stat host.cwd path with
    | .ok .directory => throw .misuse
    | _ => return some path

/-- A value of `--format`: it must name a format. -/
def checkFormat (p : Parsed) : Except Stop String :=
  match p.value? .format with
  | none => .ok Format.toml.name
  | some v => if (Format.ofName? v).isSome then .ok v else .error .misuse

/-- Whether `--format` was given before any `--output`. -/
def formatFirst (p : Parsed) : Bool :=
  match p.given.find? fun g => g.1 == .output || g.1 == .format with
  | some (.format, _) => true
  | _ => false

/-- The values of `--output` and `--format`.  They are looked at in the order in which their options
were first given. -/
def checkTarget (host : Host) (p : Parsed) : Except Stop (Option Path × String) :=
  if formatFirst p then do
    let format ← checkFormat p
    let output ← checkOutput host p
    return (output, format)
  else do
    let output ← checkOutput host p
    let format ← checkFormat p
    return (output, format)

/-- What the options of `generate` ask for. -/
def readRequest (host : Host) (program : Program) (p : Parsed) : Except Stop Request := do
  let (output, format) ← checkTarget host p
  return { path := program.path, validate := !p.has .noValidate, format := format,
           output := output }

/-- Refuses operands. -/
def noOperands (p : Parsed) : Except Stop Unit :=
  if p.operands.isEmpty then .ok () else .error .misuse

/-- A command with its options read, ready to run. -/
def command (host : Host) (program : Program) (colours : Bool) (trouble : Generation.Trouble)
    (name : String) (args : List String) : Except Stop (Noted Ending) := do
  if name = "generate" then
    let p ← readOptions Arguments.generateSpecs true args
    let request ← readRequest host program p
    noOperands p
    return Commands.generate host request (program.options.has .quiet) colours trouble
  else if name = "check" || name = "teams" then
    let p ← readOptions Arguments.listSpecs true args
    noOperands p
    let asJson := p.has .json
    if name = "check" then return Commands.check host program.path asJson colours
    else return Commands.teams host program.path asJson colours
  else
    -- A name that looks like an option may still ask for a text.
    if Arguments.isOption name then
      let _ ← readProgram (name :: args)
    throw .misuse

/-- Reads the arguments as far as they say what to run. -/
def plan (host : Host) (args : List String) (colours : Bool) (trouble : Generation.Trouble) :
    Except Stop (Program × Noted Ending) := do
  let program ← readProgram args
  match program.options.operands with
  | [] => throw .misuse
  | name :: rest => return (program, ← command host program colours trouble name rest)

/-- Runs the program. -/
def run (host : Host) (args : List String) (colours : Bool := false)
    (trouble : Generation.Trouble := {}) : Ending :=
  match plan host args colours trouble with
  | .error stop => stop.ending host.tree
  | .ok (program, noted) =>
    let journal := ({} : Journal).setUp (levelName program.options host.environment)
    { noted.value with stderr := (journal.takeAll noted.notes).written ++ noted.value.stderr }

end CommandLine
end LogBalancer
