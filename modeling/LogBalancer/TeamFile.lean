/-
# Team files

Where the configuration comes from.  `TeamFile.discover` looks for a team file from a directory
upwards, `TeamFile.load` reads one, and `TeamFile.resolve` picks the configuration to use: an
explicit file must load; without one the nearest team file must; without any the built-in
catalog is used.

Loading decodes the file, unifies its line ends, replaces placeholders, reads the text as YAML
and reads the value as a configuration.  Null counts as an empty mapping and a list as the list
of teams.
-/

import LogBalancer.Catalog
import LogBalancer.Escape
import LogBalancer.Journal
import LogBalancer.Placeholder
import LogBalancer.Record.Team
import LogBalancer.Yaml.Graph.ToValue

namespace LogBalancer

/-- What the program finds around it. -/
structure Host where
  tree : FileTree := {}
  /-- The current directory. -/
  cwd : Location := []
  environment : Environment := []
  /-- How many calls the reader of a team file can have open: how deeply it can go into a
  document. -/
  depth : Nat := Yaml.usualDepth

/-- Why there is no configuration. -/
inductive ConfigError
  | noFile
  | notFound (path : Path)
  | unreadable (path : Path) (failure : Failure)
  | invalidYaml (path : Path)
  | wrongShape (path : Path) (typeName : String)
  | invalidRecord (faults : List Record.Fault)
  deriving Repr

namespace TeamFile

/-- The name under which team files are looked for. -/
def fileName : String := "teams.yml"

/-- The part of the program that takes the notes of this module. -/
def source : String := "lbconfig.core.config.loader"

/-- A step of a path, as reports write it. -/
def stepText : Record.PathStep → String
  | .key name => name
  | .index i => Decimal.natural i

/-- A fault over two lines: its path, if it has one, and its cause. -/
def faultText (f : Record.Fault) : String :=
  let path := ".".intercalate (f.path.map stepText)
  (if f.path.isEmpty then "" else path ++ "\n") ++
    "  " ++ f.cause.message ++ " [type=" ++ f.cause.kind ++ "]"

/-- All faults of a configuration. -/
def faultsText (faults : List Record.Fault) : String :=
  let n := faults.length
  Decimal.natural n ++ " validation error" ++ (if n = 1 then "" else "s") ++ " for TeamsConfig\n" ++
    "\n".intercalate (faults.map faultText)

end TeamFile

/-- The failure in words. -/
def ConfigError.message : ConfigError → String
  | .noFile => "No " ++ TeamFile.fileName ++ " found. Specify one with --config."
  | .notFound path => "Config file not found: " ++ path.toString
  | .unreadable path failure => "Cannot read " ++ path.toString ++ ": " ++ failure.message
  | .invalidYaml path => "Invalid YAML in " ++ path.toString ++ ": " ++ Yaml.malformedMessage
  | .wrongShape path typeName =>
    "Expected a YAML mapping or list in " ++ path.toString ++ ", got " ++ typeName
  | .invalidRecord faults => "Invalid team configuration: " ++ TeamFile.faultsText faults

/-- Why loading fails. -/
inductive LoadError
  | config (e : ConfigError)
  | escape (e : Escape)
  deriving Repr

/-- The failure in words. -/
def LoadError.message : LoadError → String
  | .config e => e.message
  | .escape e => e.message

namespace TeamFile

/-- A computation that looks at the host, takes notes and may fail to load. -/
abbrev Loading (α : Type) := ExceptT LoadError Noted α

/-- Takes a note. -/
def note (level : Int) (text : String) : Loading Unit := ExceptT.lift (Noted.note level source text)

/-- Stops with a failure of the configuration. -/
def refuse {α : Type} (e : ConfigError) : Loading α := throw (.config e)

/-- Lets a refused file operation escape. -/
def escaping {α : Type} (x : Except Failure α) : Loading α :=
  match x with
  | .ok a => return a
  | .error f => throw (.escape (.system f))

/-- A directory and those above it, the deepest first. -/
def ancestors : Nat → Location → List Location
  | 0, _ => [[]]
  | n + 1, l => l :: ancestors n l.dropLast

/-- The first of some directories that holds a team file. -/
def firstWithFile (host : Host) : List Location → Except Failure (Option Path)
  | [] => .ok none
  | d :: ds =>
    let candidate := (FileTree.pathOf d).child fileName
    match host.tree.isFile host.cwd candidate with
    | .error f => .error f
    | .ok true => .ok (some candidate)
    | .ok false => firstWithFile host ds

/-- The nearest team file in a directory or above it; by default, from the current directory. -/
def discover (host : Host) (start : Option Path := none) : Except Escape (Option Path) :=
  let start := start.getD {}
  if start.holdsNul then .error .nul
  else
    let l := FileTree.resolve host.cwd start
    (firstWithFile host (ancestors l.length l)).mapError .system

/-- The value of the text of a team file. -/
def parse (depth : Nat) (environment : Environment) (text : List Char) : Except Yaml.Fault Value :=
  Yaml.read depth (Placeholder.expandChars environment (Text.unifyLineEnds text))

/-- The mapping that a value stands for: null for none, a list for the teams. -/
def asMapping (path : Path) : Value → Except ConfigError Value
  | .null => .ok (.mapping [])
  | .list teams => .ok (.mapping [(.text "teams", .list teams)])
  | .mapping entries => .ok (.mapping entries)
  | v => .error (.wrongShape path v.typeName)

/-- The configuration of the octets of the file at a path. -/
def decode (depth : Nat) (environment : Environment) (path : Path) (octets : List UInt8) :
    Except LoadError Config := do
  let text ← (Text.decodeFrom 0 octets).mapError fun e => .escape (.undecodable e)
  let value ← (parse depth environment text).mapError fun
    | .malformed _ => .config (.invalidYaml path)
    | .misfit m => .escape (.misfit m)
    | .tooDeep => .escape .tooDeep
  let mapping ← (asMapping path value).mapError .config
  match Record.config mapping with
  | .accepted config => return config
  | .refused faults => throw (.config (.invalidRecord faults))

/-- Loads the team file at a path. -/
def loadFrom (host : Host) (path : Path) : Loading Config := do
  unless ← escaping (host.tree.isFile host.cwd path) do refuse (.notFound path)
  note Level.debug ("Loading team config from " ++ path.toString)
  match host.tree.octetsAt host.cwd path with
  | .error f => refuse (.unreadable path f)
  | .ok octets =>
    let config ← (liftExcept (decode host.depth host.environment path octets) : Loading Config)
    note Level.info
      ("Loaded " ++ Decimal.natural config.teams.length ++ " teams from " ++ path.toString)
    return config
where
  liftExcept (x : Except LoadError Config) : Loading Config := ExceptT.mk (Noted.pure x)

/-- Looks for a team file around the current directory. -/
def discovered (host : Host) : Loading (Option Path) :=
  match discover host with
  | .ok p => return p
  | .error e => throw (.escape e)

/-- Loads an explicit team file, or the nearest one. -/
def load (host : Host) (path : Option Path) : Loading Config := do
  let found ← match path with
    | some p => pure (some p)
    | none => discovered host
  match found with
  | some p => loadFrom host p
  | none => refuse .noFile

/-- The built-in catalog, with a note. -/
def builtIn : Loading Config := do
  ExceptT.lift (Noted.note Level.debug "lbconfig.core.data"
    ("Loaded " ++ Decimal.natural Catalog.teams.length ++ " built-in team definitions"))
  return Catalog.config

/-- The configuration to use and the file it is from, if it is from one. -/
def resolve (host : Host) (path : Option Path) : Loading (Config × Option Path) := do
  let found ← match path with
    | some p => pure (some p)
    | none => discovered host
  match found with
  | some p =>
    let config ← loadFrom host p
    return (config, some p)
  | none =>
    note Level.info ("No " ++ fileName ++ " found — using built-in team catalog")
    let config ← builtIn
    return (config, none)

end TeamFile
end LogBalancer
