/-
# Checking

Whether a configuration would be generated, and what is remarkable about it.  Warnings are about
configurations that work but may not be meant: the built-in catalog in use, no teams, or no
hosts.
-/

import LogBalancer.Problem
import LogBalancer.TeamFile

namespace LogBalancer
namespace Inspection

/-- The outcome of a check. -/
structure Result where
  valid : Bool := false
  /-- The configuration, if there is one. -/
  config : Option Config := none
  /-- The file that it is from; the built-in catalog is from none. -/
  path : Option Path := none
  errors : List String := []
  warnings : List String := []

/-- The number of teams of the checked configuration. -/
def Result.teamCount (r : Result) : Nat :=
  match r.config with
  | some config => config.teams.length
  | none => 0

/-- The warnings on a configuration and where it is from. -/
def warnings (config : Config) (source : Option Path) : List String :=
  (if source.isNone then
    ["No teams.yml found. Using the built-in team catalog."] else []) ++
  (if config.teams.isEmpty then
    ["No teams defined. Only the [api] section will be generated."] else []) ++
  (if config.discovery.hosts.isEmpty then
    ["No discovery hosts defined. Servers will have no backends."] else [])

/-- Checks the configuration of an explicit team file, or the one that is used without. -/
def run (host : Host) (path : Option Path) : Noted (Except Escape Result) := do
  match ← (TeamFile.resolve host path).run with
  | .error (.config e) => return .ok { errors := [e.message] }
  | .error (.escape e) => return .error e
  | .ok (config, source) =>
    match findProblems config.teams with
    | .error _ => return .error .tooLong
    | .ok problems =>
      return .ok
        { valid := problems.isEmpty, config := some config, path := source, errors := problems,
          warnings := warnings config source }

end Inspection
end LogBalancer
