/-
# Kinds of records

The records by name.  `Model.normalize` reads a value as a record and writes it back; what
comes out has every field and each in one form.  `Model.assign` replaces a field of a record
that allows it, without reading the new value.
-/

import LogBalancer.ConfigFile
import LogBalancer.Record.Team

namespace LogBalancer
namespace Record

/-- Reads a configuration file. -/
def configFile : Reader ConfigFile :=
  record "GeneratedFile" fun es =>
    ((required "path" text es).zip <| (required "content" text es).zip
      (optional "reason" text "" es)).map fun (p, c, r) => ⟨p, c, r⟩

/-- A configuration file as a mapping. -/
def dumpConfigFile (f : ConfigFile) : Value :=
  mappingOf [("path", .text f.path), ("content", .text f.content), ("reason", .text f.reason)]

/-- The kinds of records. -/
inductive Model
  | team
  | api
  | discovery
  | healthcheck
  | config
  | file
  deriving DecidableEq, Repr

namespace Model

/-- The name of a kind, as messages give it. -/
def name : Model → String
  | .team => "TeamEntry"
  | .api => "ApiSettings"
  | .discovery => "DiscoverySettings"
  | .healthcheck => "HealthcheckSettings"
  | .config => "TeamsConfig"
  | .file => "GeneratedFile"

/-- Every kind. -/
def all : List Model := [.team, .api, .discovery, .healthcheck, .config, .file]

/-- The kind of a name. -/
def ofName? (s : String) : Option Model := all.find? (·.name == s)

/-- Whether the fields of a record are fixed once it is made. -/
def isFrozen : Model → Bool
  | .config | .file => false
  | _ => true

/-- Reads a value as a record and writes the record back. -/
def normalize (m : Model) (byAlias : Bool) (v : Value) : Checked Value :=
  match m with
  | .team => (Record.team v).map (dumpTeam byAlias)
  | .api => (Record.api v).map dumpApi
  | .discovery => (Record.discovery v).map dumpDiscovery
  | .healthcheck => (Record.healthcheck v).map dumpHealthcheck
  | .config => (Record.config v).map (dumpConfig byAlias)
  | .file => (configFile v).map dumpConfigFile

/-- The outcome of an assignment. -/
inductive Assigned
  | done (record : Value)
  | frozen (fault : Fault)
  | noField (message : String)

/-- Replaces a field of a record that was written as a mapping.  The value is taken as it is. -/
def assign (m : Model) (field : String) (value : Value) (record : Value) : Assigned :=
  if m.isFrozen then .frozen ⟨[.key field], .frozen⟩
  else
    match record with
    | .mapping entries =>
      match Value.lookup field entries with
      | some _ => .done (.mapping (Value.insert (.text field) value entries))
      | none => .noField ("\"" ++ m.name ++ "\" object has no field \"" ++ field ++ "\"")
    | v => .done v

end Model
end Record
end LogBalancer
