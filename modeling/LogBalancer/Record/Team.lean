/-
# Records of a team file

How a mapping is read as the parts of a configuration, and how each part is written back as a
mapping.

A record takes the values of its own keys and no notice of others.  A key that is missing gives
its default, or a fault if it has none.  All fields are read, in the order in which the record
declares them, and the faults of all of them are kept.

The flag of a team goes by two keys; `flagAlias` is looked at first.
-/

import LogBalancer.Record.Scalar
import LogBalancer.Team

namespace LogBalancer
namespace Record

/-- The entries of a mapping. -/
abbrev Entries := List (Value × Value)

/-- Reads a mapping; anything else is not the record `name`. -/
def record {α : Type} (name : String) (read : Entries → Checked α) : Reader α
  | .mapping entries => read entries
  | _ => .fault (.notRecord name)

/-- Reads the value of a key that must be there. -/
def required {α : Type} (key : String) (read : Reader α) (entries : Entries) : Checked α :=
  match Value.lookup key entries with
  | some v => (read v).under (.key key)
  | none => .refused [⟨[.key key], .missing⟩]

/-- Reads the value of a key that has a default. -/
def optional {α : Type} (key : String) (read : Reader α) (default_ : α) (entries : Entries) :
    Checked α :=
  match Value.lookup key entries with
  | some v => (read v).under (.key key)
  | none => .accepted default_

/-- The key of the flag of a team, as team files write it. -/
def flagAlias : String := "isTrueHealthCheck"

/-- The other key of the flag of a team. -/
def flagKey : String := "is_true_health_check"

/-- Reads the flag of a team under the first of its keys that is there. -/
def teamFlag (entries : Entries) : Checked Bool :=
  match Value.lookup flagAlias entries with
  | some v => (optionalFlag v).under (.key flagAlias)
  | none => optional flagKey optionalFlag false entries

/-- Reads a team. -/
def team : Reader Team :=
  record "TeamEntry" fun es =>
    (((required "port" port es).zip (required "team" text es)).zip (teamFlag es)).map
      fun ((p, n), f) => ⟨p, n, f⟩

/-- Reads the settings of the interface. -/
def api : Reader Api :=
  record "ApiSettings" fun es =>
    ((optional "enabled" flag ({} : Api).enabled es).zip
      (optional "bind" text ({} : Api).bind es)).map fun (e, b) => ⟨e, b⟩

/-- Reads the settings of the discovery. -/
def discovery : Reader Discovery :=
  record "DiscoverySettings" fun es =>
    ((optional "kind" text ({} : Discovery).kind es).zip
      (optional "hosts" (sequence .notTuple text) ({} : Discovery).hosts es)).map
      fun (k, hs) => ⟨k, hs⟩

/-- Reads the settings of the health check. -/
def healthcheck : Reader Healthcheck :=
  record "HealthcheckSettings" fun es =>
    let setting (key : String) (default_ : Healthcheck → String) : Checked String :=
      optional key text (default_ {}) es
    ((setting "kind" (·.kind)).zip <| (setting "interval" (·.interval)).zip <|
      (setting "timeout" (·.timeout)).zip <| (setting "true_script" (·.trueScript)).zip <|
      (setting "cache_script" (·.cacheScript)).zip <|
      (setting "expected_positive_output" (·.positiveOutput)).zip
        (setting "expected_negative_output" (·.negativeOutput))).map
      fun (kind, interval, timeout, trueScript, cacheScript, positive, negative) =>
        ⟨kind, interval, timeout, trueScript, cacheScript, positive, negative⟩

/-- Reads a whole configuration. -/
def config : Reader Config :=
  record "TeamsConfig" fun es =>
    ((optional "api" api {} es).zip <| (optional "discovery" discovery {} es).zip <|
      (optional "healthcheck" healthcheck {} es).zip
        (optional "teams" (sequence .notList team) [] es)).map
      fun (a, d, h, ts) => { api := a, discovery := d, healthcheck := h, teams := ts }

/-- A mapping with texts for keys. -/
def mappingOf (entries : List (String × Value)) : Value :=
  .mapping (entries.map fun (k, v) => (.text k, v))

/-- A team as a mapping; `byAlias` chooses the key of its flag. -/
def dumpTeam (byAlias : Bool) (t : Team) : Value :=
  mappingOf
    [("port", .int t.port), ("team", .text t.name),
     (if byAlias then flagAlias else flagKey, .flag t.trueCheck)]

/-- The settings of the interface as a mapping. -/
def dumpApi (a : Api) : Value :=
  mappingOf [("enabled", .flag a.enabled), ("bind", .text a.bind)]

/-- The settings of the discovery as a mapping. -/
def dumpDiscovery (d : Discovery) : Value :=
  mappingOf [("kind", .text d.kind), ("hosts", .list (d.hosts.map .text))]

/-- The settings of the health check as a mapping. -/
def dumpHealthcheck (h : Healthcheck) : Value :=
  mappingOf
    [("kind", .text h.kind), ("interval", .text h.interval), ("timeout", .text h.timeout),
     ("true_script", .text h.trueScript), ("cache_script", .text h.cacheScript),
     ("expected_positive_output", .text h.positiveOutput),
     ("expected_negative_output", .text h.negativeOutput)]

/-- A whole configuration as a mapping. -/
def dumpConfig (byAlias : Bool) (c : Config) : Value :=
  mappingOf
    [("api", dumpApi c.api), ("discovery", dumpDiscovery c.discovery),
     ("healthcheck", dumpHealthcheck c.healthcheck),
     ("teams", .list (c.teams.map (dumpTeam byAlias)))]

end Record
end LogBalancer
