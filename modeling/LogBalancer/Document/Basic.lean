/-
# The document of a configuration

What is written, before any format: an `api` table and one server for each team.  A table is
an ordered list of fields, and a server is a table with the three tables `udp`, `discovery`
and `healthcheck` in it.  `Document.ofTeams` builds it from a team list and its settings; it
fails when a port has more digits than can be written.

Both text formats print this one document (`Document.Toml`, `Document.Json`).
-/

import LogBalancer.Problem
import LogBalancer.Team

namespace LogBalancer

/-- The value of a field. -/
inductive Item
  | flag (b : Bool)
  | number (n : Nat)
  | text (s : String)
  | texts (items : List String)
  deriving DecidableEq, Repr

/-- A field of a table.  A tight field is laid out without spaces where the format leaves a
choice. -/
structure Field where
  key : String
  item : Item
  tight : Bool := false
  deriving DecidableEq, Repr

/-- The tables of one server. -/
structure Server where
  name : String
  fields : List Field
  tables : List (String × List Field)
  deriving DecidableEq, Repr

/-- All tables, servers in the order of their teams. -/
structure Document where
  api : List Field
  servers : List Server
  deriving DecidableEq, Repr

/-- The fields of the `api` table. -/
def Api.fields (api : Api) : List Field :=
  [⟨"enabled", .flag api.enabled, false⟩, ⟨"bind", .text api.bind, false⟩]

/-- The address of a backend of a team, for a port written as `port`. -/
def target (host port : String) : String := host ++ ":" ++ port

/-- The server of a team whose port is written as `port`. -/
def Server.of (settings : Settings) (team : Team) (port : String) : Server where
  name := team.name
  fields :=
    [⟨"bind", .text (target "0.0.0.0" port), false⟩,
     ⟨"protocol", .text "udp", false⟩,
     ⟨"balance", .text "roundrobin", false⟩,
     ⟨"backend_idle_timeout", .text "0", true⟩,
     ⟨"client_idle_timeout", .text "0", true⟩]
  tables :=
    let check := settings.healthcheck
    [("udp", [⟨"max_requests", .number 1, false⟩, ⟨"max_responses", .number 0, false⟩]),
     ("discovery",
       [⟨"kind", .text settings.discovery.kind, false⟩,
        ⟨"static_list", .texts (settings.discovery.hosts.map (target · port)), false⟩]),
     ("healthcheck",
       [⟨"interval", .text check.interval, false⟩,
        ⟨"kind", .text check.kind, false⟩,
        ⟨"exec_command", .text ("./" ++ check.script team), false⟩,
        ⟨"exec_expected_positive_output", .text check.positiveOutput, false⟩,
        ⟨"exec_expected_negative_output", .text check.negativeOutput, false⟩,
        ⟨"timeout", .text check.timeout, false⟩])]

/-- The server of a team. -/
def Server.ofTeam (settings : Settings) (team : Team) : Except TooLong Server := do
  let port ← portText team.port
  return Server.of settings team port

/-- The document of a team list. -/
def Document.ofTeams (settings : Settings) (teams : List Team) : Except TooLong Document := do
  let servers ← teams.mapM (Server.ofTeam settings)
  return ⟨settings.api.fields, servers⟩

end LogBalancer
