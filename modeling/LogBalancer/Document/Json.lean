/-
# The JSON text of a document

The servers are the members of one object, so a name can stand there only once: it keeps the
place of its first server and has the value of its last.
-/

import LogBalancer.Document.Basic
import LogBalancer.Json

namespace LogBalancer

/-- The value of a field. -/
def Item.json : Item → Json
  | .flag b => .flag b
  | .number n => .number n
  | .text s => .text s
  | .texts items => .array (items.map .text)

/-- The members of a table. -/
def fieldMembers (fields : List Field) : List (String × Json) :=
  fields.map fun f => (f.key, f.item.json)

/-- A server: its fields, then its tables. -/
def Server.json (s : Server) : Json :=
  .object (fieldMembers s.fields ++
    s.tables.map fun (table, fields) => (table, .object (fieldMembers fields)))

/-- Sets the value of a name: in its place if it has one, otherwise at the end. -/
def setMember {α : Type} (name : String) (value : α) : List (String × α) → List (String × α)
  | [] => [(name, value)]
  | (k, v) :: rest => if k = name then (k, value) :: rest else (k, v) :: setMember name value rest

/-- The JSON value of a document. -/
def Document.json (d : Document) : Json :=
  .object
    [("api", .object (fieldMembers d.api)),
     ("servers", .object (d.servers.foldl (fun ms s => setMember s.name s.json ms) []))]

/-- The JSON text of a team list, with a line end. -/
def renderJson (settings : Settings) (teams : List Team) : Except TooLong String :=
  (Document.ofTeams settings teams).map fun d => d.json.render ++ "\n"

end LogBalancer
