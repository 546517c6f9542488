/-
# The TOML text of a document

Every table is a section: a header in brackets and one line for each field.  Sections are
separated by a blank line, the lines of a server's sections start with a space, and the text
ends with one line end.  Strings and names are put in as they are, between plain quotes and
brackets; nothing is escaped.
-/

import LogBalancer.Document.Basic

namespace LogBalancer
namespace Toml

/-- A string between quotes, as it is. -/
def quote (s : String) : String := "\"" ++ s ++ "\""

/-- The value of a field on a line with the given margin.  A list stands on lines of its own. -/
def item (margin : String) : Item → String
  | .flag b => if b then "true" else "false"
  | .number n => Decimal.natural n
  | .text s => quote s
  | .texts items =>
    "[\n" ++ ",\n".intercalate (items.map fun s => margin ++ margin ++ quote s) ++ "\n" ++
      margin ++ "]"

/-- The line of a field. -/
def field (margin : String) (f : Field) : String :=
  margin ++ f.key ++ (if f.tight then "=" else " = ") ++ item margin f.item

/-- A section without a line end after it. -/
def block (margin header : String) (fields : List Field) : String :=
  "\n".intercalate (("[" ++ header ++ "]") :: fields.map (field margin))

/-- The margin of a server's fields. -/
def serverMargin : String := " "

/-- The sections of a server. -/
def sections (s : Server) : List String :=
  let header := "servers." ++ s.name
  block serverMargin header s.fields ::
    s.tables.map fun (table, fields) => block serverMargin (header ++ "." ++ table) fields

/-- The line end and the blank line between two sections. -/
def separator : String := "\n\n"

/-- The sections of a server, without a line end after them. -/
def serverBlock (s : Server) : String := separator.intercalate (sections s)

/-- The `api` section with its line end. -/
def preamble (api : List Field) : String := block "" "api" api ++ "\n"

/-- The whole text. -/
def render (d : Document) : String :=
  match d.servers with
  | [] => preamble d.api
  | servers => preamble d.api ++ "\n" ++ separator.intercalate (servers.map serverBlock) ++ "\n"

end Toml

/-- The TOML text of a team list. -/
def renderToml (settings : Settings) (teams : List Team) : Except TooLong String :=
  (Document.ofTeams settings teams).map Toml.render

end LogBalancer
