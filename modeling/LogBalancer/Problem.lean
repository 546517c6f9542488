/-
# Problems of a team list

A list of teams can be rendered whatever it holds; a repeated name only repeats a section.
The checks here are what makes it a list worth serving: every name is there and is its own,
and every port is a port and is its own.

`Problem.scan` reads the list once and keeps two tables of first owners, one of names and one
of ports.  A blank name owns no name, but it does own its port.  `findProblems` writes the
problems out and fails when a port has more digits than can be written.
-/

import LogBalancer.Port
import LogBalancer.Team
import LogBalancer.Text.Blank
import LogBalancer.Text.Quoted

namespace LogBalancer

/-- What can be wrong with one entry of a list. -/
inductive Flaw
  /-- The name is blank. -/
  | noName
  /-- The port lies outside the range of ports. -/
  | portRange (port : Int)
  /-- The name is that of an earlier entry. -/
  | nameTaken (first : Nat)
  /-- The port is that of an earlier entry, which has the name `owner`. -/
  | portTaken (port : Int) (owner : String)
  deriving DecidableEq, Repr

/-- A flaw of the entry at `index`, which has the name `name`. -/
structure Problem where
  index : Nat
  name : String
  flaw : Flaw
  deriving DecidableEq, Repr

namespace Problem

/-- How messages call an entry: by its index, and by its name unless that is blank. -/
def label (index : Nat) (name : String) : String :=
  let entry := "entry " ++ Decimal.natural index
  if Text.allBlank name then entry else entry ++ " (" ++ name ++ ")"

/-- The problem in words. -/
def message (p : Problem) : Except TooLong String :=
  let entry := label p.index p.name
  match p.flaw with
  | .noName => .ok (entry ++ ": team name is empty")
  | .portRange port => do
    let n ← portText port
    return entry ++ ": port " ++ n ++ " outside " ++ Decimal.numeral minPort ++ "-" ++
      Decimal.numeral maxPort
  | .nameTaken first =>
    .ok (entry ++ ": duplicate team name (first at entry " ++ Decimal.natural first ++ ")")
  | .portTaken port owner => do
    let n ← portText port
    return entry ++ ": port " ++ n ++ " already used by " ++ Text.quoted owner

/-- The first owners met so far: of each name its index, of each port its name. -/
structure Owners where
  names : List (String × Nat) := []
  ports : List (Int × String) := []

/-- The flaws of the next entry, in the order in which they are reported. -/
def flawsOf (owners : Owners) (team : Team) : List Flaw :=
  let blank := Text.allBlank team.name
  (if blank then [.noName] else []) ++
  (if minPort ≤ team.port ∧ team.port ≤ maxPort then [] else [.portRange team.port]) ++
  (if blank then [] else ((owners.names.lookup team.name).map Flaw.nameTaken).toList) ++
  ((owners.ports.lookup team.port).map (Flaw.portTaken team.port)).toList

/-- The tables after an entry: it becomes the owner of what had none. -/
def Owners.add (owners : Owners) (index : Nat) (team : Team) : Owners where
  names :=
    if Text.allBlank team.name || (owners.names.lookup team.name).isSome then owners.names
    else (team.name, index) :: owners.names
  ports :=
    if (owners.ports.lookup team.port).isSome then owners.ports
    else (team.port, team.name) :: owners.ports

/-- The problems of the entries from `index` on. -/
def scan (owners : Owners) (index : Nat) : List Team → List Problem
  | [] => []
  | team :: rest =>
    (flawsOf owners team).map (⟨index, team.name, ·⟩) ++
      scan (owners.add index team) (index + 1) rest

end Problem

/-- Every problem of a team list, in order. -/
def problemsOf (teams : List Team) : List Problem := Problem.scan {} 0 teams

/-- Every problem of a team list in words; none if the list is valid. -/
def findProblems (teams : List Team) : Except TooLong (List String) :=
  (problemsOf teams).mapM Problem.message

/-- Why a team list is refused. -/
inductive Refusal
  /-- It has problems. -/
  | invalid (problems : List String)
  /-- Its problems cannot be written. -/
  | tooLong
  deriving DecidableEq, Repr

/-- The refusal in one line. -/
def Refusal.message : Refusal → String
  | .invalid problems => "; ".intercalate problems
  | .tooLong => TooLong.message

/-- Accepts a list without problems. -/
def validateTeams (teams : List Team) : Except Refusal Unit :=
  match findProblems teams with
  | .error _ => .error .tooLong
  | .ok [] => .ok ()
  | .ok problems => .error (.invalid problems)

end LogBalancer
