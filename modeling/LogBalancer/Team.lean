/-
# Teams and settings

The input of the program: an ordered list of teams, each with the UDP port that its logs
arrive on, and the settings that all server blocks share.  Every setting has a default, so a
bare list of teams is a whole configuration.
-/

namespace LogBalancer

/-- A team and its port.  The balancer listens on the port, and the discovery targets do too.  Any
integer can be held; whether it is a port is for validation to say. -/
structure Team where
  port : Int
  name : String
  /-- Whether the health check runs the true script rather than the cached one. -/
  trueCheck : Bool := false
  deriving DecidableEq, Repr

/-- The settings of the balancer's own interface. -/
structure Api where
  enabled : Bool := true
  bind : String := ":9290"
  deriving DecidableEq, Repr

/-- Where the backends are.  Each host is paired with the port of the team. -/
structure Discovery where
  kind : String := "static"
  hosts : List String := ["as-logstash-00", "as-logstash-01"]
  deriving DecidableEq, Repr

/-- The health check of every server: a script and what it prints. -/
structure Healthcheck where
  kind : String := "exec"
  interval : String := "30s"
  timeout : String := "5s"
  trueScript : String := "hc.sh"
  cacheScript : String := "cache-hc.sh"
  positiveOutput : String := "1"
  negativeOutput : String := "0"
  deriving DecidableEq, Repr

/-- What all servers share. -/
structure Settings where
  api : Api := {}
  discovery : Discovery := {}
  healthcheck : Healthcheck := {}
  deriving DecidableEq, Repr

/-- A whole configuration. -/
structure Config extends Settings where
  teams : List Team := []
  deriving DecidableEq, Repr

/-- The script that checks a team's backends. -/
def Healthcheck.script (check : Healthcheck) (team : Team) : String :=
  if team.trueCheck then check.trueScript else check.cacheScript

end LogBalancer
