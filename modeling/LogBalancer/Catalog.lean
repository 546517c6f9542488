/-
# The built-in catalog

The teams that are served when there is no team file: twenty names on consecutive ports from
9090, the first of them with the true health check.
-/

import LogBalancer.Team

namespace LogBalancer
namespace Catalog

/-- The names in port order. -/
def names : List String :=
  ["fwsu", "calidad", "platform-cancel", "platform-transactions", "platform-nonair",
   "platform-cambios", "platform-hoteles", "worklist", "comunicaciones", "reservations", "detail",
   "my-trips", "nativo", "agent-tools", "ivr", "encuestas", "soluciones", "cancel",
   "cambios-nonair", "cambios-air"]

/-- The port of the first team. -/
def firstPort : Nat := 9090

/-- The built-in teams. -/
def teams : List Team :=
  names.zipIdx.map fun (name, i) => ⟨(firstPort + i : Nat), name, i == 0⟩

/-- The built-in teams under the default settings. -/
def config : Config := { teams := teams }

end Catalog
end LogBalancer
