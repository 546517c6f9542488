/-
# What loading gives

Loading takes notes on its way.  Here is what it gives, without the notes: the outcome of looking at
a file, decoding its octets and reading its text, in this order (`loadFrom_value`).
-/

import LogBalancer.TeamFile

namespace LogBalancer
namespace TeamFile

/-- What two steps of loading give, one after the other. -/
theorem run_bind_value {α β : Type} (x : Loading α) (f : α → Loading β) :
    (x >>= f).run.value = x.run.value >>= fun a => (f a).run.value := by
  show (Noted.bind x.run _).value = _
  unfold Noted.bind
  cases x.run.value <;> rfl

/-- **What loading a file gives.** -/
theorem loadFrom_value (host : Host) (path : Path) :
    (loadFrom host path).run.value =
      match host.tree.isFile host.cwd path with
      | .error f => .error (.escape (.system f))
      | .ok false => .error (.config (.notFound path))
      | .ok true =>
        match host.tree.octetsAt host.cwd path with
        | .error f => .error (.config (.unreadable path f))
        | .ok octets => decode host.depth host.environment path octets := by
  unfold loadFrom escaping
  cases host.tree.isFile host.cwd path with
  | error f => rfl
  | ok isFile =>
    cases isFile with
    | false => rfl
    | true =>
      cases host.tree.octetsAt host.cwd path with
      | error f => rfl
      | ok octets =>
        let done (config : Config) : Loading Unit := note Level.info
          ("Loaded " ++ Decimal.natural config.teams.length ++ " teams from " ++ path.toString)
        let decoded : Loading Config := loadFrom.liftExcept (decode host.depth host.environment path octets)
        show (decoded >>= fun config => do done config; return config).run.value = _
        rw [run_bind_value]
        show (decode host.depth host.environment path octets >>= fun config => .ok config) =
          decode host.depth host.environment path octets
        cases decode host.depth host.environment path octets <;> rfl

/-- Loading an explicit file loads that file. -/
theorem load_value (host : Host) (path : Path) :
    (load host (some path)).run.value = (loadFrom host path).run.value := rfl

/-- Resolving an explicit file gives its configuration and its path. -/
theorem resolve_value (host : Host) (path : Path) :
    (resolve host (some path)).run.value =
      (loadFrom host path).run.value.map fun config => (config, some path) := by
  show ((loadFrom host path) >>= fun config => (pure (config, some path) : Loading _)).run.value = _
  rw [run_bind_value]
  cases (loadFrom host path).run.value <;> rfl

end TeamFile
end LogBalancer
