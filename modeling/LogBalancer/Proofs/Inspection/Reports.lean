/-
# Reports

Once a configuration is resolved, or once it is clear why there is none, both operations give a
result that names what is wrong, with one exception: a check ends with a failure where a port cannot
be written (`reports_once_resolved`).  Such a port can come from a team file
(`not_reported_of_long_port`).
-/

import LogBalancer.Proofs.Inspection.Verdict
import LogBalancer.Proofs.TeamFile.AnyPort

namespace LogBalancer
namespace Inspection

/-- **What is wrong is reported.**  Generating always gives a result, without touching anything; a
check gives one exactly if every port can be written.  The errors of a result are all complaints,
and a result without errors is the one of a good configuration. -/
theorem reports_once_resolved {host : Host} {path : Option Path} {resolved : Resolved}
    (h : (TeamFile.resolve host path).run.value = resolved.mapError .config) :
    (∀ (format : String) (validate : Bool) (trouble : Generation.Trouble),
      ∃ g, (Generation.run host { path := path, validate := validate, format := format } none
          trouble).value = ⟨host.tree, none, .ok g⟩ ∧
        g.errors = resolved.complaints format validate ∧ (g.ok = true ↔ g.errors = []) ∧
        (g.ok = true ↔ resolved.IsGood format validate)) ∧
    ((∃ r, (run host path).value = .ok r) ↔ resolved.IsWritable) ∧
    ∀ r, (run host path).value = .ok r →
      r.errors = resolved.complaints Format.toml.name true ∧ (r.valid = true ↔ r.errors = []) ∧
        (r.valid = true ↔ resolved.IsGood Format.toml.name true) := by
  refine ⟨?_, ?_⟩
  · intro format validate trouble
    obtain ⟨stream, g, hrun, hstream, hok, herrors, -⟩ := Generation.run_of_resolved
      { path := path, validate := validate, format := format } h rfl none trouble trivial
    rw [hstream rfl] at hrun
    refine ⟨g, hrun, herrors, hok, ?_⟩
    rw [hok, herrors, Resolved.complaints_eq_nil_iff]
  · rcases run_of_resolved h with ⟨hports, r, hrun, hvalid, herrors, -⟩ | ⟨hports, hrun⟩
    · refine ⟨⟨fun _ => hports, fun _ => ⟨r, hrun⟩⟩, ?_⟩
      intro r' hr'
      obtain rfl := Except.ok.inj (hrun.symm.trans hr')
      refine ⟨herrors, hvalid, ?_⟩
      rw [hvalid, herrors, Resolved.complaints_eq_nil_iff]
    · rw [hrun]
      refine ⟨⟨?_, fun h => absurd h hports⟩, ?_⟩
      · rintro ⟨_, h⟩
        cases h
      · intro _ h
        cases h

open TeamFile

/-- A good configuration is refused for its format alone. -/
theorem reports_once_resolved_of_unknown_format :
    (∃ g, (Generation.run (AnyPort.host 1 7) { path := some AnyPort.path, format := "xml" }
        none).value.result = .ok g ∧ g.ok = false ∧
        g.errors = [(RenderError.unknownFormat "xml").message]) ∧
      ∃ r, (run (AnyPort.host 1 7) (some AnyPort.path)).value = .ok r ∧ r.valid = true := by
  have hresolve : (resolve (AnyPort.host 1 7) (some AnyPort.path)).run.value =
      (Except.ok (AnyPort.config 7, some AnyPort.path) : Resolved).mapError .config :=
    AnyPort.resolve_file (by decide) (by decide)
  obtain ⟨hgenerate, hcheck, hresult⟩ := reports_once_resolved hresolve
  obtain ⟨g, hrun, herrors, hok, -⟩ := hgenerate "xml" true {}
  obtain ⟨r, hr⟩ := hcheck.2 (by
    intro config source h t ht
    obtain ⟨rfl, rfl⟩ := Prod.mk.inj (Except.ok.inj h)
    obtain rfl := List.mem_singleton.1 ht
    exact Decimal.isWritable_of_isPort (by decide))
  refine ⟨⟨g, congrArg Generation.Outcome.result hrun, ?_, herrors⟩, r, hr, ?_⟩
  · rw [Bool.eq_false_iff, ne_eq, hok, herrors]
    exact List.cons_ne_nil _ _
  · rw [(hresult r hr).2.1, (hresult r hr).1]
    decide +kernel

/-- **A check does not report a port of too many digits**, although the configuration with it is
resolved. -/
theorem not_reported_of_long_port :
    (resolve (AnyPort.host 3572 (Nat.pow 10 4300)) (some AnyPort.path)).run.value =
        .ok (AnyPort.config (Nat.pow 10 4300), some AnyPort.path) ∧
      (run (AnyPort.host 3572 (Nat.pow 10 4300)) (some AnyPort.path)).value = .error .tooLong := by
  have hresolve := @AnyPort.resolve_file 3572 (Nat.pow 10 4300) (by decide) (by decide +kernel)
  refine ⟨hresolve, ?_⟩
  have hresolved : (resolve (AnyPort.host 3572 (Nat.pow 10 4300)) (some AnyPort.path)).run.value =
      Except.mapError .config (.ok (AnyPort.config (Nat.pow 10 4300), some AnyPort.path)) :=
    hresolve
  rcases run_of_resolved hresolved with ⟨hports, -⟩ | ⟨-, hrun⟩
  · exact absurd (hports _ _ rfl _ (List.mem_singleton.2 rfl)) (by decide +kernel)
  · exact hrun

end Inspection
end LogBalancer
