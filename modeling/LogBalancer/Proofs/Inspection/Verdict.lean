/-
# The verdict of a check

A check resolves the configuration as generating does, and then writes out the problems of its list
without rendering anything.  It reports the complaints that generating would have
(`run_of_resolved`), unless a port cannot be written: generating reports that as well, but a check
ends with it.
-/

import LogBalancer.Inspection
import LogBalancer.Proofs.Generation.Complaints

namespace LogBalancer
namespace Inspection

/-- A failure that escapes from the team file ends the inspection. -/
theorem run_of_escape {host : Host} {path : Option Path} {e : Escape}
    (h : (TeamFile.resolve host path).run.value = .error (.escape e)) :
    (run host path).value = .error e := by
  simp only [run, bind, Noted.bind, h]
  rfl

/-- **A check of what was resolved reports the complaints about it**, if its ports can be written,
and ends with a failure if not. -/
theorem run_of_resolved {host : Host} {path : Option Path} {resolved : Resolved}
    (h : (TeamFile.resolve host path).run.value = resolved.mapError .config) :
    (resolved.IsWritable ∧ ∃ r, (run host path).value = .ok r ∧ (r.valid = true ↔ r.errors = []) ∧
        r.errors = resolved.complaints Format.toml.name true ∧ r.path = resolved.source ∧
        r.teamCount = resolved.teamCount) ∨
      ¬resolved.IsWritable ∧ (run host path).value = .error .tooLong := by
  cases resolved with
  | error e =>
    have hwritable : Resolved.IsWritable (.error e) := by
      intro config source h
      cases h
    replace h : (TeamFile.resolve host path).run.value = .error (.config e) := h
    refine .inl ⟨hwritable, { errors := [e.message] }, ?_, by simp, rfl, rfl, rfl⟩
    simp only [run, bind, Noted.bind, h]
    rfl
  | ok found =>
    obtain ⟨config, source⟩ := found
    have hwritable : Resolved.IsWritable (.ok (config, source)) ↔
        ∃ problems, findProblems config.teams = .ok problems := by
      rw [findProblems_isOk_iff]
      constructor
      · exact fun h => h config source rfl
      · intro hall config' source' he
        obtain ⟨rfl, rfl⟩ := Prod.mk.inj (Except.ok.inj he)
        exact hall
    replace h : (TeamFile.resolve host path).run.value = .ok (config, source) := h
    rw [hwritable]
    cases hproblems : findProblems config.teams with
    | error e =>
      refine .inr ⟨?_, ?_⟩
      · rintro ⟨_, h⟩
        cases h
      · simp only [run, bind, Noted.bind, h, hproblems]
        rfl
    | ok problems =>
      let checked : Result :=
        { valid := problems.isEmpty, config := some config, path := source, errors := problems,
          warnings := warnings config source }
      refine .inl ⟨⟨problems, rfl⟩, checked, ?_, List.isEmpty_iff, ?_, rfl, rfl⟩
      · simp only [run, bind, Noted.bind, h, hproblems]
        rfl
      · rw [Resolved.complaints, Format.ofName?_name, hproblems]
        rfl

end Inspection
end LogBalancer
