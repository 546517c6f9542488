/-
# Runs of writes

What a sequence of writes makes of a tree, of which any may fail at any step.  A write leaves a
tree in one of two states (`Call.run_spec`), and a whole run leaves, at every location, the text of
the last write that returned for it, or what was there before (`runAll_sound`).  Nothing else comes
to be but directories above the paths of writes, and the temporary file of a write that failed to
close or to remove it.
-/

import LogBalancer.Output
import LogBalancer.Proofs.FileTree.Replace
import LogBalancer.Proofs.Text.Utf8

namespace LogBalancer
namespace Output

/-- A write of a text to a path, with the outside reasons for which its steps fail. -/
structure Call where
  cwd : Location := []
  path : Path
  text : String
  trouble : FileTree.Trouble := {}

namespace Call

/-- The location that a call writes to. -/
def target (c : Call) : Location := FileTree.resolve c.cwd c.path

/-- A location that the path of a call's directory leads through, or to. -/
def IsAbove (c : Call) (l : Location) : Prop := FileTree.On c.cwd c.path.parent l

/-- A place for the temporary files of a call. -/
def IsTemporary (c : Call) (l : Location) : Prop :=
  FileTree.IsTemporary (FileTree.resolve c.cwd c.path.parent) l

/-- What a call may have put at a location that is not that of its file: a directory above it, or a
temporary file that could not be closed or could not be removed. -/
def Adds (c : Call) (l : Location) (e : Entry) : Prop :=
  e = .directory ∧ c.IsAbove l ∨
    c.trouble.MayStrand ∧ c.IsTemporary l ∧ ∃ octets, e = .file octets

/-- The tree after a call, and what the call returned. -/
def run (t : FileTree) (c : Call) : FileTree × Except Error Unit :=
  (toFile t c.cwd c.text c.path c.trouble).value

end Call

/-- Calls with what they returned. -/
abbrev Done := List (Call × Except Error Unit)

/-- Makes calls one after the other, whatever becomes of them. -/
def runAll (t : FileTree) : List Call → FileTree × Done
  | [] => (t, [])
  | c :: cs =>
    let (t₁, r) := c.run t
    let (t₂, done) := runAll t₁ cs
    (t₂, (c, r) :: done)

/-- The text of the last call for a location that returned. -/
def lastText (done : Done) (l : Location) : Option String :=
  ((done.filter fun d => d.2.isOk && d.1.target == l).getLast?).map fun d => d.1.text

/-! ### One call -/

/-- **A call fails and only adds directories, and perhaps leaves its temporary file, or its text is
at its location.** -/
theorem Call.run_spec (t : FileTree) (c : Call) :
    ∃ t', FileTree.Grows c.IsAbove t t' ∧
      ((∃ t'' e, c.run t = (t'', .error e) ∧
        FileTree.Leaves c.trouble (FileTree.resolve c.cwd c.path.parent) t' t'' ∧
        ((∃ f, e = .write (.file c.path f)) ∨ e = .escape .nul ∧ c.path.holdsNul = true)) ∨
      (c.run t = (t'.put c.target (.file (Text.encode c.text)), .ok ()) ∧
        t'.get? c.target ≠ some .directory ∧
        (t'.put c.target (.file (Text.encode c.text))).locate c.cwd c.path = .ok c.target)) := by
  obtain ⟨t', hgrows, hreplace⟩ := FileTree.replace_spec t c.cwd c.path c.text c.trouble
  refine ⟨t', hgrows, ?_⟩
  rcases hreplace with ⟨t'', e, he, hleaves, hnul⟩ | ⟨hput, hdir, hlocate⟩
  · cases e with
    | failed f =>
      refine .inl ⟨t'', .write (.file c.path f), ?_, hleaves, .inl ⟨f, rfl⟩⟩
      rw [Call.run, toFile, he]
    | nul =>
      refine .inl ⟨t'', .escape .nul, ?_, hleaves, .inr ⟨rfl, hnul rfl⟩⟩
      rw [Call.run, toFile, he]
  · refine .inr ⟨?_, hdir, hlocate⟩
    rw [Call.run, toFile, hput]
    rfl

/-- A call keeps what is not at its location, and there if it fails. -/
theorem Call.run_kept {t : FileTree} {c : Call} {l : Location} {e : Entry}
    (h : ¬((c.run t).2.isOk = true ∧ c.target = l)) (he : t.get? l = some e) :
    (c.run t).1.get? l = some e := by
  obtain ⟨t', hgrows, ⟨t'', _, hrun, hleaves, -⟩ | ⟨hrun, -, -⟩⟩ := Call.run_spec t c
  · rw [hrun]
    exact hleaves.kept (hgrows.kept he)
  · rw [hrun] at h ⊢
    have hne : l ≠ c.target := fun hl => h ⟨rfl, hl.symm⟩
    exact (FileTree.get?_put_of_ne t' hne _).trans (hgrows.kept he)

/-- A call adds only directories above its file and its temporary file to what is not at its
location, and there if it fails. -/
theorem Call.run_added {t : FileTree} {c : Call} {l : Location}
    (h : ¬((c.run t).2.isOk = true ∧ c.target = l)) (hl : t.get? l = none) :
    (c.run t).1.get? l = none ∨ ∃ e, (c.run t).1.get? l = some e ∧ c.Adds l e := by
  obtain ⟨t', hgrows, ⟨t'', _, hrun, hleaves, -⟩ | ⟨hrun, -, -⟩⟩ := Call.run_spec t c
  · rw [hrun]
    rcases hgrows.added hl with hfree | ⟨hdir, habove⟩
    · refine (hleaves.added hfree).imp_right ?_
      rintro ⟨hstrand, htemporary, octets, hfile⟩
      exact ⟨_, hfile, .inr ⟨hstrand, htemporary, octets, rfl⟩⟩
    · exact .inr ⟨_, hleaves.kept hdir, .inl ⟨rfl, habove⟩⟩
  · rw [hrun] at h ⊢
    have hne : l ≠ c.target := fun hl => h ⟨rfl, hl.symm⟩
    rw [FileTree.get?_put_of_ne t' hne]
    exact (hgrows.added hl).imp_right fun ⟨hdir, habove⟩ => ⟨_, hdir, .inl ⟨rfl, habove⟩⟩

/-- A call that returns has put its text at its location. -/
theorem Call.run_written {t : FileTree} {c : Call} (h : (c.run t).2.isOk = true) :
    (c.run t).1.get? c.target = some (.file (Text.encode c.text)) := by
  obtain ⟨t', -, ⟨_, _, hrun, -⟩ | ⟨hrun, hdir, -⟩⟩ := Call.run_spec t c
  · rw [hrun] at h
    cases h
  · have hne : c.target ≠ [] := by
      intro hnil
      rw [hnil] at hdir
      exact hdir rfl
    rw [hrun]
    exact FileTree.get?_put_self t' hne _

/-- A call leaves every directory one, and something where something was. -/
theorem Call.run_keeps (t : FileTree) (c : Call) : FileTree.Keeps t (c.run t).1 := by
  obtain ⟨t', hgrows, ⟨t'', _, hrun, hleaves, -⟩ | ⟨hrun, hdir, -⟩⟩ := Call.run_spec t c
  · rw [hrun]
    exact hgrows.keeps.trans hleaves.keeps
  · rw [hrun]
    exact hgrows.keeps.trans (.put hdir _)

/-! ### Whole runs -/

/-- The last text of a location after one more call at the start of a run. -/
theorem lastText_cons (c : Call) (r : Except Error Unit) (done : Done) (l : Location) :
    lastText ((c, r) :: done) l =
      (lastText done l).or (if r.isOk = true ∧ c.target = l then some c.text else none) := by
  unfold lastText
  by_cases h : r.isOk = true ∧ c.target = l
  · rw [if_pos h, List.filter_cons_of_pos (by simp [h.1, h.2]), List.getLast?_cons]
    cases (done.filter fun d => d.2.isOk && d.1.target == l).getLast? <;> rfl
  · rw [if_neg h, List.filter_cons_of_neg (by simpa using h), Option.or_none]

/-- No call has written a location exactly if neither the first one nor any other has. -/
theorem lastText_cons_eq_none_iff (c : Call) (r : Except Error Unit) (done : Done)
    (l : Location) : lastText ((c, r) :: done) l = none ↔
      lastText done l = none ∧ ¬(r.isOk = true ∧ c.target = l) := by
  rw [lastText_cons, Option.or_eq_none_iff]
  refine and_congr_right fun _ => ?_
  split
  · rename_i h
    exact ⟨fun hnone => (nomatch hnone), fun hnot => absurd h hnot⟩
  · rename_i h
    exact ⟨fun _ => h, fun _ => rfl⟩

/-- **What a run makes of a tree**: `done` are the calls that lead from `t` to `t'`. -/
structure Sound (t t' : FileTree) (done : Done) : Prop where
  written : ∀ {l s}, lastText done l = some s → t'.get? l = some (.file (Text.encode s))
  kept : ∀ {l e}, lastText done l = none → t.get? l = some e → t'.get? l = some e
  added : ∀ {l}, lastText done l = none → t.get? l = none →
    t'.get? l = none ∨ ∃ e, t'.get? l = some e ∧ ∃ d ∈ done, d.1.Adds l e
  keeps : FileTree.Keeps t t'

/-- A run without calls changes nothing. -/
theorem Sound.nil (t : FileTree) : Sound t t [] :=
  ⟨(fun h => nomatch h), fun _ h => h, fun _ h => .inl h, .refl t⟩

/-- **A call before a run.** -/
theorem Sound.cons {t t' : FileTree} {c : Call} {done : Done} (h : Sound (c.run t).1 t' done) :
    Sound t t' ((c, (c.run t).2) :: done) := by
  refine ⟨?_, ?_, ?_, (Call.run_keeps t c).trans h.keeps⟩
  · intro l s hs
    rw [lastText_cons] at hs
    cases hlast : lastText done l with
    | some s' =>
      rw [hlast] at hs
      obtain rfl := Option.some.inj hs
      exact h.written hlast
    | none =>
      rw [hlast, Option.none_or] at hs
      split at hs
      · rename_i hok
        obtain rfl := Option.some.inj hs
        obtain ⟨hok, rfl⟩ := hok
        exact h.kept hlast (Call.run_written hok)
      · cases hs
  · intro l e hnone he
    obtain ⟨hlast, hcall⟩ := (lastText_cons_eq_none_iff ..).1 hnone
    exact h.kept hlast (Call.run_kept hcall he)
  · intro l hnone hl
    obtain ⟨hlast, hcall⟩ := (lastText_cons_eq_none_iff ..).1 hnone
    rcases Call.run_added hcall hl with hfree | ⟨e, he, hadds⟩
    · refine (h.added hlast hfree).imp_right ?_
      rintro ⟨e, he, d, hd, hadds⟩
      exact ⟨e, he, d, List.mem_cons_of_mem _ hd, hadds⟩
    · exact .inr ⟨e, h.kept hlast he, _, List.mem_cons_self, hadds⟩

/-- **Every run is sound**, by induction on its calls. -/
theorem runAll_sound (t : FileTree) (calls : List Call) :
    Sound t (runAll t calls).1 (runAll t calls).2 := by
  induction calls generalizing t with
  | nil => exact .nil t
  | cons c cs ih => exact .cons (ih (c.run t).1)

/-- A run makes all its calls. -/
theorem runAll_calls (t : FileTree) (calls : List Call) :
    (runAll t calls).2.map Prod.fst = calls := by
  induction calls generalizing t with
  | nil => rfl
  | cons c cs ih => exact congrArg (c :: ·) (ih (c.run t).1)

end Output
end LogBalancer
