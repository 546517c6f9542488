/-
# Making directories

Making the directories of a path only adds directories, and only at places that the path leads
through (`makeDirectories_grows`).  If it succeeds, the path leads to a directory
(`makeDirectories_leads`).  Both hold whichever of the directories cannot be made, since those
that were made before stay.
-/

import LogBalancer.FileTree.Update
import LogBalancer.Proofs.FileTree.Walk

namespace LogBalancer
namespace FileTree

/-! ### Places on a path -/

/-- A location that a path leads through, or to. -/
def On (cwd : Location) (p : Path) (l : Location) : Prop :=
  ∃ names, names <+: p.names ∧ l = resolve cwd { p with names := names }

/-- A path leads to a location on it. -/
theorem on_resolve (cwd : Location) (p : Path) : On cwd p (resolve cwd p) :=
  ⟨p.names, List.prefix_refl _, rfl⟩

/-- What is on the parent of a path is on the path. -/
theorem On.of_parent {cwd : Location} {p : Path} {l : Location} (h : On cwd p.parent l) :
    On cwd p l := by
  obtain ⟨names, hprefix, hl⟩ := h
  exact ⟨names, hprefix.trans (List.dropLast_prefix _), hl⟩

/-- A path leads to a directory. -/
def Leads (t : FileTree) (cwd : Location) (p : Path) : Prop :=
  ∃ l, t.locate cwd p = .ok l ∧ t.get? l = some .directory

/-- The names of a path are those of its parent and its last name. -/
theorem names_eq_concat {p : Path} {name : String} (h : p.names.getLast? = some name) :
    p.names = p.names.dropLast ++ [name] := by
  obtain ⟨names, hnames⟩ := List.getLast?_eq_some_iff.1 h
  rw [hnames, List.dropLast_concat]

/-- The location of a path with a last name is that name in the location of its parent. -/
theorem resolve_of_getLast? {cwd : Location} {p : Path} {name : String}
    (h : p.names.getLast? = some name) (hdots : name ≠ "..") :
    resolve cwd p = resolve cwd p.parent ++ [name] := by
  rw [resolve_eq_foldl, names_eq_concat h, List.foldl_append]
  exact if_neg hdots

/-! ### One directory -/

/-- A directory can be made under a free name in a directory that the parent leads to. -/
theorem vacancy_eq_ok {t : FileTree} {cwd l : Location} {p : Path} (h : t.vacancy cwd p = .ok l) :
    ∃ parent name, p.names.getLast? = some name ∧ checkSize p = .ok () ∧
      t.follow (startOf cwd p) p.names.dropLast = .ok parent ∧
      t.get? parent = some .directory ∧ name ≠ ".." ∧ name.utf8ByteSize ≤ maxName ∧
      t.get? l = none ∧ l = parent ++ [name] := by
  simp only [vacancy, bind, Except.bind, pure, Except.pure, throw, throwThe,
    MonadExceptOf.throw] at h
  split at h
  · cases h
  rename_i hsize
  split at h
  · cases h
  rename_i name hlast
  split at h
  · cases h
  rename_i parent hparent
  split at h
  case isFalse => cases h
  rename_i hdir
  split at h
  · cases h
  rename_i hdots
  split at h
  · cases h
  rename_i hname
  split at h
  · cases h
  rename_i hnone
  obtain rfl := Except.ok.inj h
  rw [Option.not_isSome_iff_eq_none] at hnone
  exact ⟨parent, name, hlast, hsize, hparent, eq_of_beq hdir, hdots, Nat.not_lt.1 hname, hnone, rfl⟩

/-- **A directory that is made is the only change, and the path leads to it.** -/
theorem makeDirectory_eq_ok {t t' : FileTree} {cwd : Location} {p : Path} {trouble : Trouble}
    (h : t.makeDirectory cwd p trouble = .ok t') : Grows (On cwd p) t t' ∧ t'.Leads cwd p := by
  unfold makeDirectory at h
  split at h
  · cases h
  rename_i l hl
  split at h
  · cases h
  obtain rfl := Except.ok.inj h
  obtain ⟨parent, name, hlast, hsize, hparent, hdir, hdots, hname, hnone, rfl⟩ := vacancy_eq_ok hl
  have hne : parent ++ [name] ≠ [] := List.append_ne_nil_of_right_ne_nil _ (List.cons_ne_nil _ _)
  have hplace : parent ++ [name] = resolve cwd p := by
    rw [resolve_of_getLast? hlast hdots]
    exact congrArg (· ++ [name]) (follow_eq_foldl hparent)
  have hgrows : Grows (On cwd p) t (t.put (parent ++ [name]) .directory) :=
    .put_directory hnone (hplace ▸ on_resolve cwd p)
  refine ⟨hgrows, parent ++ [name], locate_eq_ok_iff.2 ⟨hsize, ?_⟩, get?_put_self t hne _⟩
  rw [names_eq_concat hlast]
  exact follow_concat (hgrows.keeps.follow hparent) (hgrows.kept hdir) hdots hname (get?_put_self t hne _)

/-- An error passes only where a directory is. -/
theorem leads_of_orThere {t : FileTree} {cwd : Location} {p : Path} {e : FileError}
    (h : t.orThere cwd p e = .ok ()) : t.Leads cwd p := by
  unfold orThere at h
  split at h
  · rename_i hdir
    simp only [isDirectory, test, stat, bind, Except.bind, pure, Except.pure, throw, throwThe,
      MonadExceptOf.throw] at hdir
    split at hdir
    · cases hdir
    split at hdir
    · rename_i hstat
      split at hstat
      · cases hstat
      rename_i l hl
      split at hstat
      · rename_i he
        obtain rfl := Except.ok.inj hstat
        exact ⟨l, hl, by rw [he, eq_of_beq (Except.ok.inj hdir)]⟩
      · cases hstat
    · split at hdir <;> cases hdir
  · cases h
  · cases h

/-! ### All directories of a path -/

/-- **Making directories from a path upwards adds directories on the path**, and the path leads to a
directory if it succeeds.  By induction on the levels to go up. -/
theorem makeDirectoriesFrom_spec (cwd : Location) (trouble : Trouble) (fuel : Nat) (t : FileTree)
    (p : Path) : Grows (On cwd p) t (makeDirectoriesFrom cwd trouble fuel t p).1 ∧
      ((makeDirectoriesFrom cwd trouble fuel t p).2 = .ok () →
        (makeDirectoriesFrom cwd trouble fuel t p).1.Leads cwd p) := by
  induction fuel generalizing t p with
  | zero => exact ⟨.refl t, fun h => nomatch h⟩
  | succ fuel ih =>
    rw [makeDirectoriesFrom]
    split
    · rename_i t₁ h₁
      obtain ⟨hgrows, hleads⟩ := makeDirectory_eq_ok h₁
      exact ⟨hgrows, fun _ => hleads⟩
    · split
      · exact ⟨.refl t, fun h => nomatch h⟩
      -- the parent is made first, then the directory again
      have hparent := ih t p.parent
      split
      · rename_i t₁ e h₁
        rw [h₁] at hparent
        exact ⟨hparent.1.mono fun _ => On.of_parent, fun h => nomatch h⟩
      · rename_i t₁ h₁
        rw [h₁] at hparent
        have habove : Grows (On cwd p) t t₁ := hparent.1.mono fun _ => On.of_parent
        split
        · rename_i t₂ h₂
          obtain ⟨hgrows, hleads⟩ := makeDirectory_eq_ok h₂
          exact ⟨habove.trans hgrows, fun _ => hleads⟩
        · exact ⟨habove, fun h => nomatch h⟩
        · exact ⟨habove, leads_of_orThere⟩
    · exact ⟨.refl t, leads_of_orThere⟩

/-- **Making the directories of a path only adds directories on it**, whether it fails or not. -/
theorem makeDirectories_grows (t : FileTree) (cwd : Location) (p : Path) (trouble : Trouble) :
    Grows (On cwd p) t (t.makeDirectories cwd p trouble).1 := by
  unfold makeDirectories
  split
  · exact .refl t
  · exact (makeDirectoriesFrom_spec cwd trouble _ t p).1

/-- **Once the directories of a path are made, the path leads to one.** -/
theorem makeDirectories_leads {t t' : FileTree} {cwd : Location} {p : Path} {trouble : Trouble}
    (h : t.makeDirectories cwd p trouble = (t', .ok ())) : t'.Leads cwd p := by
  unfold makeDirectories at h
  split at h
  · cases h
  · have hspec := (makeDirectoriesFrom_spec cwd trouble (p.names.length + 1) t p).2
    rw [h] at hspec
    exact hspec rfl

end FileTree
end LogBalancer
