/-
# Paths in growing trees

Where a path leads, if anywhere, is said by its names alone (`follow_eq_foldl`).  Whether it leads
there depends on the tree, but nothing that keeps the directories and lets no place become empty
can block a path that leads somewhere (`Keeps.follow`).

Two changes of that kind are enough for files that are replaced as a whole: directories are added
(`Grows`), and a file is put at a place where no directory is (`Keeps.put`).
-/

import LogBalancer.FileTree.Access

namespace LogBalancer
namespace FileTree

/-! ### Following names -/

/-- One name further: down, or up for two dots. -/
def step (l : Location) (name : String) : Location :=
  if name = ".." then l.dropLast else l ++ [name]

/-- A path is resolved by one step for each of its names. -/
theorem resolve_eq_foldl (cwd : Location) (p : Path) :
    resolve cwd p = p.names.foldl step (startOf cwd p) := rfl

/-- Without names one stays, if there is something to stay at. -/
theorem follow_nil_eq_ok_iff {t : FileTree} {here l : Location} :
    t.follow here [] = .ok l ↔ here = l ∧ ∃ e, t.get? l = some e := by
  rw [follow]
  split
  · rename_i h
    constructor
    · intro heq
      obtain rfl := Except.ok.inj heq
      exact ⟨rfl, Option.isSome_iff_exists.1 h⟩
    · rintro ⟨rfl, -⟩
      rfl
  · rename_i h
    constructor
    · intro heq
      cases heq
    · rintro ⟨rfl, e, he⟩
      exact absurd (Option.isSome_iff_exists.2 ⟨e, he⟩) h

/-- **A path leads on from directories only**, and from name to name. -/
theorem follow_cons_eq_ok_iff {t : FileTree} {here l : Location} {name : String}
    {rest : List String} :
    t.follow here (name :: rest) = .ok l ↔ t.get? here = some .directory ∧
      (name ≠ ".." → name.utf8ByteSize ≤ maxName ∧ ∃ e, t.get? (here ++ [name]) = some e) ∧
      t.follow (step here name) rest = .ok l := by
  rw [follow, step]
  constructor
  · intro h
    split at h
    · cases h
    · rename_i hdir
      split at h
      · rename_i hdots
        rw [if_pos hdots]
        exact ⟨hdir, fun hne => absurd hdots hne, h⟩
      split at h
      · cases h
      split at h
      · cases h
      · rename_i hdots hsize _ e he
        rw [if_neg hdots]
        exact ⟨hdir, fun _ => ⟨Nat.not_lt.1 hsize, e, he⟩, h⟩
    · cases h
  · rintro ⟨hdir, hname, h⟩
    rw [hdir]
    simp only
    by_cases hdots : name = ".."
    · rw [if_pos hdots] at h ⊢
      exact h
    · obtain ⟨hsize, e, he⟩ := hname hdots
      rw [if_neg hdots] at h ⊢
      rw [if_neg (Nat.not_lt.2 hsize), he]
      exact h

/-- A path leads where its names say. -/
theorem follow_eq_foldl {t : FileTree} {here l : Location} {names : List String}
    (h : t.follow here names = .ok l) : l = names.foldl step here := by
  induction names generalizing here with
  | nil => exact (follow_nil_eq_ok_iff.1 h).1.symm
  | cons name rest ih => exact ih (follow_cons_eq_ok_iff.1 h).2.2

/-- Following names and then others, if both lead somewhere. -/
theorem follow_append_eq_ok {t : FileTree} {here there l : Location} {xs ys : List String}
    (hxs : t.follow here xs = .ok there) (hys : t.follow there ys = .ok l) :
    t.follow here (xs ++ ys) = .ok l := by
  induction xs generalizing here with
  | nil =>
    obtain ⟨rfl, -⟩ := follow_nil_eq_ok_iff.1 hxs
    exact hys
  | cons name rest ih =>
    obtain ⟨hdir, hname, hrest⟩ := follow_cons_eq_ok_iff.1 hxs
    exact follow_cons_eq_ok_iff.2 ⟨hdir, hname, ih hrest⟩

/-- The last name of a path leads on from a directory to what has the name in it. -/
theorem follow_concat {t : FileTree} {here there : Location} {names : List String}
    (h : t.follow here names = .ok there) (hdir : t.get? there = some .directory) {name : String}
    (hdots : name ≠ "..") (hsize : name.utf8ByteSize ≤ maxName) {e : Entry}
    (he : t.get? (there ++ [name]) = some e) :
    t.follow here (names ++ [name]) = .ok (there ++ [name]) := by
  have hstep : step there name = there ++ [name] := if_neg hdots
  refine follow_append_eq_ok h (follow_cons_eq_ok_iff.2 ⟨hdir, fun _ => ⟨hsize, e, he⟩, ?_⟩)
  exact follow_nil_eq_ok_iff.2 ⟨hstep, e, he⟩

/-- A path has a location if it is not too long and its names can be followed. -/
theorem locate_eq_ok_iff {t : FileTree} {cwd l : Location} {p : Path} :
    t.locate cwd p = .ok l ↔
      checkSize p = .ok () ∧ t.follow (startOf cwd p) p.names = .ok l := by
  unfold locate
  cases checkSize p with
  | error e =>
    constructor
    · intro h
      cases h
    · rintro ⟨h, -⟩
      cases h
  | ok u => exact ⟨fun h => ⟨rfl, h⟩, And.right⟩

/-- What is at a path is at the location that it names by its text. -/
theorem locate_eq_resolve {t : FileTree} {cwd l : Location} {p : Path}
    (h : t.locate cwd p = .ok l) : l = resolve cwd p :=
  follow_eq_foldl (locate_eq_ok_iff.1 h).2

/-! ### Trees that keep directories -/

/-- Every directory of `t` is one of `t'`, and where something is in `t`, something is in `t'`. -/
structure Keeps (t t' : FileTree) : Prop where
  directory : ∀ {l}, t.get? l = some .directory → t'.get? l = some .directory
  present : ∀ {l e}, t.get? l = some e → ∃ e, t'.get? l = some e

namespace Keeps

variable {t t' t'' : FileTree}

/-- A tree keeps what it has. -/
theorem refl (t : FileTree) : Keeps t t := ⟨id, fun h => ⟨_, h⟩⟩

/-- What is kept twice is kept. -/
theorem trans (h : Keeps t t') (h' : Keeps t' t'') : Keeps t t'' := by
  refine ⟨fun hl => h'.directory (h.directory hl), fun hl => ?_⟩
  obtain ⟨e, he⟩ := h.present hl
  exact h'.present he

/-- Anything can be put where no directory is. -/
theorem put {l : Location} (hdir : t.get? l ≠ some .directory) (e : Entry) :
    Keeps t (t.put l e) := by
  have hne : l ≠ [] := by
    rintro rfl
    exact hdir rfl
  constructor
  · intro m hm
    have hml : m ≠ l := by
      rintro rfl
      exact hdir hm
    rwa [get?_put_of_ne t hml]
  · intro m e' hm
    by_cases hml : m = l
    · subst hml
      exact ⟨e, get?_put_self t hne e⟩
    · exact ⟨e', by rwa [get?_put_of_ne t hml]⟩

/-- **A path that leads somewhere still does.** -/
theorem follow (h : Keeps t t') {here l : Location} {names : List String}
    (hl : t.follow here names = .ok l) : t'.follow here names = .ok l := by
  induction names generalizing here with
  | nil =>
    obtain ⟨hhere, e, he⟩ := follow_nil_eq_ok_iff.1 hl
    exact follow_nil_eq_ok_iff.2 ⟨hhere, h.present he⟩
  | cons name rest ih =>
    obtain ⟨hdir, hname, hrest⟩ := follow_cons_eq_ok_iff.1 hl
    refine follow_cons_eq_ok_iff.2 ⟨h.directory hdir, fun hdots => ?_, ih hrest⟩
    obtain ⟨hsize, e, he⟩ := hname hdots
    exact ⟨hsize, h.present he⟩

end Keeps

/-- The tree `t'` is `t` with directories added, at locations of which `P` holds. -/
structure Grows (P : Location → Prop) (t t' : FileTree) : Prop where
  kept : ∀ {l e}, t.get? l = some e → t'.get? l = some e
  added : ∀ {l}, t.get? l = none → t'.get? l = none ∨ t'.get? l = some .directory ∧ P l

namespace Grows

variable {P Q : Location → Prop} {t t' t'' : FileTree}

/-- A tree grows into itself by nothing. -/
theorem refl (t : FileTree) : Grows P t t := ⟨id, Or.inl⟩

/-- One growth after another is a growth. -/
theorem trans (h : Grows P t t') (h' : Grows P t' t'') : Grows P t t'' := by
  refine ⟨fun hl => h'.kept (h.kept hl), fun hl => ?_⟩
  rcases h.added hl with hnone | ⟨hdir, hP⟩
  · exact h'.added hnone
  · exact .inr ⟨h'.kept hdir, hP⟩

/-- Growth within some locations is growth within more. -/
theorem mono (h : Grows P t t') (hPQ : ∀ l, P l → Q l) : Grows Q t t' :=
  ⟨h.kept, fun hl => (h.added hl).imp_right fun ⟨hdir, hP⟩ => ⟨hdir, hPQ _ hP⟩⟩

/-- A tree that grows keeps what it has. -/
theorem keeps (h : Grows P t t') : Keeps t t' := ⟨h.kept, fun hl => ⟨_, h.kept hl⟩⟩

/-- A directory is added where nothing is. -/
theorem put_directory {l : Location} (hl : t.get? l = none) (hP : P l) :
    Grows P t (t.put l .directory) := by
  have hne : l ≠ [] := by
    rintro rfl
    cases hl
  constructor
  · intro m e hm
    have hml : m ≠ l := by
      rintro rfl
      cases hl.symm.trans hm
    rwa [get?_put_of_ne t hml]
  · intro m hm
    by_cases hml : m = l
    · subst hml
      exact .inr ⟨get?_put_self t hne _, hP⟩
    · exact .inl (by rwa [get?_put_of_ne t hml])

end Grows

end FileTree
end LogBalancer
