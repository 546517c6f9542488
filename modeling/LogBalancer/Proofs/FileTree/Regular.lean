/-
# Regular files

Whether a regular file is at a location is a fact of the tree: the file is there, and directories are
above it (`HasFile`).  The path of the location finds out, unless the path is too long to be looked
at (`isFile_pathOf`).  Of the paths of one name in a directory and in the directories above it, the
first one is too long if any is (`stat_tooLong_of_prefix`).
-/

import LogBalancer.Proofs.FileTree.Walk
import Mathlib.Algebra.GroupWithZero.Nat

namespace LogBalancer
namespace FileTree

/-- A name that an entry of a directory can have. -/
structure IsName (name : String) : Prop where
  not_dots : name ≠ ".."
  no_nul : name.toList.contains '\x00' = false

/-- A regular file is at a location, below directories. -/
structure HasFile (t : FileTree) (l : Location) : Prop where
  above : ∀ m, m <+: l → m ≠ l → t.get? m = some .directory
  regular : ∃ e, t.get? l = some e ∧ Entry.isFile e = true

/-! ### Locations made of names -/

/-- A path of proper names holds no NUL. -/
theorem holdsNul_of_names {p : Path} (h : ∀ n ∈ p.names, IsName n) : p.holdsNul = false :=
  List.any_eq_false.2 fun n hn => by rw [(h n hn).no_nul]; exact Bool.false_ne_true

/-- Each step of a path without NUL stays among the locations that are made of names. -/
theorem isName_of_mem_foldl {here : Location} {names : List String} (hhere : ∀ n ∈ here, IsName n)
    (hnames : ∀ n ∈ names, n.toList.contains '\x00' = false) :
    ∀ n ∈ names.foldl step here, IsName n := by
  induction names generalizing here with
  | nil => exact hhere
  | cons name rest ih =>
    refine ih (fun n hn => ?_) fun n hn => hnames n (List.mem_cons_of_mem _ hn)
    unfold step at hn
    split at hn
    · exact hhere n (List.dropLast_subset _ hn)
    · rename_i hdots
      rcases List.mem_append.1 hn with hn | hn
      · exact hhere n hn
      · obtain rfl := List.mem_singleton.1 hn
        exact ⟨hdots, hnames n List.mem_cons_self⟩

/-- Names that do not lead upwards are added at the end. -/
theorem foldl_step_of_names {here : Location} {names : List String} (h : ∀ n ∈ names, n ≠ "..") :
    names.foldl step here = here ++ names := by
  induction names generalizing here with
  | nil => exact (List.append_nil here).symm
  | cons name rest ih =>
    rw [List.foldl_cons, step, if_neg (h name List.mem_cons_self),
      ih fun n hn => h n (List.mem_cons_of_mem _ hn), ← List.append_cons]

/-- From a current directory with proper names, a path without NUL leads to a location with proper
names. -/
theorem isName_of_mem_resolve {cwd : Location} {p : Path} (hcwd : ∀ n ∈ cwd, IsName n)
    (hp : p.holdsNul = false) : ∀ n ∈ resolve cwd p, IsName n := by
  rw [resolve_eq_foldl]
  refine isName_of_mem_foldl ?_ fun n hn => ?_
  · unfold startOf
    split
    · exact fun n hn => absurd hn List.not_mem_nil
    · exact hcwd
  · exact Bool.eq_false_iff.2 fun hnul => (List.any_eq_false.1 hp) n hn hnul

/-! ### Following the names of a location -/

/-- Names lead down through directories only. -/
theorem above_of_follow {t : FileTree} {here l : Location} {names : List String}
    (hnames : ∀ n ∈ names, n ≠ "..") (h : t.follow here names = .ok l) :
    ∀ m, m <+: names → m ≠ names → t.get? (here ++ m) = some .directory := by
  induction names generalizing here with
  | nil => exact fun m hm hne => absurd (List.prefix_nil.1 hm) hne
  | cons name rest ih =>
    obtain ⟨hdir, -, hrest⟩ := follow_cons_eq_ok_iff.1 h
    rw [step, if_neg (hnames name List.mem_cons_self)] at hrest
    have habove := ih (fun n hn => hnames n (List.mem_cons_of_mem _ hn)) hrest
    intro m hm hne
    rcases List.prefix_cons_iff.1 hm with rfl | ⟨m', rfl, hm'⟩
    · rwa [List.append_nil]
    · rw [List.append_cons]
      exact habove m' hm' fun heq => hne (by rw [heq])

/-- A path is refused for a name that is too long at the first such name, if only directories come
before it. -/
theorem follow_cons_tooLong_iff {t : FileTree} {here : Location} {name : String}
    {rest : List String} :
    t.follow here (name :: rest) = .error .nameTooLong ↔ t.get? here = some .directory ∧
      (name ≠ ".." ∧ maxName < name.utf8ByteSize ∨
        (name ≠ ".." → name.utf8ByteSize ≤ maxName ∧ ∃ e, t.get? (here ++ [name]) = some e) ∧
          t.follow (step here name) rest = .error .nameTooLong) := by
  rw [follow, step]
  constructor
  · intro h
    split at h
    · cases h
    · rename_i hdir
      refine ⟨hdir, ?_⟩
      split at h
      · rename_i hdots
        rw [if_pos hdots]
        exact .inr ⟨fun hne => absurd hdots hne, h⟩
      rename_i hdots
      split at h
      · rename_i hsize
        exact .inl ⟨hdots, hsize⟩
      split at h
      · cases h
      · rename_i hsize _ e he
        rw [if_neg hdots]
        exact .inr ⟨fun _ => ⟨Nat.not_lt.1 hsize, e, he⟩, h⟩
    · cases h
  · rintro ⟨hdir, ⟨hdots, hsize⟩ | ⟨hname, h⟩⟩
    · rw [hdir]
      simp only
      rw [if_neg hdots, if_pos hsize]
    · rw [hdir]
      simp only
      by_cases hdots : name = ".."
      · rw [if_pos hdots] at h ⊢
        exact h
      · obtain ⟨hsize, e, he⟩ := hname hdots
        rw [if_neg hdots] at h ⊢
        rw [if_neg (Nat.not_lt.2 hsize), he]
        exact h

/-- A path without names has no name that is too long. -/
theorem follow_nil_ne_tooLong (t : FileTree) (here : Location) :
    t.follow here [] ≠ .error .nameTooLong := by
  intro h
  rw [follow] at h
  split at h <;> cases h

/-- Names lead down through directories to what is there, if none of them is too long. -/
theorem follow_of_above {t : FileTree} {here : Location} {names : List String} {e : Entry}
    (hnames : ∀ n ∈ names, n ≠ "..")
    (habove : ∀ m, m <+: names → m ≠ names → t.get? (here ++ m) = some .directory)
    (he : t.get? (here ++ names) = some e) (hshort : t.follow here names ≠ .error .nameTooLong) :
    t.follow here names = .ok (here ++ names) := by
  induction names generalizing here with
  | nil =>
    rw [List.append_nil] at he ⊢
    exact follow_nil_eq_ok_iff.2 ⟨rfl, e, he⟩
  | cons name rest ih =>
    have hdots := hnames name List.mem_cons_self
    have hstep : step here name = here ++ [name] := if_neg hdots
    have hdir : t.get? here = some .directory := by
      have := habove [] List.nil_prefix (List.cons_ne_nil _ _).symm
      rwa [List.append_nil] at this
    have hnext : ∃ e', t.get? (here ++ [name]) = some e' := by
      cases rest with
      | nil => exact ⟨e, he⟩
      | cons name' rest =>
        refine ⟨_, habove [name] (List.prefix_append [name] _) fun heq => ?_⟩
        cases (List.cons.inj heq).2
    have hsize : name.utf8ByteSize ≤ maxName := Nat.not_lt.1 fun hlong =>
      hshort (follow_cons_tooLong_iff.2 ⟨hdir, .inl ⟨hdots, hlong⟩⟩)
    refine follow_cons_eq_ok_iff.2 ⟨hdir, fun _ => ⟨hsize, hnext⟩, ?_⟩
    rw [hstep, List.append_cons here name rest]
    rw [List.append_cons here name rest] at he
    refine ih (fun n hn => hnames n (List.mem_cons_of_mem _ hn)) (fun m hm hne => ?_) he fun hlong =>
      hshort (follow_cons_tooLong_iff.2 ⟨hdir, .inr ⟨fun _ => ⟨hsize, hnext⟩, hstep ▸ hlong⟩⟩)
    rw [← List.append_cons]
    exact habove (name :: m) (List.cons_prefix_cons.2 ⟨rfl, hm⟩) fun heq =>
      hne (List.cons.inj heq).2

/-! ### Looking at a path -/

/-- Following names fails because nothing is there or because a name is too long. -/
theorem follow_error {t : FileTree} {here : Location} {names : List String} {e : FileError}
    (h : t.follow here names = .error e) : e.meansAbsent = true ∨ e = .nameTooLong := by
  fun_induction follow t here names with
  | case1 => cases h
  | case4 _ _ _ ih => exact ih h
  | case5 => exact .inr (Except.error.inj h).symm
  | case7 _ _ _ _ _ _ _ _ ih => exact ih h
  | _ => exact .inl (by rw [← Except.error.inj h]; rfl)

/-- Finding a location fails because nothing is there or because a name or the path is too long. -/
theorem locate_error {t : FileTree} {cwd : Location} {path : Path} {e : FileError}
    (h : t.locate cwd path = .error e) : e.meansAbsent = true ∨ e = .nameTooLong := by
  rw [locate, checkSize] at h
  split at h
  · exact follow_error h
  · exact .inr (Except.error.inj h).symm

/-- **Looking at a path fails because there is nothing or because a name is too long.** -/
theorem stat_error {t : FileTree} {cwd : Location} {path : Path} {e : FileError}
    (h : t.stat cwd path = .error e) : e.meansAbsent = true ∨ e = .nameTooLong := by
  rw [stat] at h
  cases hl : t.locate cwd path with
  | error e' =>
    rw [hl] at h
    obtain rfl := Except.error.inj h
    exact locate_error hl
  | ok l =>
    rw [hl] at h
    cases hget : t.get? l with
    | some entry =>
      simp only [bind, Except.bind, hget] at h
      cases h
    | none =>
      simp only [bind, Except.bind, hget] at h
      exact .inl (by rw [← Except.error.inj h]; rfl)

/-- What is at a path is what is at the location to which it leads. -/
theorem stat_eq_ok_iff {t : FileTree} {cwd : Location} {p : Path} {e : Entry} :
    t.stat cwd p = .ok e ↔ ∃ l, t.locate cwd p = .ok l ∧ t.get? l = some e := by
  rw [stat]
  cases t.locate cwd p with
  | error e' => exact ⟨fun h => (nomatch h), fun ⟨_, h, _⟩ => (nomatch h)⟩
  | ok l =>
    simp only [bind, Except.bind]
    constructor
    · intro h
      refine ⟨l, rfl, ?_⟩
      cases hget : t.get? l with
      | none => rw [hget] at h; cases h
      | some e' => rw [hget] at h; rw [Except.ok.inj h]
    · rintro ⟨_, h, hget⟩
      rw [Except.ok.inj h, hget]
      rfl

/-- A path is too long for its text or for one of its names. -/
theorem stat_tooLong_iff {t : FileTree} {cwd : Location} {p : Path} :
    t.stat cwd p = .error .nameTooLong ↔ pathLimit ≤ p.toString.utf8ByteSize ∨
      t.follow (startOf cwd p) p.names = .error .nameTooLong := by
  rw [stat, locate, checkSize]
  split
  · rename_i hsize
    have hnot : ¬pathLimit ≤ p.toString.utf8ByteSize := Nat.not_le.2 hsize
    cases t.follow (startOf cwd p) p.names with
    | error e =>
      simp only [bind, Except.bind, Except.error.injEq]
      exact ⟨.inr, fun h => h.resolve_left hnot⟩
    | ok l =>
      simp only [bind, Except.bind]
      refine ⟨fun h => ?_, fun h => (nomatch h.resolve_left hnot)⟩
      cases hget : t.get? l <;> rw [hget] at h <;> cases h
  · rename_i hsize
    exact ⟨fun _ => .inl (Nat.not_lt.1 hsize), fun _ => rfl⟩

/-! ### Paths that are too long -/

/-- A name that is too long stays in the way of what is behind it. -/
theorem follow_tooLong_append {t : FileTree} {here : Location} {xs : List String}
    (h : t.follow here xs = .error .nameTooLong) (ys : List String) :
    t.follow here (xs ++ ys) = .error .nameTooLong := by
  induction xs generalizing here with
  | nil => exact absurd h (follow_nil_ne_tooLong t here)
  | cons name rest ih =>
    obtain ⟨hdir, hlong⟩ := follow_cons_tooLong_iff.1 h
    exact follow_cons_tooLong_iff.2 ⟨hdir, hlong.imp_right fun ⟨hname, hrest⟩ => ⟨hname, ih hrest⟩⟩

/-- If the last name is not too long, one before it is. -/
theorem follow_tooLong_of_concat {t : FileTree} {here : Location} {xs : List String} {name : String}
    (hsize : name.utf8ByteSize ≤ maxName) (h : t.follow here (xs ++ [name]) = .error .nameTooLong) :
    t.follow here xs = .error .nameTooLong := by
  induction xs generalizing here with
  | nil =>
    obtain ⟨-, ⟨-, hlong⟩ | ⟨-, hrest⟩⟩ := follow_cons_tooLong_iff.1 h
    · exact absurd hsize (Nat.not_le.2 hlong)
    · exact absurd hrest (follow_nil_ne_tooLong t _)
  | cons first rest ih =>
    obtain ⟨hdir, hlong⟩ := follow_cons_tooLong_iff.1 h
    exact follow_cons_tooLong_iff.2 ⟨hdir, hlong.imp_right fun ⟨hname, hrest⟩ => ⟨hname, ih hrest⟩⟩

/-- The size of the text of the path of a location: a slash before each name. -/
theorem size_pathOf {l : Location} (h : l ≠ []) :
    (pathOf l).toString.utf8ByteSize = (l.map fun n => 1 + n.utf8ByteSize).sum := by
  have hslash : "/".utf8ByteSize = 1 := rfl
  have hjoined : ("/" ++ "/".intercalate l).utf8ByteSize = (l.map fun n => 1 + n.utf8ByteSize).sum := by
    induction l with
    | nil => contradiction
    | cons n l ih =>
      cases l with
      | nil => simp [String.utf8ByteSize_append, hslash]
      | cons n' l =>
        rw [String.intercalate_cons_cons, List.map_cons, List.sum_cons, ← ih (List.cons_ne_nil _ _)]
        simp only [String.utf8ByteSize_append, hslash]
        omega
  have hne : ("/" ++ "/".intercalate l).isEmpty = false := by
    refine beq_false_of_ne fun hempty => ?_
    rw [String.utf8ByteSize_append, hslash] at hempty
    omega
  rw [Path.toString, pathOf]
  simp only [hne]
  exact hjoined

/-- **Of the paths of one name in a directory and in those above it, the first is the longest**: it is
too long if another is. -/
theorem stat_tooLong_of_prefix {t : FileTree} {cwd d l : Location} {name : String}
    (hsize : name.utf8ByteSize ≤ maxName) (habove : d <+: l)
    (h : t.stat cwd (pathOf (d ++ [name])) = .error .nameTooLong) :
    t.stat cwd (pathOf (l ++ [name])) = .error .nameTooLong := by
  obtain ⟨below, rfl⟩ := habove
  rcases stat_tooLong_iff.1 h with hlong | hlong
  · refine stat_tooLong_iff.2 (.inl (Nat.le_trans hlong ?_))
    rw [size_pathOf (List.concat_ne_nil _ _), size_pathOf (List.concat_ne_nil _ _)]
    simp only [List.map_append, List.sum_append]
    omega
  · have hd : t.follow [] d = .error .nameTooLong := follow_tooLong_of_concat hsize hlong
    refine stat_tooLong_iff.2 (.inr ?_)
    show t.follow [] (d ++ below ++ [name]) = _
    rw [List.append_assoc]
    exact follow_tooLong_append hd _

/-! ### Regular files -/

/-- What the path of a location leads to is there, below directories. -/
theorem stat_pathOf_eq_ok_iff {t : FileTree} {cwd l : Location} (hl : ∀ n ∈ l, n ≠ "..")
    (hshort : t.stat cwd (pathOf l) ≠ .error .nameTooLong) {e : Entry} :
    t.stat cwd (pathOf l) = .ok e ↔
      (∀ m, m <+: l → m ≠ l → t.get? m = some .directory) ∧ t.get? l = some e := by
  rw [ne_eq, stat_tooLong_iff, not_or, Nat.not_le] at hshort
  rw [stat_eq_ok_iff]
  constructor
  · rintro ⟨l', hlocate, he⟩
    have hfollow := (locate_eq_ok_iff.1 hlocate).2
    obtain rfl : l' = l := (follow_eq_foldl hfollow).trans (foldl_step_of_names hl)
    exact ⟨above_of_follow hl hfollow, he⟩
  · rintro ⟨habove, he⟩
    exact ⟨l, locate_eq_ok_iff.2 ⟨if_pos hshort.1, follow_of_above hl habove he hshort.2⟩, he⟩

/-- **The path of a location finds out whether a regular file is there**, unless it is too long. -/
theorem isFile_pathOf {t : FileTree} {cwd l : Location} (hl : ∀ n ∈ l, IsName n)
    (hshort : t.stat cwd (pathOf l) ≠ .error .nameTooLong) :
    ∃ b, t.isFile cwd (pathOf l) = .ok b ∧ (b = true ↔ t.HasFile l) := by
  have hiff := @stat_pathOf_eq_ok_iff t cwd l (fun n hn => (hl n hn).not_dots) hshort
  rw [isFile, test, holdsNul_of_names hl, if_neg Bool.false_ne_true]
  cases hstat : t.stat cwd (pathOf l) with
  | error e =>
    have habsent : e.meansAbsent = true :=
      (stat_error hstat).resolve_right fun hlong => hshort (by rw [hstat, hlong])
    refine ⟨false, if_pos habsent, fun h => (nomatch h), fun ⟨habove, e', he', _⟩ => ?_⟩
    exact nomatch hstat.symm.trans (hiff.2 ⟨habove, he'⟩)
  | ok e =>
    obtain ⟨habove, he⟩ := hiff.1 hstat
    refine ⟨Entry.isFile e, rfl, fun h => ⟨habove, e, he, h⟩, fun ⟨_, e', he', h⟩ => ?_⟩
    rwa [Option.some.inj (he.symm.trans he')]

end FileTree
end LogBalancer
