/-
# Replacing files

Replacing a file ends in one of two ways (`replace_spec`): with the new text at the path, or with an
error, and then nothing but directories has been added to the tree and perhaps the temporary file.
That file has a free name (`temporaryIn_free`), so it takes the place of nothing, and it stays only
where it cannot be closed or cannot be removed (`Trouble.MayStrand`).
-/

import LogBalancer.Proofs.FileTree.Directories

namespace LogBalancer
namespace FileTree

/-! ### Temporary names -/

/-- Zeros in front of a number do not change it. -/
theorem valueOf_replicate_zero (k : Nat) (s : List Char) :
    Decimal.valueOf (List.replicate k '0' ++ s) = Decimal.valueOf s := by
  have hzero : (List.replicate k '0').foldl (fun n c => 10 * n + (c.toNat - 48)) 0 = 0 := by
    induction k with
    | zero => rfl
    | succ k ih => exact ih
  rw [Decimal.valueOf, List.foldl_append, hzero]
  rfl

/-- Different numbers give different names. -/
theorem temporaryName_inj {m n : Nat} (h : temporaryName m = temporaryName n) : m = n := by
  have hchars := String.toList_inj.2 h
  simp only [temporaryName, String.toList_append, String.toList_ofList] at hchars
  have hvalues := congrArg Decimal.valueOf
    (List.append_cancel_left (List.append_cancel_right hchars))
  rwa [valueOf_replicate_zero, valueOf_replicate_zero, Decimal.valueOf_digits,
    Decimal.valueOf_digits] at hvalues

/-- If the name that is found is taken, so are all that were tried. -/
theorem taken_of_freeName {t : FileTree} {directory : Location} {fuel n : Nat}
    (h : (t.get? (directory ++ [t.freeName directory fuel n])).isSome = true) :
    ∀ k ≤ fuel, (t.get? (directory ++ [temporaryName (n + k)])).isSome = true := by
  induction fuel generalizing n with
  | zero =>
    intro k hk
    obtain rfl := Nat.le_zero.1 hk
    exact h
  | succ fuel ih =>
    rw [freeName] at h
    split at h
    · rename_i htaken
      intro k hk
      cases k with
      | zero => exact htaken
      | succ k =>
        have := ih h k (Nat.le_of_succ_le_succ hk)
        rwa [Nat.add_right_comm] at this
    · rename_i hfree
      exact absurd h hfree

/-- **The name of a temporary file is not in use.**  There are fewer entries than names to try. -/
theorem temporaryIn_free (t : FileTree) (directory : Location) :
    t.get? (directory ++ [t.temporaryIn directory]) = none := by
  cases hget : t.get? (directory ++ [t.temporaryIn directory]) with
  | none => rfl
  | some e =>
    have htaken := taken_of_freeName (Option.isSome_iff_exists.2 ⟨e, hget⟩)
    let tried := (List.range (t.entries.length + 1)).map fun k => directory ++ [temporaryName k]
    have hnodup : tried.Nodup := by
      refine List.pairwise_map.2 (List.nodup_range.imp fun hne heq => hne ?_)
      exact temporaryName_inj (List.cons.inj (List.append_cancel_left heq)).1
    have hsubset : tried ⊆ t.entries.map Prod.fst := by
      intro l hl
      obtain ⟨k, hk, rfl⟩ := List.mem_map.1 hl
      have hsome := htaken k (Nat.le_of_lt_succ (List.mem_range.1 hk))
      rw [Nat.zero_add] at hsome
      obtain ⟨e, he⟩ := Option.isSome_iff_exists.1 hsome
      rw [get?, if_neg (List.append_ne_nil_of_right_ne_nil _ (List.cons_ne_nil _ _))] at he
      obtain ⟨xs, ys, hentries, -⟩ := List.lookup_eq_some_iff.1 he
      rw [hentries]
      simp
    have hlength := hnodup.length_le_of_subset hsubset
    rw [List.length_map, List.length_map, List.length_range] at hlength
    omega

/-! ### In an existing directory -/

/-- What was put is erased with what it was put in place of. -/
theorem erase_put_self (t : FileTree) (l : Location) (e : Entry) :
    (t.put l e).erase l = t.erase l := by
  simp [put, erase]

/-- Of two entries for one location the later counts. -/
theorem put_put_self (t : FileTree) (l : Location) (e e' : Entry) :
    (t.put l e).put l e' = t.put l e' := by
  simp [put]

/-- Erasing nothing changes nothing. -/
theorem erase_of_get?_eq_none {t : FileTree} {l : Location} (h : t.get? l = none) :
    t.erase l = t := by
  have hne : l ≠ [] := by
    rintro rfl
    cases h
  rw [get?, if_neg hne, List.lookup_eq_none_iff] at h
  have hentries : t.entries.filter (fun x => x.1 != l) = t.entries := by
    rw [List.filter_eq_self]
    intro x hx
    refine bne_iff_ne.2 fun he => ?_
    exact absurd (h x hx) (by simp [he])
  rw [erase, hentries]

/-- The target of a path is its last name in the directory, which must be no directory itself. -/
theorem target_eq_ok {t : FileTree} {directory l : Location} {p : Path}
    (h : t.target directory p = .ok l) :
    ∃ name, p.names.getLast? = some name ∧ checkSize p = .ok () ∧ name ≠ ".." ∧
      name.utf8ByteSize ≤ maxName ∧ t.get? l ≠ some .directory ∧ l = directory ++ [name] := by
  simp only [target, bind, Except.bind, pure, Except.pure, throw, throwThe,
    MonadExceptOf.throw] at h
  split at h
  · cases h
  rename_i hsize
  split at h
  · cases h
  rename_i name hlast
  split at h
  · cases h
  rename_i hdots
  split at h
  · cases h
  rename_i hname
  split at h
  · cases h
  rename_i hdir
  obtain rfl := Except.ok.inj h
  exact ⟨name, hlast, hsize, hdots, Nat.not_lt.1 hname, fun he => hdir (by simp [isDirectoryAt, he]),
    rfl⟩

/-- Whether a temporary file may stay: it cannot be closed, or it cannot be removed. -/
def Trouble.MayStrand (trouble : Trouble) : Prop :=
  trouble.reason .closeTemporary ≠ none ∨
    ∃ e, trouble.reason .removeTemporary = some e ∧ e.code ≠ FileError.noEntry.code

/-- A place for temporary files in a directory. -/
def IsTemporary (directory l : Location) : Prop := ∃ n, l = directory ++ [temporaryName n]

/-- What a replacement that has failed leaves of a tree: the tree, perhaps with its temporary file,
which has taken the place of nothing. -/
def Leaves (trouble : Trouble) (directory : Location) (t t' : FileTree) : Prop :=
  t' = t ∨ trouble.MayStrand ∧ ∃ l octets, IsTemporary directory l ∧ t.get? l = none ∧
    t' = t.put l (.file octets)

namespace Leaves

variable {trouble : Trouble} {directory : Location} {t t' : FileTree}

/-- What was in the tree is in it still. -/
theorem kept (h : Leaves trouble directory t t') {l : Location} {e : Entry}
    (he : t.get? l = some e) : t'.get? l = some e := by
  rcases h with rfl | ⟨-, m, octets, -, hfree, rfl⟩
  · exact he
  · have hne : l ≠ m := by
      rintro rfl
      cases he.symm.trans hfree
    rw [get?_put_of_ne t hne, he]

/-- All that may have come to be is a file in the place of a temporary one. -/
theorem added (h : Leaves trouble directory t t') {l : Location} (hl : t.get? l = none) :
    t'.get? l = none ∨ trouble.MayStrand ∧ IsTemporary directory l ∧
      ∃ octets, t'.get? l = some (.file octets) := by
  rcases h with rfl | ⟨hstrand, m, octets, hm, -, rfl⟩
  · exact .inl hl
  · by_cases heq : l = m
    · subst heq
      have hne : l ≠ [] := by
        rintro rfl
        cases hl
      exact .inr ⟨hstrand, hm, octets, get?_put_self t hne _⟩
    · exact .inl ((get?_put_of_ne t heq _).trans hl)

/-- Directories stay, and so does what is anywhere. -/
theorem keeps (h : Leaves trouble directory t t') : Keeps t t' where
  directory hdir := h.kept hdir
  present he := ⟨_, h.kept he⟩

end Leaves

/-- The name that is found is that of a temporary file. -/
theorem exists_freeName (t : FileTree) (directory : Location) (fuel n : Nat) :
    ∃ k, t.freeName directory fuel n = temporaryName k := by
  induction fuel generalizing n with
  | zero => exact ⟨n, rfl⟩
  | succ fuel ih =>
    rw [freeName]
    split
    · exact ih (n + 1)
    · exact ⟨n, rfl⟩

/-- Creating a temporary file adds it, empty. -/
theorem createTemporary_eq_ok {t t' : FileTree} {temporary : Location} {path : Path}
    {trouble : Trouble} (h : t.createTemporary temporary path trouble = .ok t') :
    t' = t.put temporary (.file []) := by
  simp only [createTemporary, bind, Except.bind, pure, Except.pure, throw, throwThe,
    MonadExceptOf.throw] at h
  split at h
  · cases h
  · split at h
    · cases h
    · exact (Except.ok.inj h).symm

/-- The place that a temporary file takes is the target of the path. -/
theorem destination_eq_ok {t : FileTree} {directory l : Location} {p temporary : Path}
    {trouble : Trouble} (h : t.destination directory p temporary trouble = .ok l) :
    t.target directory p = .ok l := by
  unfold destination at h
  split at h
  · cases h
  simp only at h
  split at h
  · cases h
  rename_i l' hl'
  split at h
  · cases h
  · obtain rfl := Except.ok.inj h
    exact hl'

/-- Only a path that holds the character NUL is refused for it. -/
theorem holdsNul_of_destination {t : FileTree} {directory : Location} {p temporary : Path}
    {trouble : Trouble} (h : t.destination directory p temporary trouble = .error .nul) :
    p.holdsNul = true := by
  unfold destination at h
  split at h
  · assumption
  simp only at h
  split at h
  · cases h
  · split at h <;> cases h

/-- **After a failure the temporary file is removed, or it stays because it cannot be.** -/
theorem discard_spec {t : FileTree} {directory l : Location} (hl : IsTemporary directory l)
    (hfree : t.get? l = none) (octets : List UInt8) (path : Path) (trouble : Trouble)
    (failure : ReplaceError) :
    ∃ t' e, (t.put l (.file octets)).discard l path trouble failure = (t', .error e) ∧
      Leaves trouble directory t t' ∧ (e = .nul → failure = .nul) := by
  have hclean : (t.put l (.file octets)).erase l = t := by
    rw [erase_put_self, erase_of_get?_eq_none hfree]
  unfold discard
  split
  · rw [hclean]
    exact ⟨t, failure, rfl, .inl rfl, id⟩
  · rename_i e hremove
    split
    · rw [hclean]
      exact ⟨t, failure, rfl, .inl rfl, id⟩
    · rename_i hcode
      exact ⟨_, _, rfl, .inr ⟨.inr ⟨e, hremove, hcode⟩, l, octets, hl, hfree, rfl⟩,
        fun h => nomatch h⟩

/-- **Replacing a file in a directory fails and leaves at most its temporary file, or puts the text
at the path.** -/
theorem replaceIn_spec (t : FileTree) (directory : Location) (p : Path) (text : String)
    (trouble : Trouble) :
    (∃ t' e, t.replaceIn directory p text trouble = (t', .error e) ∧
      Leaves trouble directory t t' ∧ (e = .nul → p.holdsNul = true)) ∨
    ∃ l, t.replaceIn directory p text trouble = (t.put l (.file (Text.encode text)), .ok ()) ∧
      ∃ name, p.names.getLast? = some name ∧ checkSize p = .ok () ∧ name ≠ ".." ∧
        name.utf8ByteSize ≤ maxName ∧ t.get? l ≠ some .directory ∧ l = directory ++ [name] := by
  have hfree := temporaryIn_free t directory
  have htemporary : IsTemporary directory (directory ++ [t.temporaryIn directory]) :=
    (exists_freeName t directory _ 0).imp fun k hk => congrArg (directory ++ [·]) hk
  unfold replaceIn
  simp only
  split
  · exact .inl ⟨t, _, rfl, .inl rfl, fun h => nomatch h⟩
  rename_i created hcreated
  obtain rfl := createTemporary_eq_ok hcreated
  split
  · rename_i e hclose
    refine .inl ⟨_, _, rfl, .inr ⟨.inl ?_, _, [], htemporary, hfree, rfl⟩, fun h => nomatch h⟩
    rw [hclose]
    exact Option.some_ne_none e
  have hput (octets : List UInt8) :
      (t.put (directory ++ [t.temporaryIn directory]) (.file [])).put
          (directory ++ [t.temporaryIn directory]) (.file octets) =
        t.put (directory ++ [t.temporaryIn directory]) (.file octets) := put_put_self t _ _ _
  simp only [hput]
  split
  · obtain ⟨t', e', hdiscard, hleaves, hnul⟩ := discard_spec htemporary hfree
      ((Text.encode text).take trouble.written) (temporaryPath p _) trouble (.failed ⟨_, []⟩)
    exact .inl ⟨t', e', hdiscard, hleaves, fun h => nomatch hnul h⟩
  split
  · rename_i e hdestination
    obtain ⟨t', e', hdiscard, hleaves, hnul⟩ := discard_spec htemporary hfree
      (Text.encode text) (temporaryPath p _) trouble e
    refine .inl ⟨t', e', hdiscard, hleaves, fun h => ?_⟩
    obtain rfl := hnul h
    exact holdsNul_of_destination hdestination
  rename_i l hdestination
  obtain ⟨name, hlast, hsize, hdots, hname, hdir, rfl⟩ :=
    target_eq_ok (destination_eq_ok hdestination)
  refine .inr ⟨_, ?_, name, hlast, hsize, hdots, hname, fun he => hdir ?_, rfl⟩
  · rw [erase_put_self, erase_of_get?_eq_none hfree]
  have hne : directory ++ [name] ≠ directory ++ [t.temporaryIn directory] := by
    intro heq
    rw [heq, hfree] at he
    cases he
  rw [get?_put_of_ne _ hne, he]

/-! ### Anywhere -/

/-- Accepting a directory that is there already does not fail for a NUL. -/
theorem orThere_ne_nul (t : FileTree) (cwd : Location) (p : Path) (e : FileError) :
    t.orThere cwd p e ≠ .error .nul := by
  unfold orThere
  split <;> exact fun h => nomatch h

/-- Once a path has been looked at, making its directories does not fail for a NUL. -/
theorem makeDirectoriesFrom_ne_nul (cwd : Location) (trouble : Trouble) (fuel : Nat) (t : FileTree)
    (p : Path) : (makeDirectoriesFrom cwd trouble fuel t p).2 ≠ .error .nul := by
  have hok : (.ok () : Except ReplaceError Unit) ≠ .error .nul := by simp
  have hfailed : ∀ p, (.error (failedAt .noEntry p) : Except ReplaceError Unit) ≠ .error .nul := by
    simp [failedAt]
  induction fuel generalizing t p with
  | zero => exact hfailed p
  | succ fuel ih =>
    rw [makeDirectoriesFrom]
    split
    · exact hok
    · split
      · exact hfailed p
      have hparent := ih t p.parent
      split
      · rename_i h₁
        rwa [h₁] at hparent
      split
      · exact hok
      · exact hfailed p
      · exact orThere_ne_nul _ _ _ _
    · exact orThere_ne_nul _ _ _ _

/-- A NUL in the parent of a path is one in the path. -/
theorem holdsNul_of_parent {p : Path} (h : p.parent.holdsNul = true) : p.holdsNul = true := by
  obtain ⟨name, hname, hnul⟩ := List.any_eq_true.1 h
  exact List.any_eq_true.2 ⟨name, List.dropLast_subset _ hname, hnul⟩

/-- Making the directories of a path fails for a NUL only if there is one in it. -/
theorem holdsNul_of_makeDirectories {t t' : FileTree} {cwd : Location} {p : Path}
    {trouble : Trouble} (h : t.makeDirectories cwd p trouble = (t', .error .nul)) :
    p.holdsNul = true := by
  unfold makeDirectories at h
  split at h
  · assumption
  · exact absurd (congrArg Prod.snd h) (makeDirectoriesFrom_ne_nul _ _ _ _ _)

/-- **Replacing a file adds directories on the path of its parent, and then fails, leaving at most
its temporary file, or puts the text at the path.**  The path leads to what was put there, and no
directory was. -/
theorem replace_spec (t : FileTree) (cwd : Location) (p : Path) (text : String)
    (trouble : Trouble) :
    ∃ t', Grows (On cwd p.parent) t t' ∧
      ((∃ t'' e, t.replace cwd p text trouble = (t'', .error e) ∧
        Leaves trouble (resolve cwd p.parent) t' t'' ∧ (e = .nul → p.holdsNul = true)) ∨
      (t.replace cwd p text trouble =
          (t'.put (resolve cwd p) (.file (Text.encode text)), .ok ()) ∧
        t'.get? (resolve cwd p) ≠ some .directory ∧
        (t'.put (resolve cwd p) (.file (Text.encode text))).locate cwd p =
          .ok (resolve cwd p))) := by
  have hgrows := makeDirectories_grows t cwd p.parent trouble
  unfold replace
  split
  · rename_i t₁ e h₁
    rw [h₁] at hgrows
    refine ⟨t₁, hgrows, .inl ⟨t₁, e, rfl, .inl rfl, ?_⟩⟩
    rintro rfl
    exact holdsNul_of_parent (holdsNul_of_makeDirectories h₁)
  rename_i t₁ h₁
  rw [h₁] at hgrows
  obtain ⟨directory, hlocate, hdir⟩ := makeDirectories_leads h₁
  obtain rfl : directory = resolve cwd p.parent := locate_eq_resolve hlocate
  rw [hlocate]
  simp only
  refine ⟨t₁, hgrows, ?_⟩
  rcases replaceIn_spec t₁ (resolve cwd p.parent) p text trouble with hfailed | ⟨l, hput, hl⟩
  · exact .inl hfailed
  obtain ⟨name, hlast, hsize, hdots, hname, htaken, rfl⟩ := hl
  have hplace : resolve cwd p.parent ++ [name] = resolve cwd p :=
    (resolve_of_getLast? hlast hdots).symm
  have hne : resolve cwd p.parent ++ [name] ≠ [] :=
    List.append_ne_nil_of_right_ne_nil _ (List.cons_ne_nil _ _)
  have hkeeps := Keeps.put htaken (.file (Text.encode text))
  rw [← hplace]
  refine .inr ⟨hput, htaken, locate_eq_ok_iff.2 ⟨hsize, ?_⟩⟩
  rw [names_eq_concat hlast]
  exact follow_concat (hkeeps.follow (locate_eq_ok_iff.1 hlocate).2) (hkeeps.directory hdir) hdots
    hname (get?_put_self t₁ hne _)

end FileTree
end LogBalancer
