/-
# Where the configuration is from

The search for a team file goes up from a directory and ends at the first file: the nearest one
(`IsNearest`).  It fails only where it cannot start, since the path of the first candidate is the
longest (`CanLook`).  An explicit file comes before the nearest one, which comes before the built-in
catalog, and a file that does not load is never passed over for a later choice
(`nearest_file_wins`).

A directory can be so deep that the search cannot start there (`not_discovered_of_deep_directory`).
-/

import LogBalancer.Proofs.FileTree.Regular
import LogBalancer.Proofs.TeamFile.Loading
import Mathlib.Data.List.Basic
import Mathlib.Data.List.Induction
import Mathlib.Data.List.Infix

namespace LogBalancer
namespace TeamFile

/-- The team file of a directory. -/
def fileIn (d : Location) : Path := FileTree.pathOf (d ++ [fileName])

/-- Where the search for a team file starts; by default, in the current directory. -/
def startOf (host : Host) (start : Option Path) : Location :=
  FileTree.resolve host.cwd (start.getD {})

/-- The deepest directory, of `l` and those above it, that holds a team file. -/
structure IsNearest (t : FileTree) (l d : Location) : Prop where
  above : d <+: l
  holds : t.HasFile (d ++ [fileName])
  deepest : ∀ d', d' <+: l → t.HasFile (d' ++ [fileName]) → d'.length ≤ d.length

/-- Neither `l` nor a directory above it holds a team file. -/
def IsBare (t : FileTree) (l : Location) : Prop := ∀ d, d <+: l → ¬t.HasFile (d ++ [fileName])

/-- A start from which one can look for a team file: a path without NUL whose own team file has a
path that is not too long. -/
structure CanLook (host : Host) (start : Option Path) : Prop where
  no_nul : (start.getD {}).holdsNul = false
  short : host.tree.stat host.cwd (fileIn (startOf host start)) ≠ .error .nameTooLong

/-! ### The nearest directory -/

/-- There is one nearest directory. -/
theorem IsNearest.unique {t : FileTree} {l d d' : Location} (h : IsNearest t l d)
    (h' : IsNearest t l d') : d = d' :=
  (List.prefix_of_prefix_length_le h.above h'.above (h'.deepest d h.above h.holds)).eq_of_length
    (Nat.le_antisymm (h'.deepest d h.above h.holds) (h.deepest d' h'.above h'.holds))

/-- A directory with a team file is nearest to itself. -/
theorem IsNearest.self {t : FileTree} {l : Location} (h : t.HasFile (l ++ [fileName])) :
    IsNearest t l l :=
  ⟨List.prefix_refl l, h, fun _ hd _ => hd.length_le⟩

/-- One directory further down, without a team file, the nearest one is the same. -/
theorem IsNearest.concat {t : FileTree} {l d : Location} {name : String} (h : IsNearest t l d)
    (hnone : ¬t.HasFile (l ++ [name] ++ [fileName])) : IsNearest t (l ++ [name]) d := by
  refine ⟨h.above.trans (List.prefix_append l [name]), h.holds, fun d' hd' hfile => ?_⟩
  rcases List.prefix_concat_iff.1 hd' with rfl | hd'
  · exact absurd hfile hnone
  · exact h.deepest d' hd' hfile

/-- Below a bare directory, one without a team file is bare too. -/
theorem IsBare.concat {t : FileTree} {l : Location} {name : String} (h : IsBare t l)
    (hnone : ¬t.HasFile (l ++ [name] ++ [fileName])) : IsBare t (l ++ [name]) := by
  intro d hd
  rcases List.prefix_concat_iff.1 hd with rfl | hd
  · exact hnone
  · exact h d hd

/-! ### Going up -/

/-- Above a directory are the one that holds it and those above that. -/
theorem ancestors_concat (l : Location) (name : String) :
    ancestors (l ++ [name]).length (l ++ [name]) = (l ++ [name]) :: ancestors l.length l := by
  rw [List.length_append, List.length_singleton, ancestors, List.dropLast_concat]

/-- The first of some directories is the one to look at, and the others follow if it holds no team
file. -/
theorem firstWithFile_cons {host : Host} {d : Location} {b : Bool}
    (h : host.tree.isFile host.cwd (fileIn d) = .ok b) (ds : List Location) :
    firstWithFile host (d :: ds) = if b then .ok (some (fileIn d)) else firstWithFile host ds := by
  have hlook : host.tree.isFile host.cwd ((FileTree.pathOf d).child fileName) = .ok b := h
  rw [firstWithFile, hlook]
  cases b <;> rfl

/-- **The first file on the way up is the nearest**, if every candidate can be looked at. -/
theorem firstWithFile_ancestors {host : Host} {l : Location}
    (h : ∀ d, d <+: l → ∃ b, host.tree.isFile host.cwd (fileIn d) = .ok b ∧
      (b = true ↔ host.tree.HasFile (d ++ [fileName]))) :
    (∃ d, IsNearest host.tree l d ∧
        firstWithFile host (ancestors l.length l) = .ok (some (fileIn d))) ∨
      IsBare host.tree l ∧ firstWithFile host (ancestors l.length l) = .ok none := by
  induction l using List.reverseRecOn with
  | nil =>
    obtain ⟨b, hlook, hfile⟩ := h [] (List.prefix_refl _)
    show (∃ d, _ ∧ firstWithFile host [[]] = _) ∨ _ ∧ firstWithFile host [[]] = _
    rw [firstWithFile_cons hlook]
    cases b with
    | true => exact .inl ⟨[], .self (hfile.1 rfl), rfl⟩
    | false =>
      refine .inr ⟨fun d hd hholds => ?_, rfl⟩
      rw [List.prefix_nil.1 hd] at hholds
      exact nomatch hfile.2 hholds
  | append_singleton l name ih =>
    obtain ⟨b, hlook, hfile⟩ := h (l ++ [name]) (List.prefix_refl _)
    rw [ancestors_concat, firstWithFile_cons hlook]
    cases b with
    | true => exact .inl ⟨_, .self (hfile.1 rfl), rfl⟩
    | false =>
      have hnone : ¬host.tree.HasFile (l ++ [name] ++ [fileName]) := fun hholds =>
        nomatch hfile.2 hholds
      rcases ih fun d hd => h d (hd.trans (List.prefix_append l [name])) with
        ⟨d, hnearest, hfirst⟩ | ⟨hbare, hfirst⟩
      · exact .inl ⟨d, hnearest.concat hnone, hfirst⟩
      · exact .inr ⟨hbare.concat hnone, hfirst⟩

/-! ### The search -/

/-- The name of team files is a proper name. -/
theorem isName_fileName : FileTree.IsName fileName := ⟨by decide, by decide⟩

/-- A team file above a directory that a path leads to has a path of proper names. -/
theorem isName_of_mem_fileIn {host : Host} (hcwd : ∀ n ∈ host.cwd, FileTree.IsName n)
    {start : Option Path} (hnul : (start.getD {}).holdsNul = false) {d : Location}
    (hd : d <+: startOf host start) : ∀ n ∈ d ++ [fileName], FileTree.IsName n := by
  intro n hn
  rcases List.mem_append.1 hn with hn | hn
  · exact FileTree.isName_of_mem_resolve hcwd hnul n (hd.subset hn)
  · rw [List.mem_singleton.1 hn]
    exact isName_fileName

/-- A team file is looked for in a directory and those above it, if the path to start from holds no
NUL. -/
theorem discover_eq (host : Host) (start : Option Path) :
    discover host start = if (start.getD {}).holdsNul then .error .nul else
      (firstWithFile host (ancestors (startOf host start).length (startOf host start))).mapError
        .system := rfl

/-- **The search finds the nearest team file** from a start from which one can look. -/
theorem discover_of_canLook {host : Host} (hcwd : ∀ n ∈ host.cwd, FileTree.IsName n)
    {start : Option Path} (h : CanLook host start) :
    (∃ d, IsNearest host.tree (startOf host start) d ∧
        discover host start = .ok (some (fileIn d))) ∨
      IsBare host.tree (startOf host start) ∧ discover host start = .ok none := by
  have hlook : ∀ d, d <+: startOf host start → ∃ b, host.tree.isFile host.cwd (fileIn d) = .ok b ∧
      (b = true ↔ host.tree.HasFile (d ++ [fileName])) := fun d hd =>
    FileTree.isFile_pathOf (isName_of_mem_fileIn hcwd h.no_nul hd) fun hlong =>
      h.short (FileTree.stat_tooLong_of_prefix (by decide) hd hlong)
  rw [discover_eq, if_neg (Bool.eq_false_iff.1 h.no_nul)]
  rcases firstWithFile_ancestors hlook with ⟨d, hnearest, hfirst⟩ | ⟨hbare, hfirst⟩
  · exact .inl ⟨d, hnearest, by rw [hfirst]; rfl⟩
  · exact .inr ⟨hbare, by rw [hfirst]; rfl⟩

/-- Where the path of the deepest team file is too long, looking for one is refused. -/
theorem discover_of_tooLong {host : Host} (hcwd : ∀ n ∈ host.cwd, FileTree.IsName n)
    {start : Option Path} (hnul : (start.getD {}).holdsNul = false)
    (hlong : host.tree.stat host.cwd (fileIn (startOf host start)) = .error .nameTooLong) :
    discover host start =
      .error (.system ⟨.nameTooLong, [(fileIn (startOf host start)).toString]⟩) := by
  have hnames := isName_of_mem_fileIn hcwd hnul (List.prefix_refl _)
  obtain ⟨ds, hds⟩ : ∃ ds, ancestors (startOf host start).length (startOf host start) =
      startOf host start :: ds := by
    cases startOf host start with
    | nil => exact ⟨[], rfl⟩
    | cons name l => exact ⟨_, rfl⟩
  have hlook : host.tree.isFile host.cwd ((FileTree.pathOf (startOf host start)).child fileName) =
      .error ⟨.nameTooLong, [(fileIn (startOf host start)).toString]⟩ := by
    show host.tree.isFile host.cwd (fileIn (startOf host start)) = _
    rw [FileTree.isFile, FileTree.test, fileIn, FileTree.holdsNul_of_names hnames,
      if_neg Bool.false_ne_true, ← fileIn, hlong]
    rfl
  rw [discover_eq, if_neg (Bool.eq_false_iff.1 hnul), hds, firstWithFile, hlook]
  rfl

/-- **The search fails from a start from which one cannot look.** -/
theorem exists_discover_eq_error {host : Host} (hcwd : ∀ n ∈ host.cwd, FileTree.IsName n)
    {start : Option Path} (h : ¬CanLook host start) : ∃ e, discover host start = .error e := by
  cases hnul : (start.getD {}).holdsNul with
  | true => exact ⟨.nul, by rw [discover_eq, hnul, if_pos rfl]⟩
  | false =>
    have hlong : host.tree.stat host.cwd (fileIn (startOf host start)) = .error .nameTooLong :=
      Classical.byContradiction fun hshort => h ⟨hnul, hshort⟩
    exact ⟨_, discover_of_tooLong hcwd hnul hlong⟩

/-- **Looking for a team file succeeds exactly where one can look**, whether there is one or not. -/
theorem discover_isOk_iff {host : Host} (hcwd : ∀ n ∈ host.cwd, FileTree.IsName n)
    (start : Option Path) : (∃ found, discover host start = .ok found) ↔ CanLook host start := by
  constructor
  · rintro ⟨found, hfound⟩
    refine Classical.byContradiction fun hnot => ?_
    obtain ⟨e, he⟩ := exists_discover_eq_error hcwd hnot
    cases hfound.symm.trans he
  · intro h
    rcases discover_of_canLook hcwd h with ⟨d, -, hsome⟩ | ⟨-, hnone⟩
    · exact ⟨_, hsome⟩
    · exact ⟨_, hnone⟩

/-- **The file that is found is the nearest one.** -/
theorem discover_eq_some_iff {host : Host} (hcwd : ∀ n ∈ host.cwd, FileTree.IsName n)
    (start : Option Path) (p : Path) : discover host start = .ok (some p) ↔ CanLook host start ∧
      ∃ d, IsNearest host.tree (startOf host start) d ∧ p = fileIn d := by
  constructor
  · intro h
    have hlook := (discover_isOk_iff hcwd start).1 ⟨_, h⟩
    rcases discover_of_canLook hcwd hlook with ⟨d, hnearest, hsome⟩ | ⟨-, hnone⟩
    · exact ⟨hlook, d, hnearest, Option.some.inj (Except.ok.inj (h.symm.trans hsome))⟩
    · cases h.symm.trans hnone
  · rintro ⟨hlook, d, hnearest, rfl⟩
    rcases discover_of_canLook hcwd hlook with ⟨d', hnearest', hsome⟩ | ⟨hbare, -⟩
    · rw [hsome, hnearest.unique hnearest']
    · exact absurd hnearest.holds (hbare d hnearest.above)

/-- **No file is found exactly where none is there.** -/
theorem discover_eq_none_iff {host : Host} (hcwd : ∀ n ∈ host.cwd, FileTree.IsName n)
    (start : Option Path) : discover host start = .ok none ↔
      CanLook host start ∧ IsBare host.tree (startOf host start) := by
  constructor
  · intro h
    have hlook := (discover_isOk_iff hcwd start).1 ⟨_, h⟩
    rcases discover_of_canLook hcwd hlook with ⟨d, -, hsome⟩ | ⟨hbare, -⟩
    · cases h.symm.trans hsome
    · exact ⟨hlook, hbare⟩
  · rintro ⟨hlook, hbare⟩
    rcases discover_of_canLook hcwd hlook with ⟨d, hnearest, -⟩ | ⟨-, hnone⟩
    · exact absurd hnearest.holds (hbare d hnearest.above)
    · exact hnone

/-! ### What loading and resolving make of it -/

/-- Looking around the current directory gives what is found, and its refusal escapes. -/
theorem run_discovered {host : Host} :
    (discovered host).run.value = (discover host).mapError .escape := by
  unfold discovered
  cases discover host <;> rfl

/-- Without an explicit file, the one that the search finds is loaded. -/
theorem load_none_value (host : Host) :
    (load host none).run.value =
      match discover host with
      | .error e => .error (.escape e)
      | .ok none => .error (.config .noFile)
      | .ok (some p) => (load host (some p)).run.value := by
  show ((discovered host) >>= _).run.value = _
  rw [run_bind_value, run_discovered]
  cases discover host with
  | error e => rfl
  | ok found => cases found <;> rfl

/-- Without an explicit file, the configuration is that of the file that the search finds. -/
theorem resolve_none_value (host : Host) :
    (resolve host none).run.value =
      match discover host with
      | .error e => .error (.escape e)
      | .ok none => .ok (Catalog.config, none)
      | .ok (some p) => (resolve host (some p)).run.value := by
  show ((discovered host) >>= _).run.value = _
  rw [run_bind_value, run_discovered]
  cases discover host with
  | error e => rfl
  | ok found => cases found <;> rfl

/-- A value stands for a mapping, or it has the wrong shape. -/
theorem asMapping_cases (path : Path) (v : Value) :
    (∃ mapping, asMapping path v = .ok mapping) ∨
      asMapping path v = .error (.wrongShape path v.typeName) := by
  unfold asMapping
  split
  case h_4 => exact .inr rfl
  all_goals exact .inl ⟨_, rfl⟩

/-- What a file comes to is not that there is no file. -/
theorem decode_ne_noFile (depth : Nat) (environment : Environment) (path : Path)
    (octets : List UInt8) : decode depth environment path octets ≠ .error (.config .noFile) := by
  rw [decode]
  cases Text.decodeFrom 0 octets with
  | error e =>
    intro h
    cases h
  | ok text =>
    show (parse depth environment text).mapError _ >>= _ ≠ _
    cases parse depth environment text with
    | error fault =>
      intro h
      cases fault <;> cases h
    | ok value =>
      show (asMapping path value).mapError _ >>= _ ≠ _
      rcases asMapping_cases path value with ⟨mapping, hmapping⟩ | hshape
      · simp only [hmapping, Except.mapError, bind, Except.bind]
        intro h
        cases hconfig : Record.config mapping <;>
          · rw [hconfig] at h
            cases h
      · rw [hshape]
        intro h
        cases h

/-- Loading an explicit file does not fail for want of a nearest one. -/
theorem load_some_ne_noFile (host : Host) (path : Path) :
    (load host (some path)).run.value ≠ .error (.config .noFile) := by
  rw [load_value, loadFrom_value]
  intro h
  split at h
  · cases h
  · cases h
  · split at h
    · cases h
    · exact decode_ne_noFile _ _ _ _ h

/-- An explicit file is the source of what is resolved. -/
theorem resolve_some_source {host : Host} {path : Path} {config : Config} {source : Option Path}
    (h : (resolve host (some path)).run.value = .ok (config, source)) : source = some path := by
  rw [resolve_value] at h
  cases hload : (loadFrom host path).run.value with
  | error e =>
    rw [hload] at h
    cases h
  | ok config' =>
    rw [hload] at h
    exact (Prod.mk.inj (Except.ok.inj h)).2.symm

/-- **The nearest team file wins, and the built-in catalog is the last resort.**  From any start from
which one can look, and only from these, the search ends: with the file of the nearest directory
that holds one, or with none if no directory does.  An explicit file is loaded or refused.  Without
one, the nearest file is loaded or refused, whatever files there are further up.  The catalog is used
exactly if there is no file of either kind, which is exactly when loading fails for want of a file. -/
theorem nearest_file_wins {host : Host} (hcwd : ∀ n ∈ host.cwd, FileTree.IsName n) :
    (∀ start : Option Path,
      ((∃ found, discover host start = .ok found) ↔ CanLook host start) ∧
      (∀ p, discover host start = .ok (some p) ↔ CanLook host start ∧
        ∃ d, IsNearest host.tree (startOf host start) d ∧ p = fileIn d) ∧
      (discover host start = .ok none ↔
        CanLook host start ∧ IsBare host.tree (startOf host start))) ∧
    (∀ path, (resolve host (some path)).run.value =
      (load host (some path)).run.value.map fun config => (config, some path)) ∧
    (CanLook host none → ∀ d, IsNearest host.tree host.cwd d →
      (load host none).run.value = (load host (some (fileIn d))).run.value ∧
      (resolve host none).run.value =
        (load host (some (fileIn d))).run.value.map fun config => (config, some (fileIn d))) ∧
    (∀ path config, (resolve host path).run.value = .ok (config, none) ↔
      config = Catalog.config ∧ path = none ∧ CanLook host none ∧ IsBare host.tree host.cwd) ∧
    ((load host none).run.value = .error (.config .noFile) ↔
      CanLook host none ∧ IsBare host.tree host.cwd) ∧
    (¬CanLook host none → ∃ e, (load host none).run.value = .error (.escape e) ∧
      (resolve host none).run.value = .error (.escape e)) := by
  have hbare := discover_eq_none_iff hcwd none
  refine ⟨fun start => ⟨discover_isOk_iff hcwd start, discover_eq_some_iff hcwd start,
    discover_eq_none_iff hcwd start⟩, resolve_value host, ?_, ?_, ?_, ?_⟩
  · intro hlook d hnearest
    have hsome := (discover_eq_some_iff hcwd none (fileIn d)).2 ⟨hlook, d, hnearest, rfl⟩
    rw [load_none_value, resolve_none_value, hsome]
    exact ⟨rfl, resolve_value host (fileIn d)⟩
  · intro path config
    constructor
    · intro h
      cases path with
      | some path => exact nomatch resolve_some_source h
      | none =>
        rw [resolve_none_value] at h
        split at h
        · cases h
        · rename_i hnone
          exact ⟨(Prod.mk.inj (Except.ok.inj h)).1.symm, rfl, hbare.1 hnone⟩
        · exact nomatch resolve_some_source h
    · rintro ⟨rfl, rfl, hnone⟩
      rw [resolve_none_value, hbare.2 hnone]
  · constructor
    · intro h
      rw [load_none_value] at h
      split at h
      · cases h
      · rename_i hnone
        exact hbare.1 hnone
      · exact absurd h (load_some_ne_noFile host _)
    · intro hnone
      rw [load_none_value, hbare.2 hnone]
  · intro hnot
    obtain ⟨e, he⟩ := exists_discover_eq_error hcwd hnot
    refine ⟨e, ?_, ?_⟩
    · rw [load_none_value, he]
    · rw [resolve_none_value, he]

/-- A current directory below one that holds a directory with the name of a team file, below one that
holds a team file. -/
def shadowed : Host where
  tree := ⟨[([fileName], .file []), (["a"], .directory), (["a", fileName], .directory),
    (["a", "b"], .directory)]⟩
  cwd := ["a", "b"]

/-- A directory with the name of a team file is passed over. -/
theorem nearest_file_wins_over_directory :
    (∀ n ∈ shadowed.cwd, FileTree.IsName n) ∧ CanLook shadowed none ∧
      shadowed.tree.get? ["a", fileName] = some .directory ∧
      discover shadowed none = .ok (some (fileIn [])) := by
  have hcwd : ∀ n ∈ shadowed.cwd, FileTree.IsName n := by
    intro n hn
    have hn : n = "a" ∨ n = "b" := by simpa [shadowed] using hn
    rcases hn with rfl | rfl <;> exact ⟨by decide, by decide⟩
  have hlook : CanLook shadowed none := ⟨rfl, by decide +kernel⟩
  have hroot : shadowed.tree.HasFile ([] ++ [fileName]) := by
    refine ⟨fun m hm hne => ?_, .file [], rfl, rfl⟩
    rcases List.prefix_concat_iff.1 hm with rfl | hm
    · exact absurd rfl hne
    · rw [List.prefix_nil.1 hm]
      rfl
  refine ⟨hcwd, hlook, rfl, ((nearest_file_wins hcwd).1 none).2.1 _ |>.2 ⟨hlook, [], ?_, rfl⟩⟩
  refine ⟨List.nil_prefix, hroot, fun d hd hfile => ?_⟩
  -- of the two directories below the root, one holds a directory of the name and one nothing
  obtain ⟨-, e, he, hregular⟩ := hfile
  have hd : d ∈ [[], ["a"], ["a", "b"]] := (List.mem_inits d ["a", "b"]).2 hd
  simp only [List.mem_cons, List.not_mem_nil, or_false] at hd
  rcases hd with rfl | rfl | rfl
  · exact Nat.le_refl _
  · obtain rfl : Entry.directory = e := Option.some.inj he
    cases hregular
  · cases he

/-! ### Directories that are too deep -/

/-- A name of 254 letters. -/
def longName : String := String.ofList (List.replicate 254 'd')

/-- The characters of the long name. -/
theorem toList_longName : longName.toList = List.replicate 254 'd' := String.toList_ofList

/-- The long name is a proper one. -/
theorem isName_longName : FileTree.IsName longName := by
  have hother {c : Char} (h : c ∈ longName.toList) : c = 'd' :=
    List.eq_of_mem_replicate (toList_longName ▸ h)
  refine ⟨fun h => ?_, ?_⟩
  · have hdot : '.' ∈ longName.toList := by
      rw [h]
      decide
    exact absurd (hother hdot) (by decide)
  · rw [List.contains_eq_mem]
    exact decide_eq_false fun h => absurd (hother h) (by decide)

/-- Sixteen such names. -/
def longNames : List String := List.replicate 16 longName

/-- A directory whose path has more than 4096 octets, although each of its names is short enough. -/
def deepDirectory : Location := ["srv", "teams"] ++ longNames

/-- A host with a team file in that directory. -/
def deepHost : Host where
  tree := ⟨(deepDirectory ++ [fileName], .file []) ::
    deepDirectory.inits.map fun l => (l, .directory)⟩
  cwd := ["srv", "teams"]

/-- The deep directory holds a team file. -/
theorem hasFile_deepHost : deepHost.tree.HasFile (deepDirectory ++ [fileName]) := by
  have hne : deepDirectory ++ [fileName] ≠ [] := List.concat_ne_nil _ _
  refine ⟨fun m hm hne => ?_, .file [], ?_, rfl⟩
  · rcases List.prefix_concat_iff.1 hm with rfl | hm
    · exact absurd rfl hne
    · have hself : (m == deepDirectory ++ [fileName]) = false := beq_false_of_ne hne
      rw [FileTree.get?, deepHost, List.lookup_cons, hself]
      by_cases hroot : m = []
      · exact if_pos hroot
      · rw [if_neg hroot]
        exact List.lookup_graph (fun _ => Entry.directory) ((List.mem_inits _ _).2 hm)
  · rw [FileTree.get?, if_neg hne, deepHost, List.lookup_cons, beq_self_eq_true]

/-- **In a directory that is too deep nothing is found**, although a path from the current directory
leads there and it holds a team file. -/
theorem not_discovered_of_deep_directory :
    IsNearest deepHost.tree (startOf deepHost (some ⟨"", longNames⟩)) deepDirectory ∧
      discover deepHost (some ⟨"", longNames⟩) =
        .error (.system ⟨.nameTooLong, [(fileIn deepDirectory).toString]⟩) := by
  have hnames : ∀ n ∈ longNames, FileTree.IsName n := by
    intro n hn
    rw [List.eq_of_mem_replicate hn]
    exact isName_longName
  have hcwd : ∀ n ∈ deepHost.cwd, FileTree.IsName n := by
    intro n hn
    have hn : n = "srv" ∨ n = "teams" := by simpa [deepHost] using hn
    rcases hn with rfl | rfl <;> exact ⟨by decide, by decide⟩
  have hstart : startOf deepHost (some ⟨"", longNames⟩) = deepDirectory :=
    FileTree.foldl_step_of_names fun n hn => (hnames n hn).not_dots
  have hlong : deepHost.tree.stat deepHost.cwd (fileIn deepDirectory) = .error .nameTooLong := by
    refine FileTree.stat_tooLong_iff.2 (.inl ?_)
    have hsize : longName.utf8ByteSize = 254 := by decide +kernel
    have hfile : fileName.utf8ByteSize = 9 := by decide
    rw [fileIn, FileTree.size_pathOf (List.concat_ne_nil _ _)]
    have hsrv : "srv".utf8ByteSize = 3 := by decide
    have hteams : "teams".utf8ByteSize = 5 := by decide
    simp [deepDirectory, longNames, hsize, hfile, hsrv, hteams, FileTree.pathLimit]
  have hnul : Path.holdsNul ⟨"", longNames⟩ = false := FileTree.holdsNul_of_names hnames
  rw [← hstart] at hlong
  have hsearch := @discover_of_tooLong deepHost hcwd (some ⟨"", longNames⟩) hnul hlong
  rw [hstart] at hsearch ⊢
  exact ⟨.self hasFile_deepHost, hsearch⟩

end TeamFile
end LogBalancer
