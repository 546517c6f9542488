/-
# Set-ups of a journal

Setting a journal up keeps nothing of an earlier set-up (`setUp_setUp`), so of several set-ups the last
one stays (`foldl_setUp`).  It leaves one sink, and the level that the last name means (`IsSetUp`).  A
note that is taken changes neither and adds its line, if its level is not below that of the journal
(`IsSetUp.take_eq`).  Notes are logged up to the first that cannot be made, and those before it are
taken (`logAll_eq`).

So a run of notes writes the line of each of them once, in order, as if the last set-up had been the
only one (`last_setUp_wins`).
-/

import LogBalancer.Journal
import LogBalancer.Proofs.Members

namespace LogBalancer

/-! ### Names of levels -/

namespace Level

/-- The level that a name means, in any case: the one that has the name, or `warning` if there is
none. -/
def Means (name : String) (level : Int) : Prop :=
  (name.map upperLetter, level) ∈ names ∨
    name.map upperLetter ∉ names.map Prod.fst ∧ level = warning

/-- No name has two levels. -/
theorem names_nodup : (names.map Prod.fst).Nodup := by decide

/-- **A name means one level.** -/
theorem means_iff {name : String} {level : Int} : Means name level ↔ level = ofName name := by
  unfold Means ofName
  by_cases h : name.map upperLetter ∈ names.map Prod.fst
  · obtain ⟨⟨title, known⟩, hknown, htitle⟩ := List.mem_map.1 h
    rw [← htitle, lookup_of_mem names_nodup hknown, Option.getD_some]
    constructor
    · rintro (hlevel | ⟨hnot, -⟩)
      · have := (lookup_of_mem names_nodup hknown).symm.trans (lookup_of_mem names_nodup hlevel)
        exact (Option.some.inj this).symm
      · exact absurd (List.mem_map_of_mem hknown) hnot
    · rintro rfl
      exact .inl hknown
  · rw [lookup_eq_none_iff_not_mem.2 h, Option.getD_none]
    constructor
    · rintro (hlevel | ⟨-, hlevel⟩)
      · exact absurd (List.mem_map_of_mem hlevel) h
      · exact hlevel
    · exact fun hlevel => .inr ⟨h, hlevel⟩

end Level

/-! ### Lines -/

/-- The source that a line names. -/
def Note.origin (note : Note) : String := if note.source.isEmpty then "root" else note.source

/-- The line of a note in a journal of some level. -/
def Note.line (level : Int) (note : Note) : String :=
  if level ≤ Level.info then
    Level.title note.level ++ " " ++ note.origin ++ ": " ++ note.text ++ "\n"
  else note.text ++ "\n"

namespace Journal

/-- A journal that was set up last by a name: its level is the one that the name means, and it has one
sink, of that level. -/
structure IsSetUp (journal : Journal) (name : String) : Prop where
  level : Level.Means name journal.level
  sinks : journal.sinks = [sinkFor journal.level]

/-! ### Set-ups -/

/-- Setting a journal up by a name does so. -/
theorem isSetUp_setUp (journal : Journal) (name : String) : (journal.setUp name).IsSetUp name :=
  ⟨Level.means_iff.2 rfl, rfl⟩

/-- Setting a journal up keeps nothing of an earlier set-up. -/
theorem setUp_setUp (journal : Journal) (name name' : String) :
    (journal.setUp name).setUp name' = journal.setUp name' := rfl

/-- **The last set-up stays**, by induction on the set-ups. -/
theorem foldl_setUp (journal : Journal) {names : List String} (h : names ≠ []) :
    names.foldl setUp journal = journal.setUp (names.getLast h) := by
  induction names generalizing journal with
  | nil => exact absurd rfl h
  | cons name names ih =>
    cases names with
    | nil => rfl
    | cons next names =>
      have hnext : next :: names ≠ [] := List.cons_ne_nil _ _
      rw [List.foldl_cons, ih _ hnext, setUp_setUp, List.getLast_cons hnext]

/-! ### Notes -/

/-- **What a note adds**: its line, once, if its level is not below that of the journal. -/
theorem IsSetUp.blocks_eq {journal : Journal} {name : String} (h : journal.IsSetUp name) {note : Note}
    (hnote : 0 < note.level) :
    journal.blocks note = if journal.level ≤ note.level then note.line journal.level else "" := by
  have hpasses : journal.passes note.level = decide (journal.level ≤ note.level) := by
    rw [passes, decide_eq_true hnote, Bool.true_and]
  have hblock : ((sinkFor journal.level).block note).map (· ++ "\n") =
      some (note.line journal.level) := by
    rw [sinkFor, Note.line]
    split
    · rfl
    · rfl
  rw [blocks, hpasses, h.sinks]
  simp [hblock]

/-- A note that is taken changes nothing but what is written, where it adds its line if its level is
not below that of the journal. -/
theorem IsSetUp.take_eq {journal : Journal} {name : String} (h : journal.IsSetUp name) {note : Note}
    (hnote : 0 < note.level) :
    journal.take note = { journal with
      written := journal.written ++
        if journal.level ≤ note.level then note.line journal.level else "" } := by
  rw [take, h.blocks_eq hnote]

/-- What has been written does not matter to how a journal is set up. -/
theorem IsSetUp.with_written {journal : Journal} {name : String} (h : journal.IsSetUp name)
    (text : String) : IsSetUp { journal with written := text } name :=
  ⟨h.level, h.sinks⟩

/-- **What notes add**: the lines of those whose level is not below that of the journal, by induction
on the notes. -/
theorem IsSetUp.takeAll_eq {journal : Journal} {name : String} (h : journal.IsSetUp name)
    {notes : List Note} (hnotes : ∀ note ∈ notes, 0 < note.level) :
    journal.takeAll notes = { journal with
      written := journal.written ++ String.join
        ((notes.filter (journal.level ≤ ·.level)).map (Note.line journal.level)) } := by
  induction notes generalizing journal with
  | nil =>
    rw [List.filter_nil, List.map_nil, String.join_nil, String.append_empty]
    rfl
  | cons note notes ih =>
    obtain ⟨hnote, hnotes⟩ := List.forall_mem_cons.1 hnotes
    rw [takeAll, List.foldl_cons, ← takeAll, h.take_eq hnote, ih (h.with_written _) hnotes]
    by_cases hpasses : journal.level ≤ note.level
    · simp [hpasses, String.append_assoc]
    · simp [hpasses]

/-! ### Logging -/

/-- **Notes are taken up to the first that cannot be made**, and logging them fails if there is one. -/
theorem logAll_eq (journal : Journal) (notes : List Note) :
    journal.logAll notes = (journal.takeAll (notes.takeWhile journal.canLog),
      if notes.all journal.canLog then .ok () else .error ⟨⟩) := by
  induction notes generalizing journal with
  | nil => rfl
  | cons note notes ih =>
    rw [logAll, log]
    by_cases h : journal.canLog note = true
    · rw [if_pos h, List.takeWhile_cons_of_pos h, List.all_cons, h, Bool.true_and]
      exact ih (journal.take note)
    · rw [if_neg h, List.takeWhile_cons_of_neg h, List.all_cons, Bool.eq_false_iff.2 h]
      rfl

/-! ### Runs after set-ups -/

/-- A journal of a level with one sink, on which the lines of those of some notes that are not below
this level stand after a text: each line once, in order, and nothing else. -/
structure Shows (journal : Journal) (level : Int) (before : String) (notes : List Note) : Prop where
  level_eq : journal.level = level
  sinks_length : journal.sinks.length = 1
  written_eq : journal.written =
    before ++ String.join ((notes.filter (level ≤ ·.level)).map (Note.line level))

/-- A journal that was set up shows the notes that it takes. -/
theorem IsSetUp.shows {journal : Journal} {name : String} (h : journal.IsSetUp name)
    {notes : List Note} (hnotes : ∀ note ∈ notes, 0 < note.level) :
    (journal.takeAll notes).Shows journal.level journal.written notes := by
  rw [h.takeAll_eq hnotes]
  exact ⟨rfl, by rw [h.sinks]; rfl, rfl⟩

/-- **The last set-up of a journal wins, and no line is doubled.**  After any set-ups of a journal, of
which at least one was made, the journal has one sink and the level that the last name means.  Any notes
of positive levels that it takes then change neither, and the line of each one that is not below this
level is written once, in order, and nothing else.  Logging does the same up to the first note that
cannot be made, and fails exactly if there is one.  The set-ups before the last one do not matter. -/
theorem last_setUp_wins (journal : Journal) {names : List String} (hne : names ≠ [])
    {notes : List Note} (hnotes : ∀ note ∈ notes, 0 < note.level) :
    ∃ level, Level.Means (names.getLast hne) level ∧
      (names.foldl setUp journal).level = level ∧
      (names.foldl setUp journal).sinks.length = 1 ∧
      ((names.foldl setUp journal).takeAll notes).Shows level journal.written notes ∧
      (names.foldl setUp journal).takeAll notes =
        (journal.setUp (names.getLast hne)).takeAll notes ∧
      ((names.foldl setUp journal).logAll notes).1.Shows level journal.written
        (notes.takeWhile (names.foldl setUp journal).canLog) ∧
      (((names.foldl setUp journal).logAll notes).2 = .ok () ↔
        ∀ note ∈ notes, (names.foldl setUp journal).canLog note = true) ∧
      (names.foldl setUp journal).logAll notes =
        (journal.setUp (names.getLast hne)).logAll notes := by
  have hlast := isSetUp_setUp journal (names.getLast hne)
  have hmade : ∀ note ∈ notes.takeWhile (journal.setUp (names.getLast hne)).canLog,
      0 < note.level := fun note h => hnotes note ((List.takeWhile_subset _) h)
  rw [foldl_setUp journal hne, logAll_eq]
  refine ⟨_, hlast.level, rfl, rfl, hlast.shows hnotes, rfl, hlast.shows hmade, ?_, rfl⟩
  rw [← List.all_eq_true]
  cases notes.all (journal.setUp (names.getLast hne)).canLog with
  | true => exact ⟨fun _ => rfl, fun _ => rfl⟩
  | false => exact ⟨fun h => (by cases h), fun h => (by cases h)⟩

/-- Neither two sinks that were there before nor a name that is not known matter. -/
theorem last_setUp_wins_over_two_sinks :
    ["chatty", "Info"] ≠ [] ∧
      (∀ note ∈ [Note.mk 10 "a" "hidden", Note.mk 20 "a" "shown", Note.mk 30 "" "bare"],
        0 < note.level) ∧
      ((["chatty", "Info"].foldl setUp { sinks := [.plain, .detailed] }).takeAll
        [⟨10, "a", "hidden"⟩, ⟨20, "a", "shown"⟩, ⟨30, "", "bare"⟩]).written =
          "INFO a: shown\nWARNING root: bare\n" ∧
      ((["chatty", "Info"].foldl setUp { sinks := [.plain, .detailed] }).logAll
        [⟨10, "a", "hidden"⟩, ⟨20, "a", "shown"⟩, ⟨30, "", "bare"⟩]).1.written =
          "INFO a: shown\nWARNING root: bare\n" := by
  have hne : ["chatty", "Info"] ≠ [] := List.cons_ne_nil _ _
  have hnotes : ∀ note ∈ [Note.mk 10 "a" "hidden", Note.mk 20 "a" "shown", Note.mk 30 "" "bare"],
      0 < note.level := by decide
  have hname : Level.ofName "Info" = Level.info := by decide +kernel
  obtain ⟨level, hmeans, hlevel, -, htaken, -, hlogged, -, -⟩ :=
    last_setUp_wins { sinks := [.plain, .detailed] } hne hnotes
  obtain rfl := (Level.means_iff.1 hmeans).trans hname
  exact ⟨hne, hnotes, htaken.written_eq.trans (by decide), hlogged.written_eq.trans (by decide +kernel)⟩

end Journal
end LogBalancer
