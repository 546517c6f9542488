/-
# Team files that differ in nothing that matters

A file that can be read as a mapping loads as the mapping is read (`load_of_standsFor`).  So two files
whose mappings are alike load alike: as the same configuration, or with the same refusal, faults and
all (`load_known_keys`).
-/

import LogBalancer.Proofs.Record.KnownKeys
import LogBalancer.Proofs.TeamFile.Loading
import LogBalancer.Proofs.Text.Utf8
import LogBalancer.Proofs.Yaml.Steps
import Mathlib.Data.List.Nodup

namespace LogBalancer
namespace TeamFile

open Record (Alike Entries)

/-- The outcome of loading a file that is read as a configuration. -/
def outcome : Record.Checked Config → Except LoadError Config
  | .accepted c => .ok c
  | .refused faults => .error (.config (.invalidRecord faults))

/-- The file that is loaded: the one that is asked for, or else the nearest one. -/
def Loads (host : Host) (asked : Option Path) (path : Path) : Prop :=
  asked = some path ∨ asked = none ∧ discover host = .ok (some path)

/-- The file at a path can be read, decoded and parsed, and what it holds counts as the mapping with
these entries. -/
structure StandsFor (host : Host) (path : Path) (es : Entries) : Prop where
  isFile : host.tree.isFile host.cwd path = .ok true
  holds : ∃ octets text v, host.tree.octetsAt host.cwd path = .ok octets ∧
    Text.decodeFrom 0 octets = .ok text ∧ parse host.depth host.environment text = .ok v ∧
    asMapping path v = .ok (.mapping es)

/-- What is loaded is the file that is to be loaded. -/
theorem load_of_loads {host : Host} {asked : Option Path} {path : Path} (h : Loads host asked path) :
    (load host asked).run.value = (loadFrom host path).run.value := by
  rcases h with rfl | ⟨rfl, hdiscover⟩
  · exact load_value host path
  · have hfound : discovered host = pure (some path) := by
      rw [discovered, hdiscover]
    show (discovered host >>= fun found => _).run.value = _
    rw [hfound]
    rfl

/-- **A file loads as what it stands for is read.** -/
theorem load_of_standsFor {host : Host} {asked : Option Path} {path : Path} {es : Entries}
    (hloads : Loads host asked path) (h : StandsFor host path es) :
    (load host asked).run.value = outcome (Record.config (.mapping es)) := by
  obtain ⟨hfile, octets, text, v, hoctets, htext, hv, hmapping⟩ := h
  rw [load_of_loads hloads, loadFrom_value, hfile]
  simp only [hoctets, decode, htext, hv, hmapping, Except.mapError, bind, Except.bind]
  cases Record.config (.mapping es) <;> rfl

/-- **Only the known keys of a team file matter.**  Mappings that are alike are read as the same
configuration, or refused with the same faults in the same order.  Two files at one path that stand
for such mappings, on any hosts, load as the same configuration or with the same error. -/
theorem load_known_keys {es es' : Entries} (h : Alike .config es es') :
    Record.config (.mapping es) = Record.config (.mapping es') ∧
    ∀ host host' asked asked' path, Loads host asked path → Loads host' asked' path →
      StandsFor host path es → StandsFor host' path es' →
        (load host asked).run.value = (load host' asked').run.value ∧
        ((∃ c, (load host asked).run.value = .ok c) ∨
          ∃ e, (load host asked).run.value = .error (.config e)) := by
  have hconfig : Record.config (.mapping es) = Record.config (.mapping es') := h.read_eq
  refine ⟨hconfig, fun host host' asked asked' path hloads hloads' hes hes' => ?_⟩
  rw [load_of_standsFor hloads hes, load_of_standsFor hloads' hes', hconfig]
  refine ⟨rfl, ?_⟩
  cases Record.config (.mapping es') with
  | accepted c => exact .inl ⟨c, rfl⟩
  | refused faults => exact .inr ⟨_, rfl⟩

/-! ### Two files -/

section TwoFiles

open Yaml (Graph Node Tag Token)

deriving instance DecidableEq for Yaml.Graph

/-- The path of a file in the current directory. -/
def fileHere : Path := ⟨"", [fileName]⟩

/-- A host with a text as its team file. -/
def hostWith (s : String) : Host := { tree := ⟨[([fileName], .file (Text.encode s))]⟩ }

/-- A text stands for the entries to which its stages lead, from its characters to its mapping. -/
theorem standsFor_of_stages {s : String} {tokens : List Token} {g : Graph} {v : Value} {es : Entries}
    (hkept : Placeholder.expandChars [] (Text.unifyLineEnds s.toList) = s.toList)
    (hallowed : s.toList.all Yaml.isAllowed = true) (htokens : Token.ofText s.toList = (tokens, none))
    (hnodes : Graph.ofTokens Yaml.usualDepth tokens none = .ok (some g)) (hvalue : g.toValue = .ok v)
    (hmapping : asMapping fileHere v = .ok (.mapping es)) : StandsFor (hostWith s) fileHere es where
  isFile := rfl
  holds := by
    refine ⟨Text.encode s, s.toList, v, rfl, Text.decodeFrom_flatMap_encodeChar _ 0, ?_, hmapping⟩
    show Yaml.read Yaml.usualDepth (Placeholder.expandChars [] (Text.unifyLineEnds s.toList)) = _
    rw [hkept]
    exact Yaml.read_of_stages hallowed htokens hnodes hvalue

/-- A scalar. -/
def leaf (tag : Tag) (s : String) : Node := ⟨tag, .scalar s.toList⟩

/-- A file with one team. -/
def plainText : String := "- {team: a, isTrueHealthCheck: true, port: 1}"

def plainTokens : List Token :=
  [.blockSequenceStart, .blockEntry, .flowMappingStart, .key, .scalar "team" true, .value,
    .scalar "a" true, .flowEntry, .key, .scalar "isTrueHealthCheck" true, .value,
    .scalar "true" true, .flowEntry, .key, .scalar "port" true, .value, .scalar "1" true,
    .flowMappingEnd, .blockEnd, .streamEnd]

def plainGraph : Graph :=
  ⟨#[⟨.list, .sequence [1]⟩, ⟨.mapping, .mapping [(2, 3), (4, 5), (6, 7)]⟩, leaf .text "team",
    leaf .text "a", leaf .text "isTrueHealthCheck", leaf .flag "true", leaf .text "port",
    leaf .int "1"], 0, Yaml.usualDepth⟩

def plainTeam : Entries :=
  [(.text "team", .text "a"), (.text "isTrueHealthCheck", .flag true), (.text "port", .int 1)]

/-- A file with the same team, its port first, with a second flag and a key that no team has. -/
def looseText : String :=
  "- {is_true_health_check: 3, port: 1, x: 2, team: a, isTrueHealthCheck: true}"

def looseTokens : List Token :=
  [.blockSequenceStart, .blockEntry, .flowMappingStart, .key, .scalar "is_true_health_check" true,
    .value, .scalar "3" true, .flowEntry, .key, .scalar "port" true, .value, .scalar "1" true,
    .flowEntry, .key, .scalar "x" true, .value, .scalar "2" true, .flowEntry, .key,
    .scalar "team" true, .value, .scalar "a" true, .flowEntry, .key,
    .scalar "isTrueHealthCheck" true, .value, .scalar "true" true, .flowMappingEnd, .blockEnd,
    .streamEnd]

def looseGraph : Graph :=
  ⟨#[⟨.list, .sequence [1]⟩, ⟨.mapping, .mapping [(2, 3), (4, 5), (6, 7), (8, 9), (10, 11)]⟩,
    leaf .text "is_true_health_check", leaf .int "3", leaf .text "port", leaf .int "1",
    leaf .text "x", leaf .int "2", leaf .text "team", leaf .text "a",
    leaf .text "isTrueHealthCheck", leaf .flag "true"], 0, Yaml.usualDepth⟩

def looseTeam : Entries :=
  [(.text "is_true_health_check", .int 3), (.text "port", .int 1), (.text "x", .int 2),
    (.text "team", .text "a"), (.text "isTrueHealthCheck", .flag true)]

/-- The plain text stands for the plain team. -/
theorem standsFor_plainText :
    StandsFor (hostWith plainText) fileHere [(.text "teams", .list [.mapping plainTeam])] := by
  have hvalue : plainGraph.toValue = .ok (.list [.mapping plainTeam]) := by rfl
  exact standsFor_of_stages (by decide +kernel) (by decide +kernel)
    (show Token.ofText _ = (plainTokens, none) by decide +kernel)
    (show _ = Except.ok (some plainGraph) by decide +kernel) hvalue rfl

/-- The loose text stands for the loose team. -/
theorem standsFor_looseText :
    StandsFor (hostWith looseText) fileHere [(.text "teams", .list [.mapping looseTeam])] := by
  have hvalue : looseGraph.toValue = .ok (.list [.mapping looseTeam]) := by rfl
  exact standsFor_of_stages (by decide +kernel) (by decide +kernel)
    (show Token.ofText _ = (looseTokens, none) by decide +kernel)
    (show _ = Except.ok (some looseGraph) by decide +kernel) hvalue rfl

/-- The two teams differ in nothing that matters. -/
theorem alike_plainTeam_looseTeam : Alike .team plainTeam looseTeam := by
  have hperm : (plainTeam.take 2 ++ plainTeam.drop 2).Perm (plainTeam.drop 2 ++ plainTeam.take 2) :=
    List.perm_append_comm
  have hkeys : (["team", "isTrueHealthCheck", "port"].map Value.text).Nodup :=
    List.Nodup.map (fun _ _ => Value.text.inj) (by decide)
  have hrest : Alike .team plainTeam looseTeam.tail := .of_known_perm hperm hkeys
  refine .trans hrest (.symm (.shadowed ?_ (.int 3)))
  exact Option.some_ne_none (Value.flag true)

/-- Two files with one team, in two orders and with a key and a flag that do not matter. -/
theorem load_known_keys_of_two_files :
    (load (hostWith plainText) (some fileHere)).run.value =
      (load (hostWith looseText) (some fileHere)).run.value := by
  have hitems (es : Entries) :
      (Value.list [.mapping es]).items? = some ([] ++ Value.mapping es :: []) := rfl
  have halike : Alike .config [(.text "teams", .list [.mapping plainTeam])]
      [(.text "teams", .list [.mapping looseTeam])] :=
    .item (hitems _) (hitems _) alike_plainTeam_looseTeam []
  obtain ⟨-, hload⟩ := load_known_keys halike
  exact (hload _ _ _ _ _ (.inl rfl) (.inl rfl) standsFor_plainText standsFor_looseText).1

end TwoFiles

end TeamFile
end LogBalancer
