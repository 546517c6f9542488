/-
# Records that are written back

A record is read from many values: its port from a text, its flag from a word or from null, its
items from a sequence of any kind, and what is missing from its default.  It is written as one value,
with the flag under either of its keys, and that value is read as the same record
(`Model.read_dump`).  So reading brings a value into a form that it does not change again
(`Model.dump_reads_back`).
-/

import LogBalancer.Proofs.Record.Config
import LogBalancer.Record.Model

namespace LogBalancer
namespace Record

/-! ### Each record -/

/-- A sequence of any kind is read back if its items are. -/
theorem sequence_of_items {α : Type} {read : Reader α} {dump : α → Value}
    (h : ∀ a, read (dump a) = .accepted a) (otherwise : Cause) {v : Value} {xs : List α}
    (hv : v.items? = some (xs.map dump)) : sequence otherwise read v = .accepted xs := by
  refine (sequence_eq_accepted_iff otherwise read).2 ⟨_, hv, ?_⟩
  rw [List.forall₂_map_left_iff, List.forall₂_same]
  exact fun a _ => h a

/-- A text is read as itself. -/
theorem text_text (s : String) : text (.text s) = .accepted s := rfl

/-- A team is read back, with either key of its flag. -/
theorem team_dumpTeam (byAlias : Bool) (t : Team) : team (dumpTeam byAlias t) = .accepted t := by
  cases byAlias <;> rfl

/-- The settings of the interface are read back. -/
theorem api_dumpApi (a : Api) : api (dumpApi a) = .accepted a := rfl

/-- The settings of the discovery are read back, by induction on the hosts. -/
theorem discovery_dumpDiscovery (d : Discovery) : discovery (dumpDiscovery d) = .accepted d := by
  have hhosts : sequence .notTuple text (.list (d.hosts.map .text)) = .accepted d.hosts :=
    sequence_of_items text_text .notTuple rfl
  show ((Checked.accepted d.kind).zip
    ((sequence .notTuple text (.list (d.hosts.map .text))).under (.key "hosts"))).map _ = _
  rw [hhosts]
  rfl

/-- The settings of the health check are read back. -/
theorem healthcheck_dumpHealthcheck (h : Healthcheck) :
    healthcheck (dumpHealthcheck h) = .accepted h := rfl

/-- **A configuration is read back from the mapping that it is written as.** -/
theorem config_dumpConfig (byAlias : Bool) (c : Config) :
    config (dumpConfig byAlias c) = .accepted c :=
  config_eq_accepted_iff.2
    { api := api_dumpApi c.api
      discovery := discovery_dumpDiscovery c.discovery
      healthcheck := healthcheck_dumpHealthcheck c.healthcheck
      teams := isPart_teams_iff.1 (sequence_of_items (team_dumpTeam byAlias) .notList rfl) }

/-- A configuration file is read back. -/
theorem configFile_dumpConfigFile (f : ConfigFile) :
    configFile (dumpConfigFile f) = .accepted f := rfl

/-! ### Every kind -/

namespace Model

/-- The records of a kind. -/
def Instance : Model → Type
  | .team => Team
  | .api => Api
  | .discovery => Discovery
  | .healthcheck => Healthcheck
  | .config => Config
  | .file => ConfigFile

/-- Reads a record of a kind. -/
def read : (m : Model) → Reader m.Instance
  | .team => Record.team
  | .api => Record.api
  | .discovery => Record.discovery
  | .healthcheck => Record.healthcheck
  | .config => Record.config
  | .file => configFile

/-- A record of a kind as a mapping. -/
def dump (byAlias : Bool) : (m : Model) → m.Instance → Value
  | .team => dumpTeam byAlias
  | .api => dumpApi
  | .discovery => dumpDiscovery
  | .healthcheck => dumpHealthcheck
  | .config => dumpConfig byAlias
  | .file => dumpConfigFile

/-- Normalizing a value reads it and writes what was read. -/
theorem normalize_eq (m : Model) (byAlias : Bool) (v : Value) :
    m.normalize byAlias v = (m.read v).map (m.dump byAlias) := by
  cases m <;> rfl

/-- **What is written for a record is read as the record**, whatever it holds. -/
theorem read_dump (m : Model) (byAlias : Bool) (r : m.Instance) :
    m.read (m.dump byAlias r) = .accepted r := by
  cases m with
  | team => exact team_dumpTeam byAlias r
  | api => exact api_dumpApi r
  | discovery => exact discovery_dumpDiscovery r
  | healthcheck => exact healthcheck_dumpHealthcheck r
  | config => exact config_dumpConfig byAlias r
  | file => exact configFile_dumpConfigFile r

/-- What is written for an accepted value is already in the form that reading brings a value into,
whichever keys it is written with. -/
theorem normalize_dump (m : Model) (byAlias other : Bool) {v : Value} {r : m.Instance}
    (h : m.read v = .accepted r) : m.normalize other (m.dump byAlias r) = m.normalize other v := by
  rw [normalize_eq, normalize_eq, read_dump, h]

/-- **A record that is written is read back as itself.**  Let a value of any form be accepted.  What
is written for the record, under either key of its flags, is accepted as the same record.  It is the
normal form of the value, and bringing it into a normal form again gives what the value itself gives:
the first reading settles every port, flag and sequence. -/
theorem dump_reads_back (m : Model) (byAlias : Bool) {v : Value} {r : m.Instance}
    (h : m.read v = .accepted r) :
    m.read (m.dump byAlias r) = .accepted r ∧
    m.normalize byAlias v = .accepted (m.dump byAlias r) ∧
    ∀ other, m.normalize other (m.dump byAlias r) = m.normalize other v := by
  refine ⟨read_dump m byAlias r, ?_, fun other => normalize_dump m byAlias other h⟩
  rw [normalize_eq, h]
  rfl

/-- A mapping in none of the forms that are written: keys in another order and one that is no field,
octets for texts, a word, null and a number for flags, a pair for hosts, and a port with white space,
a sign, an underscore and a fraction. -/
def looseMapping : Value :=
  .mapping
    [(.int 7, .list []),
     (.text "teams", .list
       [.mapping
         [(.text "is_true_health_check", .text "no flag"), (.text "team", .bytes [195, 169]),
          (.text "isTrueHealthCheck", .null), (.text "port", .text " +0_9.00\n")],
        .mapping [(.text "port", .bytes [45, 49]), (.text "team", .text "a"),
          (.text "is_true_health_check", .int 1)]]),
     (.text "discovery", .mapping [(.text "hosts", .pair (.text "h") (.bytes [104]))]),
     (.text "api", .mapping [(.text "enabled", .text "Off"), (.text "more", .null)])]

/-- The configuration that `looseMapping` is read as. -/
def looseConfig : Config where
  api := { enabled := false }
  discovery := { hosts := ["h", "h"] }
  teams := [⟨9, "é", false⟩, ⟨-1, "a", true⟩]

/-- A configuration that was read from loose spellings is written in plain ones, and read back from
these. -/
theorem dump_reads_back_looseMapping :
    Model.config.read looseMapping = .accepted looseConfig ∧
    Model.config.read (Model.config.dump true looseConfig) = .accepted looseConfig := by
  have hspelling : flagSpellings.lookup ("Off".map lowerLetter) = some false := by decide +kernel
  have hflag : flag (.text "Off") = .accepted false := by
    show flagText "Off" = _
    rw [flagText, hspelling]
  have hloose : Model.config.read looseMapping = .accepted looseConfig :=
    config_eq_accepted_iff.2
      { api := by
          show (((flag (.text "Off")).under (.key "enabled")).zip (.accepted ":9290")).map _ = _
          rw [hflag]
          rfl
        discovery := rfl
        healthcheck := rfl
        teams := ⟨_, rfl, .cons rfl (.cons rfl .nil)⟩ }
  exact ⟨hloose, (dump_reads_back .config true hloose).1⟩

end Model
end Record
end LogBalancer
