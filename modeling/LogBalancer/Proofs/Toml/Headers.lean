/-
# The headers of a written TOML text

Every team has four sections, and the header of each is made by putting the team's name, as it is,
between fixed texts.  Names that differ do not yet give headers that differ: a dot in a name looks
like the dot between a name and a table.

`headers_nodup_iff` says which valid team lists have four different headers for each team: those in
which no name is another one followed by a dot and the name of a table.  Validity alone does not
rule that out (`headers_not_nodup_of_valid`).
-/

import Mathlib.Data.List.Nodup
import LogBalancer.Proofs.Document.Writable
import LogBalancer.Proofs.Problem.Validity
import LogBalancer.Proofs.Toml.Sections

namespace LogBalancer
namespace Toml

/-! ### Sections are headers and bodies -/

/-- The line of a header. -/
def header (path : String) : String := "[" ++ path ++ "]"

/-- What follows the header of a section, each line after a line end. -/
def body (margin : String) (fields : List Field) : String :=
  String.ofList (fields.flatMap fun f => '\n' :: (field margin f).toList)

/-- A block is its header and its body. -/
theorem block_eq_header_append_body (margin path : String) (fields : List Field) :
    block margin path fields = header path ++ body margin fields := by
  rw [← String.toList_inj, block_toList]
  simp only [header, body, String.toList_append, String.toList_ofList, List.append_assoc]
  rfl

/-- The headers and bodies of a server's sections. -/
def serverSections (s : Server) : List (String × String) :=
  (header ("servers." ++ s.name), body serverMargin s.fields) ::
    s.tables.map fun t => (header ("servers." ++ s.name ++ "." ++ t.1), body serverMargin t.2)

/-- The sections of a server are their headers with their bodies. -/
theorem sections_eq_map_serverSections (s : Server) :
    sections s = (serverSections s).map fun p => p.1 ++ p.2 := by
  simp only [sections, serverSections, block_eq_header_append_body, List.map_cons, List.map_map]
  rfl

/-- Two lists of parts are put together with one separator between them. -/
theorem intercalate_append {separator : String} {xs ys : List String} (hxs : xs ≠ [])
    (hys : ys ≠ []) : separator.intercalate (xs ++ ys) =
      separator.intercalate xs ++ separator ++ separator.intercalate ys := by
  induction xs with
  | nil => contradiction
  | cons x xs ih =>
    cases xs with
    | nil =>
      cases ys with
      | nil => contradiction
      | cons y ys =>
        rw [List.singleton_append, String.intercalate_cons_cons, String.intercalate_singleton]
    | cons x' xs =>
      have htail := ih (List.cons_ne_nil _ _)
      rw [List.cons_append] at htail
      rw [List.cons_append, List.cons_append, String.intercalate_cons_cons, htail,
        String.intercalate_cons_cons]
      simp only [String.append_assoc]

/-- Blank lines stand between all sections in the same way. -/
theorem intercalate_serverBlock {servers : List Server} (hne : servers ≠ []) :
    separator.intercalate (servers.map serverBlock) =
      separator.intercalate (servers.flatMap sections) := by
  induction servers with
  | nil => contradiction
  | cons s ss ih =>
    cases ss with
    | nil =>
      rw [List.map_singleton, String.intercalate_singleton, List.flatMap_singleton]
      rfl
    | cons s' ss =>
      have hhead : sections s ≠ [] := List.cons_ne_nil _ _
      have htail : (s' :: ss).flatMap sections ≠ [] := List.cons_ne_nil _ _
      rw [List.flatMap_cons, intercalate_append hhead htail, ← ih (List.cons_ne_nil _ _),
        List.map_cons, List.map_cons, String.intercalate_cons_cons]
      rfl

/-! ### Headers of teams -/

/-- What stands between the name of a team and the closing bracket in the headers of its inner
tables. -/
def tableSuffixes : List String := [".udp", ".discovery", ".healthcheck"]

/-- The headers of the team with a name. -/
def teamHeaders (name : String) : List String :=
  ("" :: tableSuffixes).map fun suffix => header ("servers." ++ name ++ suffix)

/-- All headers of teams, in order. -/
def headers (teams : List Team) : List String := teams.flatMap fun t => teamHeaders t.name

/-- **Every team has four headers.** -/
theorem headers_length (teams : List Team) : (headers teams).length = 4 * teams.length := by
  induction teams with
  | nil => rfl
  | cons t ts ih =>
    rw [headers, List.flatMap_cons, List.length_append, List.length_cons]
    rw [headers] at ih
    rw [ih]
    show 4 + 4 * ts.length = 4 * (ts.length + 1)
    omega

/-- The headers of a server depend on its name only. -/
theorem serverSections_headers (settings : Settings) (t : Team) (port : String) :
    (serverSections (Server.of settings t port)).map Prod.fst = teamHeaders t.name := by
  simp only [serverSections, Server.of, teamHeaders, tableSuffixes, List.map_cons, List.map_nil,
    String.append_empty, String.append_assoc]
  rfl

/-- A body starts on a line of its own. -/
theorem serverSections_bodies (settings : Settings) (t : Team) (port : String) :
    ∀ p ∈ serverSections (Server.of settings t port), p.2.toList.head? = some '\n' := by
  have hbody : ∀ (f : Field) fs, (body serverMargin (f :: fs)).toList.head? = some '\n' := by
    intro f fs
    rw [body, String.toList_ofList]
    rfl
  simp only [serverSections, Server.of, List.map_cons, List.map_nil, List.forall_mem_cons, hbody,
    List.not_mem_nil, false_imp_iff, implies_true, and_true]

/-- **The text of teams is the preamble and, for each header, a section that starts with it.** -/
theorem renderToml_eq_sections (settings : Settings) {teams : List Team}
    (h : ∀ t ∈ teams, Decimal.isWritable t.port = true) :
    ∃ parts : List (String × String), parts.map Prod.fst = headers teams ∧
      (∀ p ∈ parts, p.2.toList.head? = some '\n') ∧
      renderToml settings teams = .ok (preamble settings.api.fields ++
        if teams = [] then ""
        else "\n" ++ separator.intercalate (parts.map fun p => p.1 ++ p.2) ++ "\n") := by
  refine ⟨teams.flatMap fun t => serverSections (Server.of settings t (Decimal.numeral t.port)),
    ?_, ?_, ?_⟩
  · rw [List.map_flatMap, headers]
    simp only [serverSections_headers]
  · intro p hp
    obtain ⟨t, -, ht⟩ := List.mem_flatMap.1 hp
    exact serverSections_bodies settings t _ p ht
  · rw [renderToml, Document.ofTeams_eq_ok settings h]
    refine congrArg Except.ok ?_
    unfold render
    split
    · rename_i hnil
      rw [if_pos (List.map_eq_nil_iff.1 hnil), String.append_empty]
    · rename_i hne
      have hteams : teams ≠ [] := fun hnil => hne (List.map_eq_nil_iff.2 hnil)
      have hsections : (teams.map fun t => Server.of settings t (Decimal.numeral t.port)).flatMap
          sections = (teams.flatMap fun t =>
            serverSections (Server.of settings t (Decimal.numeral t.port))).map
              fun p => p.1 ++ p.2 := by
        rw [List.flatMap_map, List.map_flatMap]
        simp only [sections_eq_map_serverSections]
      rw [intercalate_serverBlock hne, if_neg hteams, hsections]
      simp only [String.append_assoc]

/-! ### Equal headers -/

/-- The section of the team `t` is that of a table of the team `s`. -/
def Clash (s t : String) : Prop := ∃ suffix ∈ tableSuffixes, t = s ++ suffix

/-- Headers are equal exactly if their paths are. -/
theorem header_inj {p q : String} : header p = header q ↔ p = q := by
  refine ⟨fun h => ?_, fun h => h ▸ rfl⟩
  have hchars := String.toList_inj.2 h
  simp only [header, String.toList_append, List.append_assoc] at hchars
  exact String.toList_inj.1 (List.append_cancel_right (List.append_cancel_left hchars))

/-- So are the headers of servers. -/
theorem servers_header_inj {p q : String} :
    header ("servers." ++ p) = header ("servers." ++ q) ↔ p = q := by
  rw [header_inj, ← String.toList_inj, String.toList_append, String.toList_append,
    List.append_right_inj, String.toList_inj]

/-- Suffixes of the same name are the same if they end in the same character. -/
theorem suffix_ext : ∀ x ∈ tableSuffixes, ∀ y ∈ tableSuffixes,
    x.toList.getLast? = y.toList.getLast? → x = y := by decide

/-- A name with the suffix of a table determines both, since no suffix ends with another. -/
theorem append_suffix_inj {s t x y : String} (hx : x ∈ tableSuffixes) (hy : y ∈ tableSuffixes)
    (h : s ++ x = t ++ y) : s = t ∧ x = y := by
  have hlast : ∀ x ∈ tableSuffixes, x.toList.getLast?.isSome := by decide
  have hchars := String.toList_inj.2 h
  rw [String.toList_append, String.toList_append] at hchars
  obtain ⟨c, hc⟩ := Option.isSome_iff_exists.1 (hlast x hx)
  obtain ⟨d, hd⟩ := Option.isSome_iff_exists.1 (hlast y hy)
  have hends := congrArg List.getLast? hchars
  rw [List.getLast?_append, List.getLast?_append, hc, hd, Option.some_or, Option.some_or] at hends
  obtain rfl := suffix_ext x hx y hy (by rw [hc, hd, hends])
  exact ⟨String.toList_inj.1 (List.append_cancel_right hchars), rfl⟩

/-- A suffix makes another name. -/
theorem append_suffix_ne {s x : String} (hx : x ∈ tableSuffixes) : s ++ x ≠ s := by
  intro h
  have hpos : ∀ x ∈ tableSuffixes, 0 < x.toList.length := by decide
  have hlength := congrArg (fun s => s.toList.length) h
  have := hpos x hx
  simp only [String.toList_append, List.length_append] at hlength
  omega

/-- No name clashes with itself. -/
theorem not_clash_self (s : String) : ¬Clash s s := by
  rintro ⟨x, hx, h⟩
  exact append_suffix_ne hx h.symm

/-- The headers of a team are that of its name and those of its name with a suffix. -/
theorem mem_teamHeaders {h name : String} : h ∈ teamHeaders name ↔
    h = header ("servers." ++ name) ∨
      ∃ suffix ∈ tableSuffixes, h = header ("servers." ++ (name ++ suffix)) := by
  rw [teamHeaders, List.map_cons, List.mem_cons, String.append_empty, List.mem_map]
  simp only [String.append_assoc, eq_comm]

/-- **The four headers of a team are different.** -/
theorem teamHeaders_nodup (name : String) : (teamHeaders name).Nodup := by
  have hsuffixes : tableSuffixes.Nodup := by decide
  rw [teamHeaders, List.map_cons, List.nodup_cons]
  constructor
  · intro h
    obtain ⟨x, hx, he⟩ := List.mem_map.1 h
    rw [String.append_empty, String.append_assoc, servers_header_inj] at he
    exact append_suffix_ne hx he
  · refine List.Nodup.map_on ?_ hsuffixes
    intro x hx y hy he
    rw [String.append_assoc, String.append_assoc, servers_header_inj] at he
    exact (append_suffix_inj hx hy he).2

/-- **Two teams with names of their own share no header**, unless one of them is named like a table
of the other. -/
theorem teamHeaders_disjoint_iff {s t : String} (hne : s ≠ t) :
    (teamHeaders s).Disjoint (teamHeaders t) ↔ ¬Clash s t ∧ ¬Clash t s := by
  rw [List.disjoint_left]
  constructor
  · intro h
    constructor
    · rintro ⟨x, hx, rfl⟩
      exact h (mem_teamHeaders.2 (.inr ⟨x, hx, rfl⟩)) (mem_teamHeaders.2 (.inl rfl))
    · rintro ⟨x, hx, rfl⟩
      exact h (mem_teamHeaders.2 (.inl rfl)) (mem_teamHeaders.2 (.inr ⟨x, hx, rfl⟩))
  · rintro ⟨hst, hts⟩ a has hat
    rcases mem_teamHeaders.1 has with rfl | ⟨x, hx, rfl⟩ <;>
      rcases mem_teamHeaders.1 hat with he | ⟨y, hy, he⟩ <;>
      rw [servers_header_inj] at he
    · exact hne he
    · exact hts ⟨y, hy, he⟩
    · exact hst ⟨x, hx, he.symm⟩
    · exact hne (append_suffix_inj hx hy he).1

/-- **Teams with names of their own have headers of their own exactly if no name clashes with
another.** -/
theorem headers_nodup_iff_not_clash {teams : List Team} (h : (teams.map Team.name).Nodup) :
    (headers teams).Nodup ↔ ∀ s ∈ teams, ∀ t ∈ teams, ¬Clash s.name t.name := by
  have hne : teams.Pairwise fun s t => s.name ≠ t.name := List.pairwise_map.1 h
  rw [headers, List.nodup_flatMap]
  constructor
  · rintro ⟨-, hdisjoint⟩ s hs t ht
    have hclash : teams.Pairwise fun s t => ¬Clash s.name t.name ∧ ¬Clash t.name s.name :=
      (hne.and hdisjoint).imp fun h => (teamHeaders_disjoint_iff h.1).1 h.2
    exact (hclash.forall_of_forall_of_flip (fun u _ => ⟨not_clash_self _, not_clash_self _⟩)
      (hclash.imp And.symm) hs ht).1
  · intro hclash
    refine ⟨fun t _ => teamHeaders_nodup t.name, hne.imp_of_mem ?_⟩
    intro s t hs ht hst
    exact (teamHeaders_disjoint_iff hst).2 ⟨hclash s hs t ht, hclash t ht s hs⟩

/-- **A valid list has `4 * n` different headers exactly if no name is another one followed by a
dot and the name of a table.**  They are the headers that its text has, one for each section. -/
theorem headers_nodup_iff (settings : Settings) {teams : List Team}
    (h : findProblems teams = .ok []) :
    ∃ (text : String) (parts : List (String × String)), renderToml settings teams = .ok text ∧
      text = (preamble settings.api.fields ++
        if teams = [] then ""
        else "\n" ++ separator.intercalate (parts.map fun p => p.1 ++ p.2) ++ "\n") ∧
      parts.map Prod.fst = headers teams ∧ (∀ p ∈ parts, p.2.toList.head? = some '\n') ∧
      (headers teams).length = 4 * teams.length ∧
      ((headers teams).Nodup ↔ ∀ s ∈ teams, ∀ t ∈ teams,
        ∀ suffix ∈ [".udp", ".discovery", ".healthcheck"], t.name ≠ s.name ++ suffix) := by
  have hvalid := (findProblems_eq_nil_iff teams).1 h
  obtain ⟨parts, hheaders, hbodies, htext⟩ := renderToml_eq_sections settings
    fun t ht => Decimal.isWritable_of_isPort (hvalid.inRange t ht)
  refine ⟨_, parts, htext, rfl, hheaders, hbodies, headers_length teams, ?_⟩
  rw [headers_nodup_iff_not_clash hvalid.names]
  constructor
  · intro hclash s hs t ht suffix hsuffix he
    exact hclash s hs t ht ⟨suffix, hsuffix, he⟩
  · rintro hsuffix s hs t ht ⟨suffix, hmem, he⟩
    exact hsuffix s hs t ht suffix hmem he

/-- Dots alone do no harm. -/
theorem headers_nodup_of_dotted_names :
    let teams : List Team := [⟨1, "a.udp", false⟩, ⟨2, "b.udp.x", true⟩]
    ∃ (text : String) (parts : List (String × String)), renderToml {} teams = .ok text ∧
      text = (preamble (Api.fields {}) ++
        if teams = [] then ""
        else "\n" ++ separator.intercalate (parts.map fun p => p.1 ++ p.2) ++ "\n") ∧
      parts.map Prod.fst = headers teams ∧ (∀ p ∈ parts, p.2.toList.head? = some '\n') ∧
      (headers teams).length = 4 * teams.length ∧
      ((headers teams).Nodup ↔ ∀ s ∈ teams, ∀ t ∈ teams,
        ∀ suffix ∈ [".udp", ".discovery", ".healthcheck"], t.name ≠ s.name ++ suffix) :=
  headers_nodup_iff {} (by decide +kernel)

/-- Two teams that pass validation, of which one is named like a table of the other: the header
`[servers.a.udp]` is there twice. -/
theorem headers_not_nodup_of_valid :
    findProblems [⟨1, "a", false⟩, ⟨2, "a.udp", false⟩] = .ok [] ∧
      ¬(headers [⟨1, "a", false⟩, ⟨2, "a.udp", false⟩]).Nodup := by
  decide +kernel

end Toml
end LogBalancer
