/-
# Written TOML documents are read back

What `Toml.read` reads of the text of a document whose names are bare keys of their own and whose
strings are plain: exactly its tables and fields, in their order (`read_render`).

`Toml.Sections` says which statements the text is read as.  What is left is to put them into
tables.  While a table is filled, it is the last one of the table above it, and so on up to the
root: `Focus path plug` says that the members at `path` can be changed without looking at the
rest, which `plug` puts around them.  A header moves the focus to a new last member
(`build_section`), and a server is a section and the sections of its tables (`build_server`).
-/

import LogBalancer.Proofs.Members
import LogBalancer.Proofs.Toml.Sections

namespace LogBalancer

/-! ### Documents that can be read back -/

/-- A table that can be read back: its fields can, and no key is there twice. -/
structure Toml.IsPlainTable (table : List Field) : Prop where
  fields : ∀ f ∈ table, f.IsPlain
  keys : (table.map Field.key).Nodup

/-- A server that can be read back: its tables can, their names are bare, and no key stands both for
a field and for a table. -/
structure Server.IsPlain (s : Server) : Prop where
  name : Toml.isBare s.name
  fields : Toml.IsPlainTable s.fields
  tables : ∀ t ∈ s.tables, Toml.isBare t.1 ∧ Toml.IsPlainTable t.2
  keys : (s.fields.map Field.key ++ s.tables.map Prod.fst).Nodup

/-- A document that can be read back: its tables can, and every server has a name of its own. -/
structure Document.IsPlain (d : Document) : Prop where
  api : Toml.IsPlainTable d.api
  servers : ∀ s ∈ d.servers, s.IsPlain
  names : (d.servers.map Server.name).Nodup

/-- The members of a document, as far as it has any. -/
def Document.members (d : Document) : Toml.Members :=
  ("api", .object (fieldMembers d.api)) ::
    if d.servers = [] then [] else [("servers", .object (d.servers.map fun s => (s.name, s.json)))]

namespace Toml

/-! ### Changing the last table -/

/-- `root` has the members `ms` at a path, and `plug` puts the rest around them. -/
def At (path : List String) (root ms : Members) (plug : Members → Members) : Prop :=
  ∀ change, within path change root = (change ms).map plug

/-- What `plug` puts around members keeps them at a path. -/
def Focus (path : List String) (plug : Members → Members) : Prop :=
  ∀ ms, At path (plug ms) ms plug

/-- Going down a path and then further is going down both. -/
theorem within_append (path below : List String) (change : Members → Option Members)
    (ms : Members) : within (path ++ below) change ms = within path (within below change) ms := by
  induction path generalizing ms with
  | nil => rfl
  | cons k path ih =>
    rw [List.cons_append, within, within]
    cases ms.lookup k with
    | none => simp only [ih]
    | some v => cases v <;> simp only [ih]

/-- A table that is not there is put at the end. -/
theorem within_of_not_mem {ms : Members} {k : String} (h : k ∉ ms.map Prod.fst)
    (change : Members → Option Members) :
    within [k] change ms = (change []).map fun inner => ms ++ [(k, .object inner)] := by
  rw [within, lookup_eq_none_iff_not_mem.2 h]
  simp only [within, setMember_of_not_mem h]

/-- The last table is changed in its place. -/
theorem within_append_last {ms : Members} {k : String} (h : k ∉ ms.map Prod.fst)
    (inner : Members) (change : Members → Option Members) :
    within [k] change (ms ++ [(k, .object inner)]) =
      (change inner).map fun inner => ms ++ [(k, .object inner)] := by
  rw [within, lookup_append_last h]
  simp only [within, setMember_append_last h]

/-- A focus moves into a table that is added last. -/
theorem Focus.last {path : List String} {plug : Members → Members} (h : Focus path plug)
    {ms : Members} {k : String} (hk : k ∉ ms.map Prod.fst) :
    Focus (path ++ [k]) fun inner => plug (ms ++ [(k, .object inner)]) := by
  intro inner change
  rw [within_append, h, within_append_last hk, Option.map_map]
  rfl

/-! ### Sections -/

/-- Two lists of statements are built one after the other. -/
theorem build_append (b : Building) (xs ys : List Statement) :
    build b (xs ++ ys) = (build b xs).bind fun b => build b ys := by
  induction xs generalizing b with
  | nil => rfl
  | cons st xs ih =>
    rw [List.cons_append, build, build]
    cases b.add st with
    | none => rfl
    | some b => exact ih b

/-- **Fields are added one after the other**, if no key is there twice. -/
theorem build_fields {path : List String} {plug : Members → Members} (h : Focus path plug)
    (headers : List (List String)) {ms : Members} {fields : List Field}
    (hkeys : (ms.map Prod.fst ++ fields.map Field.key).Nodup) :
    build ⟨plug ms, headers, path⟩ (fields.map fieldStatement) =
      some ⟨plug (ms ++ fieldMembers fields), headers, path⟩ := by
  induction fields generalizing ms with
  | nil =>
    rw [fieldMembers, List.map_nil, List.map_nil, List.append_nil]
    rfl
  | cons f fs ih =>
    obtain ⟨hf, htail⟩ := nodup_append_cons hkeys f.item.json
    have hadd : addMember f.key f.item.json ms = some (ms ++ [(f.key, f.item.json)]) := by
      rw [addMember, lookup_eq_none_iff_not_mem.2 hf]
      rfl
    rw [List.map_cons, build, fieldStatement, Building.add, h, hadd]
    simp only [Option.map_some, Option.bind_some]
    rw [ih htail, List.append_assoc]
    rfl

/-- **A section is put at the end of the table above it.** -/
theorem build_section {path : List String} {plug : Members → Members} (h : Focus path plug)
    {root ms : Members} (hroot : At path root ms plug) {k : String} (hk : k ∉ ms.map Prod.fst)
    {headers : List (List String)} (hnew : path ++ [k] ∉ headers) (current : List String)
    {fields : List Field} (hfields : (fields.map Field.key).Nodup) :
    build ⟨root, headers, current⟩ (sectionStatements (path ++ [k]) fields) =
      some ⟨plug (ms ++ [(k, .object (fieldMembers fields))]), (path ++ [k]) :: headers,
        path ++ [k]⟩ := by
  rw [sectionStatements, build, Building.add, if_neg hnew, within_append, hroot,
    within_of_not_mem hk]
  simp only [Option.map_some, Option.bind_some]
  exact build_fields (h.last hk) _ hfields

/-! ### Servers -/

/-- The path of the table of all servers. -/
def serversPath : List String := ["servers"]

/-- The sections of a server, each with the path of its table. -/
def serverParts (s : Server) : List (List String × List Field) :=
  (serversPath ++ [s.name], s.fields) ::
    s.tables.map fun t => (serversPath ++ [s.name] ++ [t.1], t.2)

/-- The statements of some sections. -/
def partStatements (parts : List (List String × List Field)) : List Statement :=
  parts.flatMap fun p => sectionStatements p.1 p.2

/-- The tables of a table, put at its end one after the other. -/
theorem build_tables {path : List String} {plug : Members → Members} (h : Focus path plug)
    {tables : List (String × List Field)} (hfields : ∀ t ∈ tables, (t.2.map Field.key).Nodup)
    {ms : Members} (hkeys : (ms.map Prod.fst ++ tables.map Prod.fst).Nodup)
    {headers : List (List String)} (hnew : ∀ t ∈ tables, path ++ [t.1] ∉ headers)
    (current : List String) :
    ∃ last, build ⟨plug ms, headers, current⟩
        (partStatements (tables.map fun t => (path ++ [t.1], t.2))) =
      some ⟨plug (ms ++ tables.map fun t => (t.1, .object (fieldMembers t.2))),
        (tables.map fun t => path ++ [t.1]).reverse ++ headers, last⟩ := by
  induction tables generalizing ms headers current with
  | nil =>
    refine ⟨current, ?_⟩
    rw [List.map_nil, List.map_nil, List.append_nil]
    rfl
  | cons t ts ih =>
    obtain ⟨ht, htail⟩ := nodup_append_cons hkeys (Json.object (fieldMembers t.2))
    have hsection := build_section h (h ms) ht (hnew t List.mem_cons_self) current
      (hfields t List.mem_cons_self)
    have hrest : ∀ u ∈ ts, path ++ [u.1] ∉ (path ++ [t.1]) :: headers := by
      intro u hu hmem
      rcases List.mem_cons.1 hmem with he | hold
      · have hut : u.1 = t.1 := (List.cons.inj (List.append_cancel_left he)).1
        have hnodup := (List.nodup_append.1 hkeys).2.1
        exact (List.nodup_cons.1 hnodup).1 (hut ▸ List.mem_map_of_mem hu)
      · exact hnew u (List.mem_cons_of_mem _ hu) hold
    obtain ⟨last, hlast⟩ := ih (fun u hu => hfields u (List.mem_cons_of_mem _ hu)) htail hrest
      (path ++ [t.1])
    refine ⟨last, ?_⟩
    rw [List.map_cons, partStatements, List.flatMap_cons, build_append, hsection, Option.bind_some]
    rw [partStatements] at hlast
    rw [hlast]
    simp only [List.map_cons, List.reverse_cons, List.append_assoc, List.cons_append,
      List.nil_append]

/-- **A server is put at the end of the servers**, as a table with its tables in it. -/
theorem build_server {plug : Members → Members} (h : Focus serversPath plug) {root ms : Members}
    (hroot : At serversPath root ms plug) {s : Server} (hs : s.IsPlain)
    (hname : s.name ∉ ms.map Prod.fst) {headers : List (List String)}
    (hnew : ∀ below, serversPath ++ [s.name] ++ below ∉ headers) (current : List String) :
    ∃ last, build ⟨root, headers, current⟩ (partStatements (serverParts s)) =
      some ⟨plug (ms ++ [(s.name, s.json)]),
        ((serverParts s).map Prod.fst).reverse ++ headers, last⟩ := by
  have hsection := build_section h hroot hname (List.append_nil _ ▸ hnew []) current hs.fields.keys
  have htables : ∀ t ∈ s.tables,
      serversPath ++ [s.name] ++ [t.1] ∉ (serversPath ++ [s.name]) :: headers := by
    intro t ht hmem
    rcases List.mem_cons.1 hmem with he | hold
    · have := congrArg List.length he
      simp only [List.length_append, List.length_singleton] at this
      omega
    · exact hnew _ hold
  have hkeys : ((fieldMembers s.fields).map Prod.fst ++ s.tables.map Prod.fst).Nodup := by
    rw [fieldMembers, List.map_map]
    exact hs.keys
  obtain ⟨last, hlast⟩ := build_tables (h.last hname) (fun t ht => (hs.tables t ht).2.keys) hkeys
    htables (serversPath ++ [s.name])
  refine ⟨last, ?_⟩
  rw [serverParts, partStatements, List.flatMap_cons, build_append, hsection, Option.bind_some]
  rw [partStatements] at hlast
  rw [hlast, List.map_cons, List.map_map, List.reverse_cons, List.append_assoc]
  rfl

/-- **Servers are put one after the other**, if every one has a name of its own. -/
theorem build_servers {plug : Members → Members} (h : Focus serversPath plug)
    {servers : List Server} (hs : ∀ s ∈ servers, s.IsPlain) {ms : Members}
    (hnames : (ms.map Prod.fst ++ servers.map Server.name).Nodup) {headers : List (List String)}
    (hnew : ∀ s ∈ servers, ∀ below, serversPath ++ [s.name] ++ below ∉ headers)
    {root : Members} (hroot : At serversPath root ms plug) (current : List String)
    (hne : servers ≠ []) :
    ∃ b, build ⟨root, headers, current⟩ (servers.flatMap fun s => partStatements (serverParts s)) =
      some b ∧ b.root = plug (ms ++ servers.map fun s => (s.name, s.json)) := by
  induction servers generalizing ms headers root current with
  | nil => contradiction
  | cons s ss ih =>
    obtain ⟨hname, htail⟩ := nodup_append_cons hnames s.json
    obtain ⟨last, hlast⟩ := build_server h hroot (hs s List.mem_cons_self) hname
      (hnew s List.mem_cons_self) current
    rw [List.flatMap_cons, build_append, hlast, Option.bind_some]
    cases ss with
    | nil => exact ⟨_, rfl, rfl⟩
    | cons u us =>
      have hrest : ∀ v ∈ u :: us, ∀ below, serversPath ++ [v.name] ++ below ∉
          ((serverParts s).map Prod.fst).reverse ++ headers := by
        intro v hv below hmem
        rcases List.mem_append.1 hmem with hown | hold
        · have hvs : v.name = s.name := by
            rw [List.mem_reverse, serverParts, List.map_cons, List.map_map, List.mem_cons] at hown
            rcases hown with he | ht
            · exact (List.cons.inj (List.cons.inj he).2).1
            · obtain ⟨t, -, he⟩ := List.mem_map.1 ht
              exact (List.cons.inj (List.cons.inj he).2).1.symm
          have hnodup := (List.nodup_append.1 hnames).2.1
          exact (List.nodup_cons.1 hnodup).1 (hvs ▸ List.mem_map_of_mem hv)
        · exact hnew v (List.mem_cons_of_mem _ hv) below hold
      obtain ⟨b, hb, hroot⟩ := ih (fun v hv => hs v (List.mem_cons_of_mem _ hv)) htail hrest
        (h _) last (List.cons_ne_nil _ _)
      refine ⟨b, hb, ?_⟩
      rw [hroot, List.map_cons, List.append_assoc]
      rfl

/-! ### Documents -/

/-- The margin of a server is a margin. -/
theorem isMargin_serverMargin : IsMargin serverMargin := by
  intro c hc
  rw [List.mem_singleton.1 hc]
  rfl

/-- The sections of a server are the blocks of its parts. -/
theorem sections_eq_map (s : Server) :
    sections s = (serverParts s).map fun p => block serverMargin (".".intercalate p.1) p.2 := by
  have hname : ".".intercalate (serversPath ++ [s.name]) = "servers." ++ s.name := by
    rw [serversPath, List.singleton_append, String.intercalate_cons_cons,
      String.intercalate_singleton]
    rfl
  have htable : ∀ t, ".".intercalate (serversPath ++ [s.name] ++ [t]) =
      "servers." ++ s.name ++ "." ++ t := by
    intro t
    rw [serversPath, List.singleton_append, List.cons_append, List.singleton_append,
      String.intercalate_cons_cons, String.intercalate_cons_cons, String.intercalate_singleton]
    simp only [← String.append_assoc]
    rfl
  rw [sections, serverParts, List.map_cons, List.map_map, hname]
  simp only [Function.comp_def, htable]

/-- **The sections of a server are read as its statements.** -/
theorem reads_serverBlock {s : Server} (hs : s.IsPlain) :
    Reads (serverBlock s) (partStatements (serverParts s)) := by
  have hservers : isBare "servers" = true := by decide
  rw [serverBlock, sections_eq_map]
  refine Reads.intercalate (List.cons_ne_nil _ _) ?_
  intro p hp
  rcases List.mem_cons.1 hp with rfl | hp
  · refine reads_block isMargin_serverMargin (by simp [serversPath]) ?_ hs.fields.fields
    intro k hk
    simp only [serversPath, List.cons_append, List.nil_append, List.mem_cons, List.not_mem_nil,
      or_false] at hk
    rcases hk with rfl | rfl
    · exact hservers
    · exact hs.name
  · obtain ⟨t, ht, rfl⟩ := List.mem_map.1 hp
    obtain ⟨hbare, hplain⟩ := hs.tables t ht
    refine reads_block isMargin_serverMargin (by simp [serversPath]) ?_ hplain.fields
    intro k hk
    simp only [serversPath, List.cons_append, List.nil_append, List.mem_cons, List.not_mem_nil,
      or_false] at hk
    rcases hk with rfl | rfl | rfl
    · exact hservers
    · exact hs.name
    · exact hbare

/-- **The text of a document is read as the statements of its tables.** -/
theorem statements?_render {d : Document} (h : d.IsPlain) :
    statements? (render d).toList = some (sectionStatements ["api"] d.api ++
      d.servers.flatMap fun s => partStatements (serverParts s)) := by
  have hnone : statements? [] = some [] := statements?_nil rfl
  have hapi : Reads (block "" "api" d.api) (sectionStatements ["api"] d.api) := by
    have hbare : ∀ k ∈ ["api"], isBare k = true := by decide
    have hmargin : IsMargin "" := fun c hc => absurd hc List.not_mem_nil
    have hblock := reads_block hmargin (List.cons_ne_nil _ _) hbare h.api.fields
    rwa [String.intercalate_singleton] at hblock
  unfold render
  split
  · rename_i hnil
    rw [preamble, String.toList_append]
    refine (hapi []).trans ?_
    rw [hnone, hnil, List.flatMap_nil]
    rfl
  · rename_i hne
    have hblocks : Reads (separator.intercalate (d.servers.map serverBlock))
        (d.servers.flatMap fun s => partStatements (serverParts s)) :=
      Reads.intercalate hne fun s hs => reads_serverBlock (h.servers s hs)
    have htext : (preamble d.api ++ "\n" ++ separator.intercalate (d.servers.map serverBlock) ++
        "\n").toList = (block "" "api" d.api).toList ++ '\n' :: '\n' ::
          ((separator.intercalate (d.servers.map serverBlock)).toList ++ '\n' :: []) := by
      simp only [preamble, String.toList_append, List.append_assoc]
      rfl
    rw [htext, hapi, statements?_newline, hblocks, hnone]
    simp only [Option.map_some, List.append_nil]

/-- The whole document is in focus at first. -/
theorem focus_root : Focus [] id := fun _ _ => Option.map_id'.symm

/-- **A document is read back**: its text is read as exactly its tables and fields, in their
order. -/
theorem read_render {d : Document} (h : d.IsPlain) : read (render d) = some d.members := by
  have hapi : build {} (sectionStatements ["api"] d.api) =
      some ⟨[("api", .object (fieldMembers d.api))], [["api"]], ["api"]⟩ :=
    build_section focus_root (focus_root []) List.not_mem_nil List.not_mem_nil [] h.api.keys
  rw [read, statements?_render h, Option.bind_some, build_append, hapi, Option.bind_some,
    Document.members]
  by_cases hne : d.servers = []
  · rw [hne, if_pos rfl]
    rfl
  · have hservers : "servers" ∉ ([("api", Json.object (fieldMembers d.api))] : Members).map
        Prod.fst := by
      rw [List.map_singleton, List.mem_singleton]
      show "servers" ≠ "api"
      decide
    have hnames : (([] : Members).map Prod.fst ++ d.servers.map Server.name).Nodup := h.names
    have hnew : ∀ s ∈ d.servers, ∀ below, serversPath ++ [s.name] ++ below ∉ [["api"]] := by
      intro s _ below hmem
      have := (List.cons.inj (List.mem_singleton.1 hmem)).1
      exact absurd this (by decide)
    obtain ⟨b, hb, hroot⟩ := build_servers (focus_root.last hservers) h.servers hnames hnew
      (within_of_not_mem hservers) ["api"] hne
    rw [hb, Option.map_some, hroot, if_neg hne]
    rfl

end Toml
end LogBalancer
