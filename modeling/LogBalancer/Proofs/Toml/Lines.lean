/-
# The lines of a written TOML text

Names and strings are put into a text as they are, so a line end in one of them would end a line
of the text.  As long as none of them holds one, every line of the text is known (`textLines`): the
lines of a section are its header and, with the margin of the section in front, those of its fields.
A field has one line, or, if it is a list, one for each string and one around them on either side.

So a line starts with a bracket exactly if it is a header, whatever the strings hold, and no two
empty lines follow one another (`section_layout`).
-/

import LogBalancer.Proofs.Document.Agreement
import LogBalancer.Proofs.Text.Lines
import LogBalancer.Proofs.Toml.Concatenation
import LogBalancer.Proofs.Toml.Headers

namespace LogBalancer

open Text (IsLine Spaced unlines)

/-! ### What stays on its line -/

namespace Toml

/-- A string that makes no header of the line that it starts, and does not end it. -/
structure IsInner (s : String) : Prop where
  line : IsLine s
  start : s.toList.head? ≠ some '['

instance (s : String) : Decidable (IsInner s) :=
  decidable_of_iff (IsLine s ∧ s.toList.head? ≠ some '[')
    ⟨fun h => ⟨h.1, h.2⟩, fun h => ⟨h.line, h.start⟩⟩

/-- Anything can follow on a line that has started. -/
theorem IsInner.append_line {s t : String} (hs : IsInner s) (hne : s ≠ "") (ht : IsLine t) :
    IsInner (s ++ t) := by
  obtain ⟨c, cs, hc⟩ : ∃ c cs, s.toList = c :: cs :=
    List.exists_cons_of_ne_nil fun hnil => hne (String.toList_inj.1 hnil)
  have hstart := hs.start
  refine ⟨hs.line.append ht, ?_⟩
  rw [hc] at hstart
  rw [String.toList_append, hc]
  exact hstart

/-- Two parts of an inner line are one. -/
theorem IsInner.append {s t : String} (hs : IsInner s) (ht : IsInner t) : IsInner (s ++ t) := by
  by_cases hne : s = ""
  · rw [hne, String.empty_append]
    exact ht
  · exact hs.append_line hne ht.line

end Toml

/-- A field whose strings are of one line each, and whose key can start a line. -/
structure Field.IsLined (f : Field) : Prop where
  key : Toml.IsInner f.key
  item : f.item.Holds IsLine

/-- A server whose names and fields are of one line each. -/
structure Server.IsLined (s : Server) : Prop where
  name : IsLine s.name
  fields : ∀ f ∈ s.fields, f.IsLined
  tables : ∀ t ∈ s.tables, IsLine t.1 ∧ ∀ f ∈ t.2, f.IsLined

/-- A document whose tables are of one line each. -/
structure Document.IsLined (d : Document) : Prop where
  api : ∀ f ∈ d.api, f.IsLined
  servers : ∀ s ∈ d.servers, s.IsLined

namespace Toml

/-! ### The lines -/

/-- The lines of the strings of a list. -/
def listLines (margin : String) : List String → List String
  | [] => [""]
  | [s] => [margin ++ margin ++ quote s]
  | s :: t :: rest => (margin ++ margin ++ quote s ++ ",") :: listLines margin (t :: rest)

/-- The lines of a field. -/
def fieldLines (margin : String) (f : Field) : List String :=
  let start := margin ++ f.key ++ if f.tight then "=" else " = "
  match f.item with
  | .texts items => (start ++ "[") :: (listLines margin items ++ [margin ++ "]"])
  | i => [start ++ item margin i]

/-- The lines of a section. -/
def blockLines (margin path : String) (fields : List Field) : List String :=
  header path :: fields.flatMap (fieldLines margin)

/-- The tables of a server, each with what stands in its header. -/
def serverTables (s : Server) : List (String × List Field) :=
  ("servers." ++ s.name, s.fields) ::
    s.tables.map fun t => ("servers." ++ s.name ++ "." ++ t.1, t.2)

/-- The lines that a server adds to a text. -/
def serverLines (s : Server) : List String :=
  (serverTables s).flatMap fun t => "" :: blockLines serverMargin t.1 t.2

/-- The lines of the text of a document. -/
def textLines (d : Document) : List String :=
  blockLines "" "api" d.api ++ d.servers.flatMap serverLines

/-- The lines of a list are its items in quotes, separated by commas. -/
theorem unlines_listLines (margin : String) (items : List String) :
    unlines (listLines margin items) =
      ",\n".intercalate (items.map fun s => margin ++ margin ++ quote s) ++ "\n" := by
  induction items with
  | nil => rfl
  | cons s rest ih =>
    cases rest with
    | nil =>
      rw [listLines, Text.unlines_singleton, List.map_singleton, String.intercalate_singleton]
    | cons t rest =>
      have hcomma : ",\n" = "," ++ "\n" := by decide
      rw [listLines, Text.unlines_cons, ih]
      simp only [List.map_cons, String.intercalate_cons_cons, hcomma, String.append_assoc]

/-- The lines of a field are its text. -/
theorem unlines_fieldLines (margin : String) (f : Field) :
    unlines (fieldLines margin f) = field margin f ++ "\n" := by
  obtain ⟨key, i, tight⟩ := f
  cases i with
  | texts items =>
    have hopen : "[\n" = "[" ++ "\n" := by decide
    rw [fieldLines, Text.unlines_cons, Text.unlines_append, unlines_listLines,
      Text.unlines_singleton]
    simp only [field, item, hopen, String.append_assoc]
  | _ => exact Text.unlines_singleton _

/-- The lines of a block are its text. -/
theorem unlines_blockLines (margin path : String) (fields : List Field) :
    unlines (blockLines margin path fields) = block margin path fields ++ "\n" := by
  have hfields : unlines (fields.flatMap (fieldLines margin)) =
      unlines (fields.map (field margin)) := by
    rw [Text.unlines_flatMap, unlines, List.map_map]
    simp only [unlines_fieldLines]
    rfl
  rw [blockLines, Text.unlines_cons, hfields, ← Text.unlines_cons, block,
    Text.intercalate_append_lineEnd (List.cons_ne_nil _ _)]
  rfl

/-- **The lines that a server adds are its paragraph.** -/
theorem unlines_serverLines (s : Server) :
    unlines (serverLines s) = paragraph (serverBlock s) := by
  have hsections : sections s = (serverTables s).map fun t => block serverMargin t.1 t.2 := by
    rw [sections, serverTables, List.map_cons, List.map_map]
    rfl
  have hparagraph : ∀ t : String × List Field,
      unlines ("" :: blockLines serverMargin t.1 t.2) =
        paragraph (block serverMargin t.1 t.2) := by
    intro t
    rw [Text.unlines_cons, unlines_blockLines, String.empty_append, paragraph, String.append_assoc]
  have hne : sections s ≠ [] := List.cons_ne_nil _ _
  rw [serverLines, Text.unlines_flatMap, serverBlock, paragraph_intercalate hne, hsections,
    List.map_map]
  simp only [hparagraph]
  rfl

/-- **The text of a document is its lines.** -/
theorem unlines_textLines (d : Document) : unlines (textLines d) = render d := by
  rw [textLines, Text.unlines_append, unlines_blockLines, Text.unlines_flatMap, render_eq_join]
  simp only [unlines_serverLines]
  rfl

/-! ### Headers among the lines -/

/-- Whether a line is a header: whether it starts with a bracket. -/
def isHeader (l : String) : Bool := l.toList.head? == some '['

/-- A quoted line is an inner one. -/
theorem isInner_quote {s : String} (h : IsLine s) : IsInner (quote s) := by
  have hmark : IsInner "\"" := by decide
  have hopen := hmark.append_line (by decide) h
  exact hopen.append hmark

/-- A number is an inner line. -/
theorem isInner_natural (n : Nat) : IsInner (Decimal.natural n) := by
  have hdigits : ∀ c ∈ (Decimal.natural n).toList, Decimal.isDigit c = true := by
    intro c hc
    rw [Decimal.natural, String.toList_ofList] at hc
    exact Text.isDigit_of_mem_digits hc
  constructor
  · intro hmem
    exact absurd (hdigits _ hmem) (by decide)
  · intro hhead
    exact absurd (hdigits _ (List.mem_of_mem_head? hhead)) (by decide)

/-- An item that is no list stands within one line. -/
theorem isInner_item {margin : String} {i : Item} (h : i.Holds IsLine)
    (htexts : ∀ ts, i ≠ .texts ts) : IsInner (item margin i) := by
  cases i with
  | flag b =>
    have htrue : IsInner "true" := by decide
    have hfalse : IsInner "false" := by decide
    cases b
    · exact hfalse
    · exact htrue
  | number n => exact isInner_natural n
  | text s => exact isInner_quote h
  | texts ts => exact absurd rfl (htexts ts)

/-- The lines of a list are inner ones. -/
theorem isInner_listLines {margin : String} (hm : IsInner margin) {items : List String}
    (h : ∀ s ∈ items, IsLine s) : ∀ l ∈ listLines margin items, IsInner l := by
  have hcomma : IsInner "," := by decide
  have hstring : ∀ {s}, IsLine s → IsInner (margin ++ margin ++ quote s) :=
    fun hs => (hm.append hm).append (isInner_quote hs)
  induction items with
  | nil =>
    rw [listLines, List.forall_mem_singleton]
    decide
  | cons s rest ih =>
    obtain ⟨hs, hrest⟩ := List.forall_mem_cons.1 h
    cases rest with
    | nil =>
      rw [listLines, List.forall_mem_singleton]
      exact hstring hs
    | cons t rest =>
      rw [listLines, List.forall_mem_cons]
      exact ⟨(hstring hs).append hcomma, ih hrest⟩

/-- **No line of a field is a header.** -/
theorem isInner_fieldLines {margin : String} (hm : IsInner margin) {f : Field} (h : f.IsLined) :
    ∀ l ∈ fieldLines margin f, IsInner l := by
  obtain ⟨key, i, tight⟩ := f
  have hequals : IsInner (if tight then "=" else " = ") := by
    cases tight <;> decide
  have hstart := (hm.append h.key).append hequals
  have hne : margin ++ key ++ (if tight then "=" else " = ") ≠ "" := by
    cases tight <;> simp
  cases i with
  | texts items =>
    have hopen := hstart.append_line hne (t := "[") (by decide)
    have hclose : IsInner "]" := by decide
    rw [fieldLines, List.forall_mem_cons, List.forall_mem_append, List.forall_mem_singleton]
    exact ⟨hopen, isInner_listLines hm h.item, hm.append hclose⟩
  | _ =>
    rw [fieldLines, List.forall_mem_singleton]
    exact hstart.append (isInner_item h.item nofun)

/-- A header stands on one line. -/
theorem isLine_header {path : String} (h : IsLine path) : IsLine (header path) := by
  have hopen : IsLine "[" := by decide
  have hclose : IsLine "]" := by decide
  exact (hopen.append h).append hclose

/-- A header is one. -/
theorem isHeader_header (path : String) : isHeader (header path) = true := by
  rw [isHeader, header, String.toList_append, String.toList_append]
  rfl

/-- What a section is, by its lines: they are of one line each, and the header is the only one that
looks like one. -/
structure IsSection (path : String) (ls : List String) : Prop where
  line : ∀ l ∈ ls, IsLine l
  headers : ls.filter isHeader = [header path]

/-- **The lines of a block are a section**: its header, and then inner lines. -/
theorem isSection_blockLines {margin path : String} (hm : IsInner margin) (hpath : IsLine path)
    {fields : List Field} (h : ∀ f ∈ fields, f.IsLined) :
    IsSection path (blockLines margin path fields) := by
  have hinner : ∀ l ∈ fields.flatMap (fieldLines margin), IsInner l := by
    intro l hl
    obtain ⟨f, hf, hmem⟩ := List.mem_flatMap.1 hl
    exact isInner_fieldLines hm (h f hf) l hmem
  have hnone : (fields.flatMap (fieldLines margin)).filter isHeader = [] := by
    rw [List.filter_eq_nil_iff]
    intro l hl
    rw [isHeader, beq_iff_eq]
    exact (hinner l hl).start
  constructor
  · rw [blockLines, List.forall_mem_cons]
    exact ⟨isLine_header hpath, fun l hl => (hinner l hl).line⟩
  · rw [blockLines, List.filter_cons_of_pos (isHeader_header path), hnone]

/-- An empty line in front of a section does not change its headers. -/
theorem IsSection.cons_empty {path : String} {ls : List String} (h : IsSection path ls) :
    IsSection path ("" :: ls) := by
  have hline : IsLine "" := by decide
  refine ⟨List.forall_mem_cons.2 ⟨hline, h.line⟩, ?_⟩
  rw [List.filter_cons_of_neg (by decide), h.headers]

/-- The sections of a server, by their lines. -/
theorem isSection_of_mem_serverTables {s : Server} (h : s.IsLined) :
    ∀ t ∈ serverTables s, IsSection t.1 ("" :: blockLines serverMargin t.1 t.2) := by
  have hmargin : IsInner serverMargin := by decide
  have hservers : IsLine "servers." := by decide
  have hdot : IsLine "." := by decide
  have hname := hservers.append h.name
  rw [serverTables, List.forall_mem_cons]
  refine ⟨(isSection_blockLines hmargin hname h.fields).cons_empty, ?_⟩
  intro p hp
  obtain ⟨t, ht, rfl⟩ := List.mem_map.1 hp
  obtain ⟨htable, hfields⟩ := h.tables t ht
  have hpath := (hname.append hdot).append htable
  exact (isSection_blockLines hmargin hpath hfields).cons_empty

/-- **Every line of a text stays a line, and the headers among them are those of its sections**, in
order. -/
theorem textLines_spec {d : Document} (h : d.IsLined) :
    (∀ l ∈ textLines d, IsLine l) ∧ (textLines d).filter isHeader =
      header "api" :: d.servers.flatMap fun s => (serverTables s).map fun t => header t.1 := by
  have hapi : IsSection "api" (blockLines "" "api" d.api) := by
    have hmargin : IsInner "" := by decide
    exact isSection_blockLines hmargin (by decide) h.api
  have hserver : ∀ s ∈ d.servers, (∀ l ∈ serverLines s, IsLine l) ∧
      (serverLines s).filter isHeader = (serverTables s).map fun t => header t.1 := by
    intro s hs
    have hsections := isSection_of_mem_serverTables (h.servers s hs)
    constructor
    · intro l hl
      obtain ⟨t, ht, hmem⟩ := List.mem_flatMap.1 hl
      exact (hsections t ht).line l hmem
    · rw [serverLines, List.filter_flatMap, List.map_eq_flatMap]
      exact List.flatMap_congr fun t ht => (hsections t ht).headers
  constructor
  · rw [textLines, List.forall_mem_append]
    refine ⟨hapi.line, fun l hl => ?_⟩
    obtain ⟨s, hs, hmem⟩ := List.mem_flatMap.1 hl
    exact (hserver s hs).1 l hmem
  · rw [textLines, List.filter_append, hapi.headers, List.filter_flatMap, List.singleton_append]
    exact congrArg _ (List.flatMap_congr fun s hs => (hserver s hs).2)

/-! ### Empty lines -/

/-- The only empty line of a field is that of a list without strings, and the line that closes the
list is behind it. -/
theorem spaced_listLines_append (margin : String) (items : List String) {close : String}
    (hclose : close ≠ "") : Spaced (listLines margin items ++ [close]) := by
  have hlast : Spaced [close] := Spaced.of_ne hclose trivial
  induction items with
  | nil => exact Spaced.of_empty hclose hlast
  | cons s rest ih =>
    have hne : ∀ t, margin ++ margin ++ quote s ++ t ≠ "" := by
      intro t
      simp [quote]
    cases rest with
    | nil =>
      have hfirst := hne ""
      rw [String.append_empty] at hfirst
      exact Spaced.of_ne hfirst hlast
    | cons t rest => exact Spaced.of_ne (hne ",") ih

/-- The lines of a field have no empty line among them. -/
theorem spaced_fieldLines (margin : String) (f : Field) : Spaced (fieldLines margin f) := by
  obtain ⟨key, i, tight⟩ := f
  have hne : ∀ s, margin ++ key ++ (if tight then "=" else " = ") ++ s ≠ "" := by
    intro s
    cases tight <;> simp
  cases i with
  | texts items =>
    have hclose : margin ++ "]" ≠ "" := by simp
    exact Spaced.of_ne (hne "[") (spaced_listLines_append margin items hclose)
  | _ => exact Spaced.of_ne (hne _) trivial

/-- An empty line can stand before a block. -/
theorem spaced_blockLines (margin path : String) (fields : List Field) :
    Spaced ("" :: blockLines margin path fields) := by
  have hheader : header path ≠ "" := by simp [header]
  have hfields : Spaced (fields.flatMap (fieldLines margin)) :=
    Spaced.flatMap fun f _ => spaced_fieldLines margin f
  exact Spaced.of_empty hheader (Spaced.of_ne hheader hfields)

/-- **No two empty lines of a text follow one another**, and it does not end with one. -/
theorem spaced_textLines (d : Document) : Spaced (textLines d) := by
  have hservers : Spaced (d.servers.flatMap serverLines) :=
    Spaced.flatMap fun s _ => Spaced.flatMap fun t _ => spaced_blockLines serverMargin t.1 t.2
  exact (spaced_blockLines "" "api" d.api).2.append hservers

/-- **The lines of a text** are its header lines and what is between them, so it is laid out as its
sections are. -/
theorem render_layout {d : Document} (h : d.IsLined) :
    (Text.lines (render d)).filter isHeader =
      header "api" :: d.servers.flatMap (fun s => (serverTables s).map fun t => header t.1) ∧
    ¬['\n', '\n', '\n'] <:+: (render d).toList ∧ Text.EndsInOneLineEnd (render d) := by
  obtain ⟨hlines, hheaders⟩ := textLines_spec h
  have hspaced := spaced_textLines d
  have hne : textLines d ≠ [] := List.cons_ne_nil _ _
  rw [← unlines_textLines]
  refine ⟨?_, hspaced.no_three_lineEnds hlines, hspaced.endsInOneLineEnd hne hlines⟩
  rw [Text.lines_unlines hlines, List.filter_append, hheaders]
  exact List.append_nil _

/-! ### The text of teams -/

/-- A plain string stands on one line. -/
theorem isLine_of_isPlain {s : String} (h : isPlain s = true) : IsLine s := by
  intro hmem
  exact absurd (List.all_eq_true.1 h '\n' hmem) (by decide)

end Toml

/-- Fields with inner keys and items of lines stand on lines. -/
theorem Field.isLined_of_keys {fields : List Field}
    (hkeys : ∀ k ∈ fields.map Field.key, Toml.IsInner k)
    (hitems : ∀ f ∈ fields, f.item.Holds IsLine) : ∀ f ∈ fields, f.IsLined :=
  fun f hf => ⟨hkeys f.key (List.mem_map_of_mem hf), hitems f hf⟩

/-- **A server of settings and a name of one line each is of one line each.** -/
theorem Server.of_isLined {settings : Settings} (h : ∀ s ∈ settings.texts, IsLine s) {team : Team}
    (hname : IsLine team.name) {port : String} (hport : IsLine port) :
    (Server.of settings team port).IsLined := by
  have hfixed : ∀ s ∈ fixedTexts, IsLine s := by decide
  have hkeys : ∀ k ∈ serverKeys, Toml.IsInner k := by decide
  have htableKeys : ∀ t ∈ serverTableKeys, IsLine t.1 ∧ ∀ k ∈ t.2, Toml.IsInner k := by decide
  obtain ⟨hfields, htables⟩ := Server.of_holds (fun _ _ => IsLine.append) hfixed h hport team
  refine ⟨hname, Field.isLined_of_keys (Server.of_keys settings team port ▸ hkeys) hfields, ?_⟩
  intro t ht
  obtain ⟨htable, hinner⟩ := Server.forall_tables_keys
    (P := fun name keys => IsLine name ∧ ∀ k ∈ keys, Toml.IsInner k) htableKeys settings team port
    t ht
  exact ⟨htable, Field.isLined_of_keys hinner (htables t ht)⟩

/-- A document of settings and names of one line each is of one line each. -/
theorem Document.isLined_of_teams {settings : Settings} (h : ∀ s ∈ settings.texts, IsLine s)
    {teams : List Team} (hnames : ∀ t ∈ teams, IsLine t.name) :
    Document.IsLined ⟨settings.api.fields,
      teams.map fun t => Server.of settings t (Decimal.numeral t.port)⟩ := by
  constructor
  · have hkeys : ∀ k ∈ apiKeys, Toml.IsInner k := by decide
    exact Field.isLined_of_keys (Api.fields_keys settings.api ▸ hkeys) (Api.fields_holds h)
  · intro s hs
    obtain ⟨t, ht, rfl⟩ := List.mem_map.1 hs
    exact Server.of_isLined h (hnames t ht) (Toml.isLine_of_isPlain (Toml.isPlain_numeral t.port))

namespace Toml

/-- The headers of a team's sections. -/
theorem map_header_serverTables (settings : Settings) (t : Team) (port : String) :
    (serverTables (Server.of settings t port)).map (fun table => header table.1) =
      ["[servers." ++ t.name ++ "]", "[servers." ++ t.name ++ ".udp]",
        "[servers." ++ t.name ++ ".discovery]", "[servers." ++ t.name ++ ".healthcheck]"] := by
  simp only [serverTables, Server.of, header, List.map_cons, List.map_nil, ← String.toList_inj,
    List.cons.injEq, String.toList_append, List.append_assoc, and_true]
  refine ⟨?_, ?_, ?_, ?_⟩ <;> rfl

/-- **The layout of a text** whose names and strings are of one line each, whatever else they hold.
The lines that start with a bracket are `[api]` and the four headers of each team, in order and with
its name as it is.  The text starts with the preamble, has no three line ends in a row, and ends
with exactly one. -/
theorem section_layout {settings : Settings} {teams : List Team}
    (hlines : ∀ s ∈ settings.texts ++ teams.map Team.name, '\n' ∉ s.toList)
    (hports : ∀ t ∈ teams, (Decimal.digits t.port.natAbs).length ≤ 4300) :
    ∃ text rest, renderToml settings teams = .ok text ∧
      (Text.lines text).filter (fun l => l.toList.head? == some '[') =
        "[api]" :: teams.flatMap (fun t =>
          ["[servers." ++ t.name ++ "]", "[servers." ++ t.name ++ ".udp]",
            "[servers." ++ t.name ++ ".discovery]", "[servers." ++ t.name ++ ".healthcheck]"]) ∧
      text = preamble settings.api.fields ++ rest ∧
      ¬['\n', '\n', '\n'] <:+: text.toList ∧ Text.EndsInOneLineEnd text := by
  have hwritable : ∀ t ∈ teams, Decimal.isWritable t.port = true :=
    fun t ht => (Decimal.isWritable_iff t.port).2 (hports t ht)
  have htexts : ∀ s ∈ settings.texts, IsLine s :=
    fun s hs => hlines s (List.mem_append_left _ hs)
  have hnames : ∀ t ∈ teams, IsLine t.name :=
    fun t ht => hlines t.name (List.mem_append_right _ (List.mem_map_of_mem ht))
  have hd := Document.isLined_of_teams htexts hnames
  obtain ⟨hheaders, hinfix, hend⟩ := render_layout hd
  have hrender := congrArg (Except.map render) (Document.ofTeams_eq_ok settings hwritable)
  refine ⟨_, _, hrender, ?_, render_eq_join _, hinfix, hend⟩
  refine hheaders.trans ?_
  rw [List.flatMap_map]
  simp only [map_header_serverTables]
  rfl

/-- Names and strings with braces, brackets and quotes, or empty, of which one stands twice. -/
theorem section_layout_of_odd_names :
    ∃ text rest,
      renderToml { api := { bind := "]\"[x]" }, discovery := { kind := "\x7bport\x7d", hosts := [] } }
        [⟨-1, "", false⟩, ⟨514, "[\x7bport\x7d]\"", true⟩, ⟨514, "", true⟩] = .ok text ∧
      (Text.lines text).filter (fun l => l.toList.head? == some '[') =
        ["[api]", "[servers.]", "[servers..udp]", "[servers..discovery]", "[servers..healthcheck]",
          "[servers.[\x7bport\x7d]\"]", "[servers.[\x7bport\x7d]\".udp]",
          "[servers.[\x7bport\x7d]\".discovery]", "[servers.[\x7bport\x7d]\".healthcheck]",
          "[servers.]", "[servers..udp]", "[servers..discovery]", "[servers..healthcheck]"] ∧
      text = preamble (Api.fields { bind := "]\"[x]" }) ++ rest ∧
      ¬['\n', '\n', '\n'] <:+: text.toList ∧ Text.EndsInOneLineEnd text :=
  section_layout (by decide) (by decide +kernel)

end Toml
end LogBalancer
