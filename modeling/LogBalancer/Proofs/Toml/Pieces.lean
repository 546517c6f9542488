/-
# The pieces of a written TOML text

To speak of the places where strings stand, a text is taken apart into pieces.  A piece is a fixed
text or a string with its quotes, and a string knows the path of its value.

The pieces of a section and of a server make up the text that is written for them
(`text_serverPieces`), and along its path every string is found in the JSON value of the same fields
(`at?_of_mem_serverPieces`).
-/

import LogBalancer.Document.Toml
import LogBalancer.Proofs.Members
import LogBalancer.Record.Fault

namespace LogBalancer

open Record (PathStep)

/-! ### Parts of a JSON value -/

/-- The part of a value at a path. -/
def Json.at? : Json → List PathStep → Option Json
  | v, [] => some v
  | .object ms, .key k :: path => (ms.lookup k).bind fun v => v.at? path
  | .array vs, .index i :: path => vs[i]?.bind fun v => v.at? path
  | _, _ :: _ => none

/-- A path is followed part by part. -/
theorem Json.at?_append (v : Json) (path below : List PathStep) :
    v.at? (path ++ below) = (v.at? path).bind fun w => w.at? below := by
  induction path generalizing v with
  | nil => rfl
  | cons step path ih =>
    rw [List.cons_append]
    cases v with
    | object ms =>
      cases step with
      | key k =>
        rw [at?, at?]
        cases ms.lookup k with
        | none => rfl
        | some w => exact ih w
      | index i => rfl
    | array vs =>
      cases step with
      | key k => rfl
      | index i =>
        rw [at?, at?]
        cases vs[i]? with
        | none => rfl
        | some w => exact ih w
    | _ => cases step <;> rfl

namespace Toml

/-! ### Pieces -/

/-- A piece of a written text. -/
inductive Piece
  | fixed (s : String)
  /-- A string between quotes, with the path of its value. -/
  | string (path : List PathStep) (s : String)

/-- The text of a piece. -/
def Piece.text : Piece → String
  | .fixed s => s
  | .string _ s => quote s

/-- The text of some pieces. -/
def text (pieces : List Piece) : String := pieces.foldr (fun p t => p.text ++ t) ""

/-- The strings among some pieces, each with its path. -/
def strings (pieces : List Piece) : List (List PathStep × String) :=
  pieces.filterMap fun
    | .fixed _ => none
    | .string path s => some (path, s)

/-- Pieces with a separator between them. -/
def joined (separator : String) (parts : List (List Piece)) : List Piece :=
  [Piece.fixed separator].intercalate parts

/-- The pieces of an item at a path. -/
def itemPieces (margin : String) (path : List PathStep) : Item → List Piece
  | .text s => [.string path s]
  | .texts items =>
    .fixed "[\n" :: joined ",\n" (items.zipIdx.map fun (s, i) =>
      [.fixed (margin ++ margin), .string (path ++ [.index i]) s]) ++
      [.fixed ("\n" ++ margin ++ "]")]
  | i => [.fixed (item margin i)]

/-- The pieces of the line of a field of the table at a path. -/
def fieldPieces (margin : String) (path : List PathStep) (f : Field) : List Piece :=
  .fixed (margin ++ f.key ++ (if f.tight then "=" else " = ")) ::
    itemPieces margin (path ++ [.key f.key]) f.item

/-- The pieces of the section of the table at a path. -/
def blockPieces (margin header : String) (path : List PathStep) (fields : List Field) :
    List Piece :=
  joined "\n" ([.fixed ("[" ++ header ++ "]")] :: fields.map (fieldPieces margin path))

/-- The path of a server. -/
def serverPath (name : String) : List PathStep := [.key "servers", .key name]

/-- The pieces of a server. -/
def serverPieces (s : Server) : List Piece :=
  let header := "servers." ++ s.name
  joined separator (blockPieces serverMargin header (serverPath s.name) s.fields ::
    s.tables.map fun (table, fields) =>
      blockPieces serverMargin (header ++ "." ++ table) (serverPath s.name ++ [.key table]) fields)

/-- The pieces of the `api` section. -/
def preamblePieces (api : List Field) : List Piece :=
  blockPieces "" "api" [.key "api"] api ++ [.fixed "\n"]

/-! ### Their text -/

/-- The first piece comes first. -/
theorem text_cons (p : Piece) (ps : List Piece) : text (p :: ps) = p.text ++ text ps := rfl

/-- The texts of two lists of pieces come one after the other. -/
theorem text_append (ps qs : List Piece) : text (ps ++ qs) = text ps ++ text qs := by
  induction ps with
  | nil => exact (String.empty_append).symm
  | cons p ps ih => rw [List.cons_append, text_cons, text_cons, ih, String.append_assoc]

/-- A single piece has its text. -/
theorem text_singleton (p : Piece) : text [p] = p.text := String.append_empty

/-- Joined parts have their texts with separators between them. -/
theorem text_joined (separator : String) (parts : List (List Piece)) :
    text (joined separator parts) = separator.intercalate (parts.map text) := by
  induction parts with
  | nil => rfl
  | cons ps parts ih =>
    cases parts with
    | nil =>
      rw [joined, List.intercalate_singleton, List.map_singleton, String.intercalate_singleton]
    | cons qs parts =>
      rw [joined] at ih
      rw [joined, List.intercalate_cons_cons, text_append, text_append, text_singleton, ih,
        List.map_cons, List.map_cons, List.map_cons, String.intercalate_cons_cons]
      rfl

/-- The pieces of an item make its text. -/
theorem text_itemPieces (margin : String) (path : List PathStep) (i : Item) :
    text (itemPieces margin path i) = item margin i := by
  cases i with
  | texts items =>
    have hline : ∀ t : String × Nat,
        text [Piece.fixed (margin ++ margin), .string (path ++ [.index t.2]) t.1] =
          margin ++ margin ++ quote t.1 := by
      intro t
      rw [text_cons, text_singleton]
      rfl
    have hlines : (items.zipIdx.map fun t : String × Nat =>
        [Piece.fixed (margin ++ margin), .string (path ++ [.index t.2]) t.1]).map text =
        items.map fun s => margin ++ margin ++ quote s := by
      conv => rhs; rw [← List.zipIdx_map_fst 0 items]
      rw [List.map_map, List.map_map]
      exact List.map_congr_left fun t _ => hline t
    rw [itemPieces, item, text_append, text_cons, text_joined, hlines, text_singleton]
    simp only [Piece.text, String.append_assoc]
  | _ => exact text_singleton _

/-- The pieces of a field make its text. -/
theorem text_fieldPieces (margin : String) (path : List PathStep) (f : Field) :
    text (fieldPieces margin path f) = field margin f := by
  rw [fieldPieces, text_cons, text_itemPieces]
  rfl

/-- The pieces of a block make its text. -/
theorem text_blockPieces (margin header : String) (path : List PathStep) (fields : List Field) :
    text (blockPieces margin header path fields) = block margin header fields := by
  rw [blockPieces, text_joined, List.map_cons, text_singleton, List.map_map]
  simp only [Function.comp_def, text_fieldPieces]
  rfl

/-- **The pieces of a server make up its text.** -/
theorem text_serverPieces (s : Server) : text (serverPieces s) = serverBlock s := by
  rw [serverPieces, text_joined, List.map_cons, List.map_map]
  simp only [Function.comp_def, text_blockPieces]
  rfl

/-- The pieces of the preamble make its text. -/
theorem text_preamblePieces (api : List Field) : text (preamblePieces api) = preamble api := by
  rw [preamblePieces, text_append, text_blockPieces, text_singleton]
  rfl

/-! ### Their strings -/

/-- The strings of two lists of pieces come one after the other. -/
theorem strings_append (ps qs : List Piece) : strings (ps ++ qs) = strings ps ++ strings qs :=
  List.filterMap_append

/-- The strings of joined parts are those of the parts, since a separator has none. -/
theorem strings_joined (separator : String) (parts : List (List Piece)) :
    strings (joined separator parts) = parts.flatMap strings := by
  induction parts with
  | nil => rfl
  | cons ps parts ih =>
    cases parts with
    | nil => rw [joined, List.intercalate_singleton, List.flatMap_singleton]
    | cons qs parts =>
      rw [joined] at ih
      rw [joined, List.intercalate_cons_cons, strings_append, strings_append, ih,
        List.flatMap_cons, List.append_assoc]
      rfl

/-- The strings of a list are its items, each under its position. -/
theorem strings_itemPieces_texts (margin : String) (path : List PathStep) (items : List String) :
    strings (itemPieces margin path (.texts items)) =
      items.zipIdx.map fun (s, i) => (path ++ [.index i], s) := by
  have hline : ∀ parts, strings (.fixed "[\n" :: joined ",\n" parts ++
      [.fixed ("\n" ++ margin ++ "]")]) = parts.flatMap strings := by
    intro parts
    rw [strings_append, ← strings_joined]
    exact List.append_nil _
  rw [itemPieces, hline, List.flatMap_map, List.map_eq_flatMap]
  rfl

/-- The strings of a block are those of its fields, each under its key. -/
theorem strings_blockPieces (margin header : String) (path : List PathStep)
    (fields : List Field) : strings (blockPieces margin header path fields) =
      fields.flatMap fun f => strings (itemPieces margin (path ++ [.key f.key]) f.item) := by
  rw [blockPieces, strings_joined, List.flatMap_cons, List.flatMap_map]
  rfl

/-- The preamble has one string. -/
theorem strings_preamblePieces (api : Api) :
    strings (preamblePieces api.fields) = [([.key "api", .key "bind"], api.bind)] := by
  rw [preamblePieces, strings_append, strings_blockPieces]
  rfl

/-- The strings of a server are those of its fields and of the fields of its tables. -/
theorem strings_serverPieces (server : Server) : strings (serverPieces server) =
    (([], server.fields) :: server.tables.map fun t => ([.key t.1], t.2)).flatMap fun t =>
      t.2.flatMap fun f => strings
        (itemPieces serverMargin (serverPath server.name ++ t.1 ++ [.key f.key]) f.item) := by
  rw [serverPieces, strings_joined, List.flatMap_cons, List.flatMap_cons, List.flatMap_map,
    List.flatMap_map, strings_blockPieces, List.append_nil]
  simp only [strings_blockPieces]

/-! ### Their strings in the JSON value -/

/-- A string among joined parts is one of some part. -/
theorem mem_of_mem_joined {separator s : String} {parts : List (List Piece)} {path : List PathStep}
    (h : .string path s ∈ joined separator parts) : ∃ ps ∈ parts, .string path s ∈ ps := by
  induction parts with
  | nil => cases h
  | cons ps parts ih =>
    cases parts with
    | nil =>
      rw [joined, List.intercalate_singleton] at h
      exact ⟨ps, List.mem_cons_self, h⟩
    | cons qs parts =>
      rw [joined, List.intercalate_cons_cons, List.mem_append, List.mem_append] at h
      rcases h with (hfirst | hfixed) | hrest
      · exact ⟨ps, List.mem_cons_self, hfirst⟩
      · exact absurd (List.mem_singleton.1 hfixed) (by simp)
      · obtain ⟨rs, hrs, hmem⟩ := ih hrest
        exact ⟨rs, List.mem_cons_of_mem _ hrs, hmem⟩

section At

variable {root : Json} {margin header s : String} {path p : List PathStep}

/-- The strings of an item are in its value. -/
theorem at?_of_mem_itemPieces {i : Item} (h : root.at? path = some i.json)
    (hmem : .string p s ∈ itemPieces margin path i) : root.at? p = some (.text s) := by
  cases i with
  | flag b => exact absurd (List.mem_singleton.1 hmem) (by simp)
  | number n => exact absurd (List.mem_singleton.1 hmem) (by simp)
  | text t =>
    obtain ⟨rfl, rfl⟩ := Piece.string.inj (List.mem_singleton.1 hmem)
    exact h
  | texts items =>
    rw [itemPieces, List.mem_append, List.mem_cons, List.mem_singleton] at hmem
    rcases hmem with (hfixed | hjoined) | hfixed
    · exact absurd hfixed (by simp)
    · obtain ⟨line, hline, hstring⟩ := mem_of_mem_joined hjoined
      obtain ⟨⟨t, j⟩, hj, rfl⟩ := List.mem_map.1 hline
      rcases List.mem_cons.1 hstring with hfixed | hstring
      · exact absurd hfixed (by simp)
      obtain ⟨rfl, rfl⟩ := Piece.string.inj (List.mem_singleton.1 hstring)
      rw [Json.at?_append, h, Option.bind_some, Item.json, Json.at?, List.getElem?_map,
        List.mk_mem_zipIdx_iff_getElem?.1 hj]
      rfl
    · exact absurd hfixed (by simp)

/-- The strings of a section are in its table, if that has the members of the fields. -/
theorem at?_of_mem_blockPieces {ms : List (String × Json)} {fields : List Field}
    (h : root.at? path = some (.object ms))
    (hfields : ∀ f ∈ fields, ms.lookup f.key = some f.item.json)
    (hmem : .string p s ∈ blockPieces margin header path fields) :
    root.at? p = some (.text s) := by
  obtain ⟨line, hline, hstring⟩ := mem_of_mem_joined hmem
  rcases List.mem_cons.1 hline with rfl | hline
  · exact absurd (List.mem_singleton.1 hstring) (by simp)
  obtain ⟨f, hf, rfl⟩ := List.mem_map.1 hline
  rcases List.mem_cons.1 hstring with hfixed | hitem
  · exact absurd hfixed (by simp)
  refine at?_of_mem_itemPieces ?_ hitem
  rw [Json.at?_append, h, Option.bind_some, Json.at?, hfields f hf]
  rfl

/-- **The strings of a server are in its value**, if no key stands for two of its fields or
tables. -/
theorem at?_of_mem_serverPieces {server : Server}
    (hfields : (server.fields.map Field.key ++ server.tables.map Prod.fst).Nodup)
    (htables : ∀ t ∈ server.tables, (t.2.map Field.key).Nodup)
    (h : root.at? (serverPath server.name) = some server.json)
    (hmem : .string p s ∈ serverPieces server) : root.at? p = some (.text s) := by
  have hnodup : ((fieldMembers server.fields ++ server.tables.map fun t =>
      (t.1, Json.object (fieldMembers t.2))).map Prod.fst).Nodup := by
    rw [List.map_append, fieldMembers, List.map_map, List.map_map]
    exact hfields
  obtain ⟨part, hpart, hstring⟩ := mem_of_mem_joined hmem
  rcases List.mem_cons.1 hpart with rfl | hpart
  · refine at?_of_mem_blockPieces h (fun f hf => lookup_of_mem hnodup ?_) hstring
    exact List.mem_append_left _ (List.mem_map_of_mem hf)
  · obtain ⟨t, ht, rfl⟩ := List.mem_map.1 hpart
    have htable : root.at? (serverPath server.name ++ [.key t.1]) =
        some (.object (fieldMembers t.2)) := by
      rw [Json.at?_append, h, Option.bind_some, Server.json, Json.at?,
        lookup_of_mem hnodup (List.mem_append_right _ (List.mem_map_of_mem ht))]
      rfl
    refine at?_of_mem_blockPieces htable (fun f hf => lookup_of_mem ?_ (List.mem_map_of_mem hf))
      hstring
    rw [fieldMembers, List.map_map]
    exact htables t ht

end At

/-- **The strings of the `api` section are in the value of a document.** -/
theorem at?_of_mem_preamblePieces {d : Document} (hkeys : (d.api.map Field.key).Nodup)
    {p : List PathStep} {s : String} (hmem : .string p s ∈ preamblePieces d.api) :
    d.json.at? p = some (.text s) := by
  have hapi : d.json.at? [.key "api"] = some (.object (fieldMembers d.api)) := rfl
  rcases List.mem_append.1 hmem with hblock | hfixed
  · refine at?_of_mem_blockPieces hapi (fun f hf => lookup_of_mem ?_ (List.mem_map_of_mem hf))
      hblock
    rw [fieldMembers, List.map_map]
    exact hkeys
  · exact absurd (List.mem_singleton.1 hfixed) (by simp)

end Toml
end LogBalancer
