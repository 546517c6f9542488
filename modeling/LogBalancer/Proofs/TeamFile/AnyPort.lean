/-
# A team file for every port

Every natural number is the port of the one team of some team file (`resolve_file`), also one
with more digits than can be written: a file gives it in hexadecimal, and nothing that reads the
file writes it out in decimal.

The text is followed through all stages: it is decoded as it was encoded, has no line ends or
placeholders to replace, is cut into thirteen tokens, and these are a list with one mapping.
-/

import LogBalancer.Proofs.Placeholder.Remains
import LogBalancer.Proofs.TeamFile.Loading
import LogBalancer.Proofs.Text.Utf8
import LogBalancer.Proofs.Yaml.Hexadecimal
import LogBalancer.Proofs.Yaml.Steps

namespace LogBalancer
namespace TeamFile
namespace AnyPort

open Yaml (Fault Graph Lexer Tag Token forall_mem_hexadecimal isNameChar scanPlain_word)

/-! ### The text -/

/-- What stands before the port. -/
def opening : List Char := "- team: a\n  port: ".toList

variable (width n : Nat)

/-- A list with one team, whose port is a hexadecimal number. -/
def text : List Char := opening ++ Yaml.hexadecimal width n

/-- What holds of the opening, of zero, of `x` and of the hexadecimal digits holds of the whole
text. -/
theorem forall_mem_text {p : Char → Prop} (hopening : ∀ i : Fin opening.length, p opening[i])
    (h₀ : p '0') (hx : p 'x') (h : ∀ d : Fin 16, p (Text.hexDigit d)) :
    ∀ c ∈ text width n, p c := by
  intro c hc
  rcases List.mem_append.1 hc with hc | hc
  · obtain ⟨i, hi, rfl⟩ := List.mem_iff_getElem.1 hc
    exact hopening ⟨i, hi⟩
  · exact Yaml.forall_mem_hexadecimal h₀ hx h width n c hc

/-- The text has no carriage returns. -/
theorem unifyLineEnds_text : Text.unifyLineEnds (text width n) = text width n :=
  Text.unifyLineEnds_of_not_mem fun h => forall_mem_text (p := (· ≠ '\r')) width n (by decide)
    (by decide) (by decide) (by decide) _ h rfl

/-- The text has no dollar signs. -/
theorem expandChars_text (environment : Environment) :
    Placeholder.expandChars environment (text width n) = text width n := by
  have hdollar : '$' ∉ text width n := fun h => forall_mem_text (p := (· ≠ '$')) width n
    (by decide) (by decide) (by decide) (by decide) _ h rfl
  exact (Placeholder.isClear_of_not_mem hdollar).expandChars environment

/-! ### Tokens -/

/-- The tokens of the text. -/
def tokens (port : List Char) : List Token :=
  [.blockSequenceStart, .blockEntry, .blockMappingStart, .key,
   .scalar (String.ofList ['t', 'e', 'a', 'm']) true, .value, .scalar (String.ofList ['a']) true,
   .key, .scalar (String.ofList ['p', 'o', 'r', 't']) true, .value,
   .scalar (String.ofList port) true, .blockEnd, .blockEnd, .streamEnd]

/-- The lexer before the port. -/
def beforePort (port : List Char) : Lexer :=
  { cursor := ⟨' ' :: port, 17, 1, 7⟩, done := ((tokens port).take 10).reverse, count := 10,
    indent := 2, outer := [0, -1], keyAllowed := false }

/-- The opening is cut into the first ten tokens, whatever port follows. -/
theorem run_opening (port : List Char) (fuel : Nat) :
    Lexer.run (fuel + 6) { cursor := ⟨opening ++ port, 0, 0, 0⟩ } =
      Lexer.run fuel (beforePort port) := by
  let start : Lexer := { cursor := ⟨opening ++ port, 0, 0, 0⟩ }
  -- what is left of the text before each token
  let atTeam := "team: a\n  port: ".toList ++ port
  let atColon := ": a\n  port: ".toList ++ port
  let atName := "a\n  port: ".toList ++ port
  let atKey := "port: ".toList ++ port
  let inList : Lexer :=
    { cursor := ⟨' ' :: atTeam, 1, 0, 1⟩, done := [.blockEntry, .blockSequenceStart], count := 2,
      indent := 0, outer := [-1] }
  let afterTeam : Lexer :=
    { inList with
      cursor := ⟨atColon, 6, 0, 6⟩
      done := .scalar (String.ofList ['t', 'e', 'a', 'm']) true :: inList.done
      count := 3
      keyAllowed := false
      candidates := [(0, ⟨2, false, 2, 0, 2⟩)] }
  let inMapping : Lexer :=
    { cursor := ⟨' ' :: atName, 7, 0, 7⟩, done := ((tokens port).take 6).reverse, count := 6,
      indent := 2, outer := [0, -1], keyAllowed := false }
  let afterName : Lexer :=
    { inMapping with
      cursor := ⟨atKey, 12, 1, 2⟩
      done := ((tokens port).take 7).reverse
      count := 7
      keyAllowed := true }
  let afterKey : Lexer :=
    { afterName with
      cursor := ⟨':' :: ' ' :: port, 16, 1, 6⟩
      done := .scalar (String.ofList ['p', 'o', 'r', 't']) true :: afterName.done
      count := 8
      keyAllowed := false
      candidates := [(0, ⟨7, true, 12, 1, 2⟩)] }
  have hentry : Lexer.run (fuel + 6) start = Lexer.run (fuel + 5) inList :=
    Lexer.run_token start rfl rfl rfl _
  have hteam : Lexer.run (fuel + 5) inList = Lexer.run (fuel + 4) afterTeam :=
    Lexer.run_plain { inList with cursor := ⟨atTeam, 2, 0, 2⟩ }
      { inList with cursor := ⟨atTeam, 2, 0, 2⟩, candidates := [(0, ⟨2, false, 2, 0, 2⟩)] }
      (p := ⟨['t', 'e', 'a', 'm'], false⟩) (c := ⟨atColon, 6, 0, 6⟩) rfl rfl rfl rfl rfl _
  have hvalue : Lexer.run (fuel + 4) afterTeam = Lexer.run (fuel + 3) inMapping :=
    Lexer.run_token afterTeam rfl rfl rfl _
  have hname : Lexer.run (fuel + 3) inMapping = Lexer.run (fuel + 2) afterName :=
    Lexer.run_plain { inMapping with cursor := ⟨atName, 8, 0, 8⟩ }
      { inMapping with cursor := ⟨atName, 8, 0, 8⟩ }
      (p := ⟨['a'], true⟩) (c := ⟨atKey, 12, 1, 2⟩) rfl rfl rfl rfl rfl _
  have hkey : Lexer.run (fuel + 2) afterName = Lexer.run (fuel + 1) afterKey :=
    Lexer.run_plain afterName { afterName with candidates := [(0, ⟨7, true, 12, 1, 2⟩)] }
      (p := ⟨['p', 'o', 'r', 't'], false⟩) (c := ⟨':' :: ' ' :: port, 16, 1, 6⟩)
      rfl rfl rfl rfl rfl _
  have hport : Lexer.run (fuel + 1) afterKey = Lexer.run fuel (beforePort port) :=
    Lexer.run_token afterKey rfl rfl rfl _
  rw [hentry, hteam, hvalue, hname, hkey, hport]

/-- **The text is cut into its tokens.** -/
theorem ofText_text : Token.ofText (text width n) = (tokens (Yaml.hexadecimal width n), none) := by
  let port := Yaml.hexadecimal width n
  let atPort : Lexer := { beforePort port with cursor := ⟨port, 18, 1, 8⟩ }
  let afterPort : Lexer :=
    { beforePort port with
      cursor := ⟨[], 18 + port.length, 1, 8 + port.length⟩
      done := .scalar (String.ofList port) true :: (beforePort port).done
      count := 11 }
  let closed : Lexer :=
    { afterPort with
      done := .blockEnd :: .blockEnd :: afterPort.done
      count := 13
      indent := -1
      outer := []
      keyAllowed := false }
  have hlength : (text width n).length + 2 = (port.length + 12 + 1) + 1 + 6 := by
    rw [text, List.length_append]
    show 18 + port.length + 2 = _
    omega
  have hport (fuel : Nat) : Lexer.run (fuel + 1) (beforePort port) = Lexer.run fuel afterPort :=
    @Lexer.run_plain _ atPort atPort '0' _ _ rfl rfl rfl rfl
      (scanPlain_word (List.cons_ne_nil _ _) (forall_mem_hexadecimal (p := (isNameChar · = true))
        (by decide) (by decide) (by decide) width n) 2 18 1 8) fuel
  have hsettle : afterPort.settle = .ok afterPort := by
    show Except.ok (Lexer.closeTo ((8 + port.length : Nat) : Int) [0, -1] afterPort) = _
    rw [Lexer.closeTo, if_neg]
    show ¬((8 + port.length : Nat) : Int) < 2
    omega
  rw [Token.ofText, hlength]
  show Lexer.run _ { cursor := ⟨opening ++ port, 0, 0, 0⟩ } = _
  rw [run_opening, hport, Lexer.run_end closed hsettle rfl rfl]
  rfl

/-! ### Nodes and values -/

/-- The nodes of the text. -/
def graph (tag : Tag) (port : List Char) : Graph :=
  ⟨#[⟨.list, .sequence [1]⟩, ⟨.mapping, .mapping [(2, 3), (4, 5)]⟩,
     ⟨.text, .scalar ['t', 'e', 'a', 'm']⟩, ⟨.text, .scalar ['a']⟩,
     ⟨.text, .scalar ['p', 'o', 'r', 't']⟩, ⟨tag, .scalar port⟩], 0, Yaml.usualDepth⟩

/-- The tokens are built into six nodes, whatever the port is. -/
theorem ofTokens_tokens (port : List Char) :
    Graph.ofTokens Yaml.usualDepth (tokens port) none = .ok (some (graph (Tag.ofPlain port) port)) := by
  have hnodes (s : String) : Graph.ofTokens Yaml.usualDepth
      [.blockSequenceStart, .blockEntry, .blockMappingStart, .key,
       .scalar (String.ofList ['t', 'e', 'a', 'm']) true, .value,
       .scalar (String.ofList ['a']) true, .key, .scalar (String.ofList ['p', 'o', 'r', 't']) true,
       .value, .scalar s true, .blockEnd, .blockEnd, .streamEnd] none =
      .ok (some (graph (Tag.ofPlain s.toList) s.toList)) := by rfl
  rw [tokens, hnodes, String.toList_ofList]

section Values

variable {port : List Char} {v : Int} (h : Yaml.Number.integer port = .ok v)
include h

/-- The port has its value. -/
theorem scalarValue?_port : (graph .int port).scalarValue? 5 = .ok (some (.int v)) := by
  show (Graph.fitting (Yaml.Number.integer port) >>= fun v =>
    (pure (some (.int v)) : Except Fault (Option Value))) = _
  rw [h]
  rfl

/-- No node of the document has a fault. -/
theorem firstFault?_graph : (graph .int port).firstFault? = .ok () := by
  let g := graph .int port
  let none_ := #[false, false, false, false, false, false]
  -- the mapping is the one node whose merge keys are looked for
  let mapping := #[false, true, false, false, false, false]
  let all : Graph.Survey := ⟨#[true, true, true, true, true, true], [], mapping⟩
  have hroot : g.make 0 false ⟨none_, [], none_⟩ =
      .ok ⟨#[true, false, false, false, false, false], [0], none_⟩ := rfl
  have hlist : g.makeParts ⟨#[true, false, false, false, false, false], [], none_⟩ 0 =
      .ok ⟨#[true, true, false, false, false, false], [1], none_⟩ := rfl
  have hport : g.make 5 false ⟨#[true, true, true, true, true, false], [], mapping⟩ = .ok all :=
    Graph.make_of_scalar (scalarValue?_port h) false rfl [] mapping
  have hteam : g.makeParts ⟨#[true, true, false, false, false, false], [], none_⟩ 1 =
      .ok all := by
    show (g.make 5 false ⟨#[true, true, true, true, true, false], [], mapping⟩ >>= pure) = _
    rw [hport]
    rfl
  have hlevels : g.makeLevels 7 ⟨#[true, false, false, false, false, false], [0], none_⟩ =
      .ok () := by
    rw [Graph.makeLevels_of_makeParts hlist, Graph.makeLevels_of_makeParts hteam]
    rfl
  show (g.make 0 false ⟨none_, [], none_⟩ >>= g.makeLevels 7) = _
  rw [hroot]
  exact hlevels

/-- **The value of the text** is a list with one mapping. -/
theorem toValue_graph : (graph .int port).toValue =
    .ok (.list [.mapping [(.text "team", .text "a"), (.text "port", .int v)]]) := by
  let g := graph .int port
  let before : Array Value := g.nodes.map fun n => Graph.emptyOf n.tag
  let team : Value := .mapping [(.text "team", .text "a"), (.text "port", .int v)]
  -- the values known before the port, and with it
  let texts : Array (Option Value) :=
    #[none, none, some (.text "team"), some (.text "a"), some (.text "port"), none]
  let entries := texts.setIfInBounds 5 (some (.int v))
  have hport : g.build 10 5 ⟨before, texts, [1, 0], false⟩ =
      (.int v, ⟨before, entries, [1, 0], false⟩) :=
    Graph.build_of_scalar (scalarValue?_port h) 9 rfl rfl
  have hentries : g.buildParts 11 1 ⟨before, Array.replicate 6 none, [1, 0], false⟩ =
      (team, ⟨before, entries, [1, 0], false⟩) := by
    let port := g.build 10 5 ⟨before, texts, [1, 0], false⟩
    show (Value.mapping [(.text "team", .text "a"), (.text "port", port.1)], port.2) = _
    rw [show port = _ from hport]
  have hteam : g.build 12 1 ⟨before, Array.replicate 6 none, [0], false⟩ =
      (team, ⟨before, entries.setIfInBounds 1 (some team), [0], false⟩) :=
    Graph.build_of_parts (k := ⟨before, Array.replicate 6 none, [0], false⟩)
      ⟨before, entries, [1, 0], false⟩ rfl rfl rfl hentries
  have hitems : g.buildParts 13 0 ⟨before, Array.replicate 6 none, [0], false⟩ =
      (.list [team], ⟨before, entries.setIfInBounds 1 (some team), [0], false⟩) := by
    let entry := g.build 12 1 ⟨before, Array.replicate 6 none, [0], false⟩
    show (Value.list [entry.1], entry.2) = _
    rw [show entry = _ from hteam]
  have hvalue : g.approach Graph.rounds before = .list [team] :=
    Graph.approach_of_build (Graph.build_of_parts
      (k := ⟨before, Array.replicate 6 none, [], false⟩) _ rfl rfl rfl hitems) rfl
  show (g.firstFault? >>= fun _ => (pure (g.approach Graph.rounds before) : Except Fault Value)) = _
  rw [firstFault?_graph h, hvalue]
  rfl

end Values

/-! ### The file -/

/-- The configuration with the one team. -/
def config : Config := { teams := [⟨n, "a", false⟩] }

/-- The path of the file. -/
def path : Path := ⟨"", [fileName]⟩

/-- A host with the file. -/
def host : Host :=
  { tree := ⟨[([fileName], .file (Text.encode (String.ofList (text width n))))]⟩ }

variable {width n} (hwidth : 0 < width) (h : n < Nat.pow 16 width)
include hwidth h

/-- **The text is read as a configuration with the port.** -/
theorem decode_text (environment : Environment) (path : Path) :
    decode Yaml.usualDepth environment path (Text.encode (String.ofList (text width n))) = .ok (config n) := by
  have hallowed : (text width n).all Yaml.isAllowed = true :=
    List.all_eq_true.2 (forall_mem_text width n (by decide) (by decide) (by decide) (by decide))
  have hread : parse Yaml.usualDepth environment (text width n) =
      .ok (.list [.mapping [(.text "team", .text "a"), (.text "port", .int n)]]) := by
    have hnodes := ofTokens_tokens (Yaml.hexadecimal width n)
    rw [Tag.ofPlain_hexadecimal hwidth] at hnodes
    rw [parse, unifyLineEnds_text, expandChars_text]
    exact Yaml.read_of_stages hallowed (ofText_text width n) hnodes
      (toValue_graph (Yaml.Number.integer_hexadecimal hwidth h))
  rw [decode, Text.encode, String.toList_ofList, Text.decodeFrom_flatMap_encodeChar]
  show ((parse Yaml.usualDepth environment (text width n)).mapError _ >>= _) = _
  rw [hread]
  rfl

/-- **Every natural number is the port of a team of some file.** -/
theorem resolve_file : (resolve (host width n) (some path)).run.value =
    .ok (config n, some path) := by
  have hfile : (host width n).tree.isFile (host width n).cwd path = .ok true := rfl
  have hoctets : (host width n).tree.octetsAt (host width n).cwd path =
      .ok (Text.encode (String.ofList (text width n))) := rfl
  rw [resolve_value, loadFrom_value, hfile, hoctets]
  show (decode Yaml.usualDepth [] path _).map _ = _
  rw [decode_text hwidth h]
  rfl

end AnyPort
end TeamFile
end LogBalancer
