import TextTemplate.Engine
import TextTemplate.Proofs.Fragments.Append
import TextTemplate.Proofs.Grammar.Completeness
import TextTemplate.Proofs.Tiling

/-!
# Verbatim texts

What stands between a `raw` or `comment` tag and its end tag is cut into fragments and not read
any further. The fragments are those that the text has alone, with the two tags around them
(`Fragment.scan_enclose`), and putting them back together gives the text. So such a template is one
node whatever the text holds (`verbatim_text_is_one_node`).
-/

namespace TextTemplate

open Text (FreeOf)

/-- The source between a tag called `name` and the tag that ends its block. -/
def enclose (name source : String) : String :=
  "\x7b% " ++ name ++ " %\x7d" ++ source ++ "\x7b% " ++ TagHead.endName name ++ " %\x7d"

theorem Text.freeOf_of_not_mem {a : Char} {pattern text after : List Char} (absent : a ∉ text) :
    FreeOf (a :: pattern) text after := by
  intro rest ends occurs leads
  obtain ⟨c, rest, rfl⟩ := List.exists_cons_of_ne_nil occurs
  obtain ⟨more, same⟩ := leads
  injection same with first
  subst first
  exact absent (ends.subset List.mem_cons_self)

namespace Fragment

variable {name source : String} {parts fragments : List Fragment} {fragment : Fragment}

/-- A tag with a blank on both sides of its name. -/
def ofTag (name : String) : Fragment :=
  ⟨.markup .tag, " " ++ name ++ " ", .nowhere⟩

theorem toList_ofTag (name : String) :
    (ofTag name).sourceText.toList = '{' :: '%' :: ' ' :: (name.toList ++ [' ', '%', '}']) := by
  simp [sourceText, ofTag, Delimiter.opener, Delimiter.closer]

theorem isBlank_of_isNameChar {c : Char} (isName : isNameChar c = true) :
    Text.isBlank c = false := by
  apply Token.isBlank_of_isWordChar
  unfold isNameChar at isName
  unfold Token.isWordChar
  rw [isName, Bool.true_or]

theorem isTag_ofTag (isName : ∀ c ∈ name.toList, isNameChar c = true) :
    (ofTag name).IsTag name := by
  have taken : (name.toList ++ [' ']).takeWhile isNameChar = name.toList := by
    apply Token.takeWhile_append_of_stops isName
    rintro c ⟨⟩
    rfl
  have named : ((ofTag name).text.toList.dropWhile Text.isBlank).takeWhile isNameChar =
      name.toList := by
    have text : (ofTag name).text.toList = ' ' :: (name.toList ++ [' ']) := by simp [ofTag]
    have space : Text.isBlank ' ' = true := rfl
    rw [text, List.dropWhile_cons_of_pos space]
    cases chars : name.toList with
    | nil => rfl
    | cons c cs =>
      have solid := isBlank_of_isNameChar (isName c (by simp [chars]))
      rw [List.cons_append, List.dropWhile_cons_of_neg (by simp [solid]), ← List.cons_append,
        ← chars, taken]
  refine ⟨rfl, ?_⟩
  unfold tagHead
  simp only [named, String.ofList_toList]

theorem wellFormed_ofTag {after : List Char} (isName : ∀ c ∈ name.toList, isNameChar c = true)
    (goesOn : WellFormed after fragments) : WellFormed after (ofTag name :: fragments) := by
  refine ⟨?_, goesOn⟩
  show FreeOf Delimiter.tag.closer.toList (" " ++ name ++ " ").toList _
  rw [Delimiter.closer_toList]
  apply Text.freeOf_of_not_mem
  intro percent
  have inName : '%' ∈ name.toList := by simpa [Delimiter.closerHead] using percent
  exact absurd (isName '%' inName) (by decide)

/-- A source within a tag and its end tag is scanned as it is alone, unless it ends in a text whose
last character makes an opening delimiter with the end tag. -/
theorem scan_enclose (isName : ∀ c ∈ name.toList, isNameChar c = true)
    (scanned : scan source = .ok fragments)
    (ends : ∀ last ∈ fragments.getLast?, last.kind = .text →
      last.text.toList.getLast? ≠ some '{') :
    ∃ opening closing offset,
      scan (enclose name source) =
        .ok (opening :: fragments.map (·.shift offset) ++ [closing]) ∧
      opening.IsTag name ∧ closing.IsTag (TagHead.endName name) := by
  have isEndName : ∀ c ∈ (TagHead.endName name).toList, isNameChar c = true := by
    intro c member
    simp only [TagHead.endName, String.toList_append, List.mem_append] at member
    rcases member with inEnd | inName
    · have all : "end".toList.all isNameChar = true := rfl
      exact List.all_eq_true.1 all c inEnd
    · exact isName c inName
  obtain ⟨parts, wellFormed, same, rfl⟩ := scan_eq_ok scanned
  let closing := ofTag (TagHead.endName name)
  have followed : WellFormed closing.kind.opening parts := by
    apply wellFormed.followedBy
    intro last isLast isText plain
    apply plain_of_apart plain
    intro brace
    obtain ⟨front, rfl⟩ := List.getLast?_eq_some_iff.1 isLast
    rw [place_append, place, place] at ends
    have noBrace := ends _ List.getLast?_concat
    exact absurd brace (noBrace isText)
  have allWellFormed : WellFormed [] (ofTag name :: (parts ++ [closing])) := by
    apply wellFormed_ofTag isName
    refine wellFormed_append.2 ⟨followed, wellFormed_ofTag isEndName trivial, ?_⟩
    rintro ⟨-, isText⟩
    cases isText
  have writes : (enclose name source).toList = written (ofTag name :: (parts ++ [closing])) := by
    simp [enclose, closing, toList_ofTag, same]
  have scannedAll := scan_written allWellFormed (enclose name source) writes
  rw [place, place_append, place_shift] at scannedAll
  exact ⟨_, _, _, scannedAll, isTag_ofTag isName, isTag_ofTag isEndName⟩

theorem join_map_shift (fragments : List Fragment) (offset : Nat) :
    String.join ((fragments.map (·.shift offset)).map sourceText) =
      String.join (fragments.map sourceText) := by
  rw [List.map_map]
  rfl

theorem join_of_scan (scanned : scan source = .ok fragments) :
    String.join (fragments.map sourceText) = source := by
  obtain ⟨parts, -, same, rfl⟩ := scan_eq_ok scanned
  rw [← String.toList_inj, toList_join_sourceText, written_place, same]

end Fragment

open Grammar

section

variable {source name : String} {fragments : List Fragment} {mode : LexMode} {node : Node}

/-- A source between two tags is one node if it is so for whatever fragments stand there. -/
theorem compile_enclose (isName : ∀ c ∈ name.toList, Fragment.isNameChar c = true)
    (scanned : Fragment.scan source = .ok fragments)
    (ends : ∀ last ∈ fragments.getLast?, last.kind = .text →
      last.text.toList.getLast? ≠ some '{')
    (inside : ∀ fragment ∈ fragments, ¬ fragment.IsTag (TagHead.endName name))
    (item : ∀ opening closing inner, opening.IsTag name →
      (∀ fragment ∈ inner, ¬ fragment.IsTag (TagHead.endName name)) →
      closing.IsTag (TagHead.endName name) →
      String.join (inner.map Fragment.sourceText) = source →
      Item mode (opening :: inner ++ [closing]) node) :
    compile .standard mode (enclose name source) = .ok [node] := by
  obtain ⟨opening, closing, offset, scannedAll, opens, closes⟩ :=
    Fragment.scan_enclose isName scanned ends
  have insideShifted : ∀ fragment ∈ fragments.map (·.shift offset),
      ¬ fragment.IsTag (TagHead.endName name) := by
    intro fragment member
    obtain ⟨part, inFragments, rfl⟩ := List.mem_map.1 member
    exact inside part inFragments
  have joined :
      String.join ((fragments.map (·.shift offset)).map Fragment.sourceText) = source := by
    rw [Fragment.join_map_shift, Fragment.join_of_scan scanned]
  have body : Body mode (opening :: fragments.map (·.shift offset) ++ [closing]) [node] :=
    .snoc .nil (item _ _ _ opens insideShifted closes joined)
  unfold compile
  rw [scannedAll]
  exact Compiler.run_of_body body

/-- A template of one node that only writes a text. -/
theorem compileAndRender_of_node (config : Config) {text : String} {root : Data}
    {drops : DropStore} (compiled : compile config.tags config.mode source = .ok [node])
    (renders : node.render config.filters = return text) :
    Template.compileAndRender config source root drops = ⟨.ok text, root, drops⟩ := by
  have run : (Node.renderBody config.filters "" [node]).run (.start root drops) =
      .ok text (.start root drops) := by
    rw [Node.renderBody, renders]
    show EStateM.Result.ok ("" ++ text) _ = _
    rw [String.empty_append]
  unfold Template.compileAndRender Template.compile
  simp only [compiled, Template.render, run]
  rfl

end

/-- A source between a `raw` tag and its end tag compiles to its own text and is rendered as it
stands, and one between a `comment` tag and its end tag compiles to a node that renders to nothing.
The source has to be cut into fragments, none of which is the end tag, and must not make a delimiter
with the end tag; whether its markup can be read does not matter. -/
theorem verbatim_text_is_one_node {source : String} {fragments : List Fragment}
    (scanned : Fragment.scan source = .ok fragments)
    (ends : ∀ last ∈ fragments.getLast?, last.kind = .text →
      last.text.toList.getLast? ≠ some '{') (mode : LexMode) :
    ((∀ fragment ∈ fragments, ¬ fragment.IsTag "endraw") →
      compile .standard mode (enclose "raw" source) = .ok [.text source] ∧
      ∀ filters root drops,
        Template.compileAndRender ⟨.standard, filters, mode⟩ (enclose "raw" source) root drops =
          ⟨.ok source, root, drops⟩) ∧
    ((∀ fragment ∈ fragments, ¬ fragment.IsTag "endcomment") →
      compile .standard mode (enclose "comment" source) = .ok [.comment] ∧
      ∀ filters root drops,
        Template.compileAndRender ⟨.standard, filters, mode⟩ (enclose "comment" source) root
          drops = ⟨.ok "", root, drops⟩) := by
  constructor
  · intro inside
    change ∀ fragment ∈ fragments, ¬ fragment.IsTag (TagHead.endName "raw") at inside
    have compiled : compile .standard mode (enclose "raw" source) = .ok [.text source] := by
      have isName : ∀ c ∈ "raw".toList, Fragment.isNameChar c = true := List.all_eq_true.1 rfl
      apply compile_enclose isName scanned ends inside
      rintro opening closing inner opens free closes rfl
      exact .raw opens free closes
    refine ⟨compiled, ?_⟩
    intro filters root drops
    apply compileAndRender_of_node ⟨.standard, filters, mode⟩ compiled
    rw [Node.render]
  · intro inside
    change ∀ fragment ∈ fragments, ¬ fragment.IsTag (TagHead.endName "comment") at inside
    have compiled : compile .standard mode (enclose "comment" source) = .ok [.comment] := by
      have isName : ∀ c ∈ "comment".toList, Fragment.isNameChar c = true :=
        List.all_eq_true.1 rfl
      apply compile_enclose isName scanned ends inside
      intro opening closing inner opens free closes joined
      exact .comment opens free closes
    refine ⟨compiled, ?_⟩
    intro filters root drops
    apply compileAndRender_of_node ⟨.standard, filters, mode⟩ compiled
    rw [Node.render]

/-- An unterminated string, an end tag without a block and a `comment` that is never closed. -/
theorem verbatim_text_is_one_node_unreadable :
    let source := "a\x7b% raw %\x7d\x7b\x7b 'é \x7d\x7d\x7b% endif @ %\x7d\x7b% comment %\x7d"
    compile .standard .strict (enclose "raw" source) = .ok [.text source] ∧
      compile .standard .strict (enclose "comment" source) = .ok [.comment] := by
  intro source
  have scanned : Fragment.scan source = .ok [⟨.text, "a", ⟨0, 1⟩⟩, ⟨.markup .tag, " raw ", ⟨3, 8⟩⟩,
      ⟨.markup .object, " 'é ", ⟨12, 17⟩⟩, ⟨.markup .tag, " endif @ ", ⟨21, 30⟩⟩,
      ⟨.markup .tag, " comment ", ⟨34, 43⟩⟩] := by
    decide +kernel
  have oneNode := verbatim_text_is_one_node scanned (by simp) .strict
  exact ⟨(oneNode.1 (by decide)).1, (oneNode.2 (by decide)).1⟩

end TextTemplate
