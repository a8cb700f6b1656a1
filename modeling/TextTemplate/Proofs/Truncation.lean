import TextTemplate.Proofs.Fragments.Append
import TextTemplate.Proofs.Grammar.Soundness

/-!
# Truncated templates

Which sections of a template are open after some of its fragments can be told from the names of the
tags alone (`openSections`). As long as nothing fails, the compiler has exactly these sections open
(`Compiler.sections_of_feed`), and at the end of the source it reports the innermost one, at the tag
that began it. So if a source compiles, what stands before any of its fragments compiles just if no
section is open there, and is reported for the section that is cut otherwise
(`truncated_source_names_cut_section`).
-/

namespace TextTemplate

/-- A section that is open: the name of its block, and the span of the markup of the tag that began
the section. -/
structure OpenSection where
  block : String
  openedAt : Span
deriving DecidableEq, Repr

namespace OpenSection

/-- The tags before a text that is not read as a template. -/
def verbatimTags : List String := ["comment", "raw"]

/-- The tags that begin a block of sections. -/
def blockTags : List String := ["if", "unless", "case", "for", "capture", "ifchanged"]

/-- The tags that end a section and begin the next one of its block. -/
def sectionTags : List String := ["elsif", "when", "else"]

/-- The open sections after a tag, from those before it. The innermost one comes first. -/
def afterTag (tag : TagHead) (sections : List OpenSection) : List OpenSection :=
  let opened := if tag.name ∈ blockTags ++ verbatimTags then ⟨tag.name, tag.span⟩ :: sections
    else sections
  match sections with
  | [] => opened
  | innermost :: outer =>
    if tag.name = TagHead.endName innermost.block then outer
    else if innermost.block ∈ verbatimTags then sections
    else if tag.name ∈ sectionTags then ⟨innermost.block, tag.span⟩ :: outer
    else opened

/-- The open sections after one more fragment. -/
def after (sections : List OpenSection) (fragment : Fragment) : List OpenSection :=
  if fragment.kind = .markup .tag then afterTag fragment.tagHead sections else sections

end OpenSection

/-- The sections that are open after the fragments, the innermost first. -/
def openSections (fragments : List Fragment) : List OpenSection :=
  fragments.foldl OpenSection.after []

open OpenSection

variable {mode : LexMode} {compiler next : Compiler} {fragment : Fragment}
  {fragments before later : List Fragment} {opened : Opened} {rule : TagRule} {tag : TagHead}

/-! ## Tags by their names -/

theorem after_of_noTag {sections : List OpenSection} (noTag : fragment.kind ≠ .markup .tag) :
    after sections fragment = sections :=
  if_neg noTag

/-- No tag with a rule ends a section. -/
theorem TagTable.ends_nothing {name : String} (known : standard.get? name = some rule) :
    (∀ block, name ≠ TagHead.endName block) ∧ name ∉ sectionTags := by
  constructor
  · rintro block rfl
    rw [standard_get?_endName] at known
    cases known
  · intro isKeyword
    simp only [sectionTags, List.mem_cons, List.not_mem_nil, or_false] at isKeyword
    rcases isKeyword with rfl | rfl | rfl
    all_goals simp [standard, Table.ofList] at known

theorem afterTag_of_rule {sections : List OpenSection}
    (known : TagTable.standard.get? tag.name = some rule)
    (noVerbatim : ∀ innermost ∈ sections.head?, innermost.block ∉ verbatimTags) :
    afterTag tag sections =
      if tag.name ∈ blockTags ++ verbatimTags then ⟨tag.name, tag.span⟩ :: sections
      else sections := by
  obtain ⟨noEnd, noKeyword⟩ := TagTable.ends_nothing known
  cases sections with
  | nil => rfl
  | cons innermost outer =>
    have isRead := noVerbatim innermost rfl
    simp only [afterTag, noEnd, isRead, noKeyword, if_false]

/-- What a tag begins is told by its name. -/
theorem Opened.name_of_read (known : TagTable.standard.get? tag.name = some rule)
    (reads : rule.read mode tag = .ok opened) :
    (∃ node, opened = .node node ∧ tag.name ∉ blockTags ++ verbatimTags) ∨
      (∃ form, opened = .block form ∧ tag.name ∈ blockTags) ∨
      ∃ keep, opened = .verbatim keep ∧ tag.name ∈ verbatimTags := by
  rcases TagTable.standard_get?_eq_some known with single | ⟨negate, choice, rfl⟩ | ⟨named, rfl⟩ |
    ⟨named, rfl⟩ | ⟨named, rfl⟩ | ⟨named, rfl⟩ | ⟨named, rfl⟩ | ⟨named, rfl⟩
  · obtain ⟨node, rfl⟩ := TagRule.read_single single reads
    have name := List.mem_map_of_mem (f := Prod.fst) single
    have noBlock : ∀ name ∈ Grammar.singles.map Prod.fst, name ∉ blockTags ++ verbatimTags := by
      simp [Grammar.singles, blockTags, verbatimTags]
    exact .inl ⟨node, rfl, noBlock _ name⟩
  · obtain ⟨condition, -, rfl⟩ := bind_return_eq_ok reads
    have name := List.mem_map_of_mem (f := Prod.fst) choice
    have isBlock : ∀ name ∈ Grammar.choices.map Prod.fst, name ∈ blockTags := by
      simp [Grammar.choices, blockTags]
    exact .inr (.inl ⟨_, rfl, isBlock _ name⟩)
  · obtain ⟨subject, -, rfl⟩ := bind_return_eq_ok reads
    exact .inr (.inl ⟨_, rfl, by simp [named, blockTags]⟩)
  · obtain ⟨header, -, rfl⟩ := bind_return_eq_ok reads
    exact .inr (.inl ⟨_, rfl, by simp [named, blockTags]⟩)
  · obtain ⟨target, -, rfl⟩ := bind_return_eq_ok reads
    exact .inr (.inl ⟨_, rfl, by simp [named, blockTags]⟩)
  · cases reads
    exact .inr (.inl ⟨_, rfl, by simp [named, blockTags]⟩)
  · cases reads
    exact .inr (.inr ⟨_, rfl, by simp [named, verbatimTags]⟩)
  · cases reads
    exact .inr (.inr ⟨_, rfl, by simp [named, verbatimTags]⟩)

/-! ## The open sections of the compiler -/

namespace Compiler

/-- The sections that are open, a verbatim text being one. -/
def sections (compiler : Compiler) : List OpenSection :=
  compiler.verbatim.toList.map (fun verbatim => ⟨verbatim.tag, verbatim.openedAt⟩) ++
    compiler.blocks.map fun block => ⟨block.tag, block.openedAt⟩

/-- Verbatim texts are told from blocks by the names of their tags. -/
structure Named (compiler : Compiler) : Prop where
  verbatim : ∀ verbatim ∈ compiler.verbatim, verbatim.tag ∈ verbatimTags
  blocks : ∀ block ∈ compiler.blocks, block.tag ∉ verbatimTags

variable {nodes : List Node} {blocks : List OpenBlock} {verbatim : Verbatim}

theorem Named.noVerbatim (named : Named ⟨nodes, blocks, none⟩) :
    ∀ innermost ∈ (sections ⟨nodes, blocks, none⟩).head?, innermost.block ∉ verbatimTags := by
  intro innermost first
  obtain ⟨block, member, rfl⟩ := List.mem_map.1 (List.mem_of_head? first)
  exact named.blocks block member

theorem sections_passOver (named : Named ⟨nodes, blocks, some verbatim⟩) :
    (passOver ⟨nodes, blocks, some verbatim⟩ verbatim fragment).Named ∧
      (passOver ⟨nodes, blocks, some verbatim⟩ verbatim fragment).sections =
        after (sections ⟨nodes, blocks, some verbatim⟩) fragment := by
  by_cases closes : fragment.closes verbatim.tag = true
  · obtain ⟨isTag, isEnd⟩ := Fragment.closes_iff.1 closes
    simp only [passOver, closes, if_true]
    constructor
    · exact ⟨by simp [push], named.blocks⟩
    · simp [push, sections, after, isTag, afterTag, isEnd]
  · have isVerbatim := named.verbatim verbatim rfl
    simp only [passOver, if_neg closes]
    constructor
    · refine ⟨?_, named.blocks⟩
      rintro _ ⟨⟩
      exact isVerbatim
    · by_cases isTag : fragment.kind = .markup .tag
      · have noEnd : fragment.tagHead.name ≠ TagHead.endName verbatim.tag := by
          intro isEnd
          exact closes (Fragment.closes_iff.2 ⟨isTag, isEnd⟩)
        simp [sections, after, isTag, afterTag, noEnd, isVerbatim]
      · rw [after_of_noTag isTag]
        rfl

theorem sections_openTag (named : Named ⟨nodes, blocks, none⟩)
    (known : TagTable.standard.get? tag.name = some rule)
    (reads : rule.read mode tag = .ok opened) :
    (openTag ⟨nodes, blocks, none⟩ tag opened).Named ∧
      (openTag ⟨nodes, blocks, none⟩ tag opened).sections =
        afterTag tag (sections ⟨nodes, blocks, none⟩) := by
  rw [afterTag_of_rule known named.noVerbatim]
  rcases Opened.name_of_read known reads with ⟨node, rfl, noBlock⟩ | ⟨form, rfl, isBlock⟩ |
    ⟨keep, rfl, isVerbatim⟩
  · rw [if_neg noBlock]
    exact ⟨⟨named.verbatim, named.blocks⟩, rfl⟩
  · rw [if_pos (List.mem_append_left _ isBlock)]
    refine ⟨⟨named.verbatim, ?_⟩, rfl⟩
    intro block member
    rcases List.mem_cons.1 member with rfl | inner
    · have apart : ∀ name ∈ blockTags, name ∉ verbatimTags := by
        simp [blockTags, verbatimTags]
      exact apart _ isBlock
    · exact named.blocks block inner
  · rw [if_pos (List.mem_append_right _ isVerbatim)]
    refine ⟨⟨?_, named.blocks⟩, rfl⟩
    rintro verbatim ⟨⟩
    exact isVerbatim

theorem sections_endBody (named : Named ⟨nodes, blocks, none⟩)
    (ended : endBody ⟨nodes, blocks, none⟩ mode tag = .ok next) :
    next.Named ∧ next.sections = afterTag tag (sections ⟨nodes, blocks, none⟩) := by
  cases blocks with
  | nil => cases ended
  | cons block blocks =>
    cases check : BodyEnd.check (.block block.tag block.form.keywords block.openedAt)
        (some tag) with
    | error error =>
      simp only [endBody, bodyEnd, check] at ended
      cases ended
    | ok found =>
      simp only [endBody, bodyEnd, check] at ended
      by_cases isEnd : tag.name = TagHead.endName block.tag
      · rw [if_pos isEnd] at ended
        cases ended
        constructor
        · exact ⟨named.verbatim, fun inner member => named.blocks inner (.tail _ member)⟩
        · simp [sections, afterTag, isEnd]
      · rw [if_neg isEnd] at ended
        have isKeyword := (BodyEnd.check_block.1 check).resolve_left isEnd
        obtain ⟨form, -, rfl⟩ := bind_return_eq_ok ended
        have isSection : tag.name ∈ sectionTags := block.form.keywords_subset isKeyword
        have isRead := named.blocks block List.mem_cons_self
        constructor
        · refine ⟨named.verbatim, ?_⟩
          intro inner member
          rcases List.mem_cons.1 member with rfl | later
          · exact isRead
          · exact named.blocks inner (.tail _ later)
        · simp [sections, afterTag, isEnd, isRead, isSection]

theorem sections_step (named : compiler.Named)
    (step : compiler.step .standard mode fragment = .ok next) :
    next.Named ∧ next.sections = after compiler.sections fragment := by
  obtain ⟨nodes, blocks, verbatim⟩ := compiler
  cases verbatim with
  | some verbatim =>
    cases step
    exact sections_passOver named
  | none =>
    cases kind : fragment.kind with
    | text =>
      simp only [Compiler.step, kind] at step
      cases step
      rw [after_of_noTag (by simp [kind])]
      exact ⟨⟨named.verbatim, named.blocks⟩, rfl⟩
    | markup delimiter =>
      cases delimiter with
      | object =>
        simp only [Compiler.step, kind] at step
        obtain ⟨pipeline, -, rfl⟩ := bind_return_eq_ok step
        rw [after_of_noTag (by simp [kind])]
        exact ⟨⟨named.verbatim, named.blocks⟩, rfl⟩
      | tag =>
        rw [after, if_pos kind]
        cases known : TagTable.standard.get? fragment.tagHead.name with
        | none =>
          simp only [Compiler.step, kind, known] at step
          exact sections_endBody named step
        | some rule =>
          simp only [Compiler.step, kind, known] at step
          obtain ⟨opened, reads, rfl⟩ := bind_return_eq_ok step
          exact sections_openTag named known reads

theorem sections_feed (named : compiler.Named) (fed : compiler.feed mode fragments = .ok next) :
    next.sections = fragments.foldl after compiler.sections := by
  induction fragments generalizing compiler with
  | nil =>
    cases fed
    rfl
  | cons fragment fragments ih =>
    obtain ⟨middle, step, fed⟩ := feed_cons_eq_ok fed
    obtain ⟨namedMiddle, opened⟩ := sections_step named step
    rw [ih namedMiddle fed, opened]
    rfl

theorem feed_append_eq_ok (fed : compiler.feed mode (before ++ later) = .ok next) :
    ∃ middle, compiler.feed mode before = .ok middle := by
  unfold feed at fed ⊢
  rw [List.foldlM_append] at fed
  cases first : before.foldlM (step .standard mode) compiler with
  | error error =>
    rw [first] at fed
    cases fed
  | ok middle => exact ⟨middle, rfl⟩

/-- At the end of the source the innermost section that is open is reported. -/
theorem finish_eq (compiler : Compiler) :
    compiler.finish =
      match compiler.sections with
      | [] => .ok compiler.body
      | innermost :: _ => .error ⟨.unterminatedTag innermost.block, some innermost.openedAt⟩ := by
  obtain ⟨nodes, blocks, verbatim⟩ := compiler
  cases verbatim with
  | some verbatim => rfl
  | none =>
    cases blocks with
    | nil => rfl
    | cons block blocks => rfl

theorem named_start : start.Named := by
  constructor
  · simp [start]
  · simp [start]

/-- Of the fragments of a template the first ones compile just if they leave no section open. -/
theorem run_of_append {nodes : List Node}
    (ran : run .standard mode (before ++ later) = .ok nodes) :
    ∃ body, run .standard mode before =
      match openSections before with
      | [] => .ok body
      | innermost :: _ => .error ⟨.unterminatedTag innermost.block, some innermost.openedAt⟩ := by
  rw [run_eq_feed] at ran
  cases fed : feed mode start (before ++ later) with
  | error error =>
    rw [fed] at ran
    cases ran
  | ok last =>
    obtain ⟨middle, fedBefore⟩ := feed_append_eq_ok fed
    have opened : middle.sections = openSections before := sections_feed named_start fedBefore
    refine ⟨middle.body, ?_⟩
    rw [run_eq_feed, fedBefore, ← opened]
    exact finish_eq middle

end Compiler

/-! ## Fragments before others -/

namespace Fragment

theorem place_place (start other : Nat) (fragments : List Fragment) :
    place start (place other fragments) = place start fragments := by
  induction fragments generalizing start other with
  | nil => rfl
  | cons fragment rest ih => exact congrArg (_ :: ·) (ih _ _)

theorem length_place (start : Nat) (fragments : List Fragment) :
    (place start fragments).length = fragments.length := by
  have same := congrArg List.length (map_place start fragments)
  simpa using same

/-- A text is plain before nothing if it is before anything. -/
theorem Plain.alone {text after : List Char} (plain : Plain text after) : Plain text [] := by
  intro delimiter rest ends occurs leads
  rw [List.append_nil] at leads
  exact plain delimiter rest ends occurs (leads.trans (List.prefix_append _ _))

/-- The first fragments of a source, written out, are scanned as they were. -/
theorem scan_before {source : String} (scanned : scan source = .ok (before ++ later)) :
    scan (String.join (before.map sourceText)) = .ok before := by
  obtain ⟨parts, wellFormed, -, same⟩ := scan_eq_ok scanned
  have placed : place 0 (before ++ later) = before ++ later := by
    rw [same, place_place]
  rw [← wellFormed_place 0, ← same] at wellFormed
  obtain ⟨first, -, -⟩ := wellFormed_append.1 wellFormed
  have alone : WellFormed [] before := by
    apply first.followedBy
    intro last isLast isText plain
    exact plain.alone
  have stays : place 0 before = before := by
    rw [place_append] at placed
    exact (List.append_inj placed (length_place 0 before)).1
  have rescanned := scan_written alone _ (toList_join_sourceText before)
  rwa [stays] at rescanned

end Fragment

/-- If a source compiles, its first fragments, written out, compile if no section is open after
them. Otherwise the innermost block that is open is reported as unterminated, at the markup of the
tag that began its last section. -/
theorem truncated_source_names_cut_section {source : String} {nodes : List Node}
    (scanned : Fragment.scan source = .ok (before ++ later))
    (compiled : compile .standard mode source = .ok nodes) :
    let truncated := String.join (before.map Fragment.sourceText)
    (∀ innermost outer, openSections before = innermost :: outer →
      compile .standard mode truncated =
        .error ⟨.unterminatedTag innermost.block, some innermost.openedAt⟩) ∧
    (openSections before = [] → ∃ body, compile .standard mode truncated = .ok body) := by
  intro truncated
  unfold compile at compiled ⊢
  rw [scanned] at compiled
  rw [Fragment.scan_before scanned]
  obtain ⟨body, ran⟩ := Compiler.run_of_append compiled
  constructor
  · intro innermost outer cut
    rw [cut] at ran
    exact ran
  · intro closed
    rw [closed] at ran
    exact ⟨body, ran⟩

/-- The template is cut in the last section of a loop within a choice. -/
theorem truncated_source_names_cut_section_else :
    compile .standard .strict "\x7b% if a %\x7d\x7b% for x in b %\x7d\x7b% else %\x7dy" =
      .error ⟨.unterminatedTag "for", some ⟨33, 34⟩⟩ := by
  let source := "\x7b% if a %\x7d\x7b% for x in b %\x7d\x7b% else %\x7dy" ++
    "\x7b% endfor %\x7d\x7b% endif %\x7d"
  let before : List Fragment := [⟨.markup .tag, " if a ", ⟨2, 8⟩⟩,
    ⟨.markup .tag, " for x in b ", ⟨12, 24⟩⟩, ⟨.markup .tag, " else ", ⟨28, 34⟩⟩,
    ⟨.text, "y", ⟨36, 37⟩⟩]
  have scanned : Fragment.scan source = .ok (before ++ [⟨.markup .tag, " endfor ", ⟨39, 47⟩⟩,
      ⟨.markup .tag, " endif ", ⟨51, 58⟩⟩]) := by
    decide +kernel
  have accepted : (compile .standard .strict source).isOk = true := by
    decide +kernel
  cases compiled : compile .standard .strict source with
  | error error =>
    rw [compiled] at accepted
    cases accepted
  | ok nodes =>
    have opened : openSections before = [⟨"for", ⟨33, 34⟩⟩, ⟨"if", ⟨5, 8⟩⟩] := by decide
    exact (truncated_source_names_cut_section scanned compiled).1 _ _ opened

end TextTemplate
