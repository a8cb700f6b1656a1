import TextTemplate.Proofs.Alignment.Compiler
import TextTemplate.Proofs.Fragments.Scanner
import TextTemplate.Proofs.Grammar
import TextTemplate.Proofs.Tree

/-!
# Errors point at what they report

An error of compiling tells where it is, and what it tells of stands there in the source; so does
the name of every filter call of a compiled template (`compile_points_into_source`). The source is
aligned with itself for this, so that every span met while compiling locates its text.
-/

namespace TextTemplate

open Text (IsBoundary byteSize)

/-- What the error tells of stands at the span. For a tag that has no meaning this is what follows
the tag's name. -/
def ParseError.Cause.StandsAt (source : String) (span : Span) : ParseError.Cause → Prop
  | .lexical (.unterminatedDelimiter delimiter) =>
    span.Locates source.toList delimiter.opener.toList
  | .lexical .unterminatedString =>
    ∃ quote, Token.isQuote quote = true ∧ span.Locates source.toList [quote]
  | .lexical (.unexpectedCharacter c) => span.Locates source.toList [c]
  | .unexpectedToken _ _ text | .invalidNumber text => span.Locates source.toList text.toList
  | .unknownTag name =>
    ∃ fragments tag before, Fragment.scan source = .ok fragments ∧ tag ∈ fragments ∧
      tag.IsTag name ∧ span = tag.tagHead.span ∧
      Span.Locates ⟨before, span.start⟩ source.toList name.toList ∧
      span.Locates source.toList tag.tagHead.markup.toList
  | .unterminatedTag _ | .malformed _ => True

/-- The error has a place in the source, and what it tells of stands there. -/
structure ParseError.PointsAt (source : String) (error : ParseError) (span : Span) : Prop where
  place : error.span = some span
  ordered : span.start ≤ span.stop
  within : span.stop ≤ source.utf8ByteSize
  startBoundary : IsBoundary source.toList span.start
  stopBoundary : IsBoundary source.toList span.stop
  stands : error.cause.StandsAt source span

/-- The filter calls that a node evaluates itself. -/
def Node.calls : Node → List FilterCall
  | .object pipeline | .assign _ pipeline => pipeline.calls
  | _ => []

variable {source : String} {fragments : List Fragment} {mode : LexMode} {tags : TagTable}

/-- Where a name and the rest of the markup stand in a tag that stands in a source. -/
theorem Fragment.locates_tagHead {fragment : Fragment} {source : List Char}
    (located : fragment.span.Locates source fragment.text.toList) :
    (∃ before, Span.Locates ⟨before, fragment.tagHead.span.start⟩ source
      fragment.tagHead.name.toList) ∧
    fragment.tagHead.span.Locates source fragment.tagHead.markup.toList := by
  obtain ⟨lead, name, markup, split, head⟩ := Fragment.exists_tagHead fragment.text
  obtain ⟨before, after, same, span⟩ := located
  rw [head fragment rfl]
  have start : fragment.span.start = byteSize before := by rw [span]
  refine ⟨⟨byteSize (before ++ lead), before ++ lead, markup ++ after, ?_, ?_⟩,
    before ++ lead ++ name, after, ?_, ?_⟩
  · simp [same, split]
  · simp [TagHead.span, start, Nat.add_assoc]
  · simp [same, split]
  · simp [TagHead.span, start, ← Text.byteSize_toList, Nat.add_assoc]

namespace Alignment

/-- A source with itself: every span locates its text. -/
def ofSource (source : List Char) (fragments : List Fragment)
    (located : ∀ fragment ∈ fragments, fragment.span.Locates source fragment.text.toList) :
    Alignment where
  spans text span span' := span' = span ∧ span.Locates source text
  fragments fragment fragment' := fragment' = fragment ∧ fragment ∈ fragments
  within := by
    rintro markup text outer _ inner ⟨rfl, around⟩ within
    exact ⟨rfl, around.shift within⟩
  kind := by
    rintro fragment _ ⟨rfl, -⟩
    rfl
  text := by
    rintro fragment _ ⟨rfl, -⟩
    rfl
  span := by
    rintro fragment _ ⟨rfl, member⟩
    exact ⟨rfl, located _ member⟩

variable {a : Alignment}

theorem exists_of_mem {α : Type} {R : α → α → Prop} {values values' : List α}
    (related : List.Forall₂ R values values') {value : α} (member : value ∈ values) :
    ∃ value' ∈ values', R value value' := by
  induction related with
  | nil => cases member
  | cons here later ih =>
    rcases List.mem_cons.1 member with rfl | inLater
    · exact ⟨_, List.mem_cons_self, here⟩
    · obtain ⟨value', member', related⟩ := ih inLater
      exact ⟨value', .tail _ member', related⟩

theorem Nodes.calls {node node' : Node} (nodes : a.Nodes node node') :
    List.Forall₂ a.Calls node.calls node'.calls := by
  cases nodes with
  | object pipelines => exact pipelines.calls
  | assign name pipelines => exact pipelines.calls
  | _ => exact .nil

theorem bodies_of_sections {γ : Type} {sections sections' : List (Section γ Node)}
    (branches : List.Forall₂ (Section.Related a.Nodes) sections sections') :
    List.Forall₂ a.Bodies (sections.map Section.body) (sections'.map Section.body) := by
  induction branches with
  | nil => exact .nil
  | cons here later ih =>
    cases here with
    | mk guard bodies => exact .cons bodies ih

theorem bodies_of_last {last last' : Option (List Node)}
    (related : Option.Rel a.Bodies last last') :
    List.Forall₂ a.Bodies last.toList last'.toList := by
  cases related with
  | none => exact .nil
  | some bodies => exact .cons bodies .nil

theorem Nodes.bodies {node node' : Node} (nodes : a.Nodes node node') :
    List.Forall₂ a.Bodies node.bodies node'.bodies := by
  cases nodes with
  | cond negate branches last =>
    exact List.rel_append (bodies_of_sections branches) (bodies_of_last last)
  | case subject branches last =>
    exact List.rel_append (bodies_of_sections branches) (bodies_of_last last)
  | loop header bodies last => exact .cons bodies (bodies_of_last last)
  | capture name bodies => exact .cons bodies .nil
  | changed bodies => exact .cons bodies .nil
  | _ => exact .nil

/-- Every node within a body has its counterpart. -/
theorem exists_of_within {node : Node} {body body' : List Node} (bodies : a.Bodies body body')
    (within : Node.Within node body) : ∃ node', a.Nodes node node' := by
  induction within generalizing body' with
  | top member =>
    obtain ⟨node', -, nodes⟩ := exists_of_mem bodies member
    exact ⟨node', nodes⟩
  | nested member held within ih =>
    obtain ⟨outer', -, outer⟩ := exists_of_mem bodies member
    obtain ⟨inner', -, inner⟩ := exists_of_mem outer.bodies held
    exact ih inner

end Alignment

/-! ## Compiling -/

/-- An error whose span locates the text that its cause names. -/
theorem ParseError.pointsAt_of_locates {cause : ParseError.Cause} {span : Span} {text : List Char}
    (located : span.Locates source.toList text) (stands : cause.StandsAt source span) :
    ParseError.PointsAt source ⟨cause, some span⟩ span := by
  obtain ⟨startBoundary, stopBoundary⟩ := located.boundaries
  obtain ⟨ordered, within⟩ := located.bounds
  rw [Text.byteSize_toList] at within
  exact ⟨rfl, ordered, within, startBoundary, stopBoundary, stands⟩

theorem ParseError.standsAt_of_names {cause : ParseError.Cause} {span : Span} {text : List Char}
    (located : span.Locates source.toList text) (names : cause.Names text) :
    cause.StandsAt source span := by
  cases cause with
  | lexical cause =>
    cases cause with
    | unterminatedDelimiter delimiter =>
      cases names
      exact located
    | unterminatedString =>
      obtain ⟨quote, isQuote, rfl⟩ := names
      exact ⟨quote, isQuote, located⟩
    | unexpectedCharacter c =>
      cases names
      exact located
  | unterminatedTag => trivial
  | unexpectedToken =>
    cases names
    exact located
  | invalidNumber =>
    cases names
    exact located
  | unknownTag => cases names
  | malformed => trivial

theorem pointsAt_of_errors {error error' : ParseError}
    (scanned : Fragment.scan source = .ok fragments)
    (errors : (Alignment.ofSource source.toList fragments (Fragment.locates_of_scan scanned)).Errors
      error error') : ∃ span, error.PointsAt source span := by
  cases errors with
  | placed spans names =>
    have located := spans.2
    exact ⟨_, ParseError.pointsAt_of_locates located (ParseError.standsAt_of_names located names)⟩
  | unknownTag related isTag =>
    obtain ⟨rfl, member⟩ := related
    obtain ⟨⟨before, name⟩, markup⟩ :=
      Fragment.locates_tagHead (Fragment.locates_of_scan scanned _ member)
    exact ⟨_, ParseError.pointsAt_of_locates markup
      ⟨fragments, _, before, scanned, member, ⟨isTag, rfl⟩, rfl, name, markup⟩⟩

/-- With built-in tags, an error of compiling tells where it is, and what it tells of stands there
in the source. In a template that compiles, the span of every filter call is that of the filter's
name in the source. -/
theorem compile_points_into_source (builtIn : tags.BuiltIn) (mode : LexMode) (source : String) :
    (∀ error, compile tags mode source = .error error → ∃ span, error.PointsAt source span) ∧
    ∀ nodes, compile tags mode source = .ok nodes →
      ∀ node, Node.Within node nodes → ∀ call ∈ node.calls,
        call.span.Locates source.toList call.name.toList := by
  unfold compile
  cases scanned : Fragment.scan source with
  | error error =>
    refine ⟨?_, fun nodes compiled => nomatch compiled⟩
    rintro _ ⟨⟩
    obtain ⟨delimiter, cause, located⟩ := Fragment.opener_of_scan scanned
    rw [ParseError.ofLexError, cause]
    exact ⟨_, ParseError.pointsAt_of_locates located located⟩
  | ok fragments =>
    let itself := Alignment.ofSource source.toList fragments (Fragment.locates_of_scan scanned)
    have aligned : List.Forall₂ itself.fragments fragments fragments :=
      List.forall₂_same.2 fun fragment member => ⟨rfl, member⟩
    have outcomes : itself.Outcomes itself.Bodies (Compiler.run tags mode fragments)
        (Compiler.run tags mode fragments) := Alignment.outcomes_run builtIn aligned
    refine ⟨fun error failed => ?_, fun nodes compiled node within call member => ?_⟩
    · simp only at failed
      rw [failed] at outcomes
      cases outcomes with
      | error errors => exact pointsAt_of_errors scanned errors
    · simp only at compiled
      rw [compiled] at outcomes
      cases outcomes with
      | ok bodies =>
        obtain ⟨node', nodes⟩ := Alignment.exists_of_within bodies within
        obtain ⟨call', -, calls⟩ := Alignment.exists_of_mem nodes.calls member
        exact calls.span.2

/-- Places are counted in bytes, and some characters take more than one. -/
theorem compile_points_into_source_multibyte :
    ParseError.PointsAt "é\x7b% nope x %\x7d" ⟨.unknownTag "nope", some ⟨9, 12⟩⟩ ⟨9, 12⟩ ∧
      Span.Locates ⟨10, 14⟩ "é\x7b\x7b 'ü'|size \x7d\x7d".toList "size".toList := by
  have fails : (compile .standard .strict "é\x7b% nope x %\x7d").map (fun _ => ()) =
      .error ⟨.unknownTag "nope", some ⟨9, 12⟩⟩ := by
    decide +kernel
  have reads : ((compile .standard .strict "é\x7b\x7b 'ü'|size \x7d\x7d").toOption.bind fun nodes =>
      nodes.getLast?.bind fun node => node.calls.head?.map fun call => (call.name, call.span)) =
        some ("size", ⟨10, 14⟩) := by
    decide +kernel
  refine ⟨?_, ?_⟩
  · cases failed : compile .standard .strict "é\x7b% nope x %\x7d" with
    | ok nodes =>
      rw [failed] at fails
      cases fails
    | error error =>
      rw [failed] at fails
      cases fails
      obtain ⟨span, points⟩ :=
        (compile_points_into_source TagTable.standard_builtIn _ _).1 _ failed
      cases points.place
      exact points
  · obtain ⟨nodes, compiled, inNodes⟩ := Option.bind_eq_some_iff.1 reads
    obtain ⟨node, isLast, inNode⟩ := Option.bind_eq_some_iff.1 inNodes
    obtain ⟨call, isFirst, same⟩ := Option.map_eq_some_iff.1 inNode
    injection same with name span
    rw [← name, ← span]
    refine (compile_points_into_source TagTable.standard_builtIn .strict _).2 nodes ?_ node
      (.top (List.mem_of_getLast? isLast)) call (List.mem_of_head? isFirst)
    cases outcome : compile .standard .strict "é\x7b\x7b 'ü'|size \x7d\x7d" with
    | error error =>
      rw [outcome] at compiled
      cases compiled
    | ok body =>
      rw [outcome] at compiled
      cases compiled
      rfl

end TextTemplate
