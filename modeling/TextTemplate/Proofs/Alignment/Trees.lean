import TextTemplate.Compile
import TextTemplate.Proofs.Alignment.Parsers

/-!
# What tags and objects are read as

Markup at corresponding places is read as the same, but for the places of filter calls
(`Alignment.outcomes_read`). The nodes and the blocks that it begins are related by `Nodes` and
`Forms`, and a block that is closed, or goes on with another section, stays related.
-/

namespace TextTemplate

/-- Sections with one guard and related bodies. -/
inductive Section.Related {γ ν : Type} (R : ν → ν → Prop) : Section γ ν → Section γ ν → Prop
  | mk (guard : γ) {body body' : List ν} (bodies : List.Forall₂ R body body') :
      Related R ⟨guard, body⟩ ⟨guard, body'⟩

/-- What the text of a tag consists of. -/
theorem Fragment.exists_tagHead (text : String) :
    ∃ lead name markup : List Char, text.toList = lead ++ name ++ markup ∧
      ∀ fragment : Fragment, fragment.text = text → fragment.tagHead =
        ⟨String.ofList name, String.ofList markup,
          fragment.span.start + Text.byteSize lead + Text.byteSize name⟩ := by
  refine ⟨_, _, _, ?_, fun fragment same => by rw [tagHead, same]⟩
  rw [List.append_assoc, List.takeWhile_append_dropWhile, List.takeWhile_append_dropWhile]

namespace Alignment

variable {a : Alignment} {α β : Type} {V : α → α → Prop} {W : β → β → Prop} {mode : LexMode}

/-! ## Reading markup -/

theorem outcomes_bind {first first' : Except ParseError α} {next next' : α → Except ParseError β}
    (outcomes : a.Outcomes V first first')
    (later : ∀ value value', V value value' → a.Outcomes W (next value) (next' value')) :
    a.Outcomes W (first >>= next) (first' >>= next') := by
  cases outcomes with
  | ok values => exact later _ _ values
  | error errors => exact .error errors

/-- What is read is the same at both places. -/
theorem outcomes_bind_eq {first first' : Except ParseError α} {next next' : α → Except ParseError β}
    (outcomes : a.Outcomes Eq first first')
    (later : ∀ value, a.Outcomes W (next value) (next' value)) :
    a.Outcomes W (first >>= next) (first' >>= next') := by
  refine outcomes_bind outcomes ?_
  rintro value _ rfl
  exact later value

theorem Outcomes.mono {U : α → α → Prop} {outcome outcome' : Except ParseError α}
    (outcomes : a.Outcomes U outcome outcome')
    (weaker : ∀ value value', U value value' → V value value') :
    a.Outcomes V outcome outcome' := by
  cases outcomes with
  | ok values => exact .ok (weaker _ _ values)
  | error errors => exact .error errors

theorem outcomes_result {parser parser' : Parser α} {cursor cursor' : Cursor}
    (results : a.Results V (parser.run cursor) (parser'.run cursor')) :
    a.Outcomes V (parser.result cursor) (parser'.result cursor') := by
  unfold Parser.result
  generalize parser.run cursor = result at results
  generalize parser'.run cursor' = result' at results
  cases results with
  | ok values => exact .ok values
  | error errors => exact .error errors

theorem names_strayCause (c : Char) :
    ParseError.Cause.Names (.lexical (Token.strayCause c)) [c] := by
  unfold Token.strayCause
  split
  case isTrue quote => exact ⟨c, quote, rfl⟩
  case isFalse => rfl

theorem outcomes_ofMarkup {markup : String} {span span' : Span}
    (spans : a.spans markup.toList span span') :
    a.Outcomes a.Cursors (Cursor.ofMarkup mode markup span.start)
      (Cursor.ofMarkup mode markup span'.start) := by
  unfold Cursor.ofMarkup
  cases lexed : Token.lex mode markup with
  | error error =>
    obtain ⟨c, cause, located⟩ := Token.stray_of_lex lexed
    refine .error (.placed (a.within spans located) ?_)
    rw [LexError.shift, cause]
    exact names_strayCause c
  | ok tokens =>
    have aligned : ∀ token ∈ tokens, a.Tokens span.start span'.start token token :=
      fun token member => ⟨rfl, rfl, a.within spans (Token.locates_of_lex lexed token member)⟩
    obtain ⟨front, rfl, -⟩ := Token.tiles_of_lex lexed
    have closed : Cursor.closeTokens (front ++ [.ending (Token.trimmedSpan markup).stop]) =
        front ++ [.ending (Token.trimmedSpan markup).stop] := by
      simp [Cursor.closeTokens, Token.ending]
    have related := List.forall₂_same.2 aligned
    obtain ⟨first, later, shape⟩ := List.exists_cons_of_ne_nil
      (List.append_ne_nil_of_right_ne_nil front (List.cons_ne_nil (Token.ending _) []))
    simp only [Cursor.ofTokens, closed]
    rw [shape] at related ⊢
    cases related with
    | cons here after => exact .ok ⟨here, after⟩

/-- Tags with one name and one markup at corresponding places. -/
structure Heads (a : Alignment) (tag tag' : TagHead) : Prop where
  name : tag'.name = tag.name
  markup : tag'.markup = tag.markup
  span : a.spans tag.markup.toList tag.span tag'.span

theorem outcomes_read {tag tag' : TagHead} {parser parser' : Parser α} (heads : a.Heads tag tag')
    (agree : a.Agree V parser parser') :
    a.Outcomes V (tag.read mode parser) (tag'.read mode parser') := by
  unfold TagHead.read
  rw [heads.markup]
  exact outcomes_bind (outcomes_ofMarkup heads.span) fun cursor cursor' cursors =>
    outcomes_result (agree cursor cursor' cursors)

theorem heads_of_fragments {fragment fragment' : Fragment}
    (fragments : a.fragments fragment fragment') : a.Heads fragment.tagHead fragment'.tagHead := by
  obtain ⟨lead, name, markup, split, head⟩ := Fragment.exists_tagHead fragment.text
  rw [head fragment rfl, head fragment' (a.text fragments)]
  refine ⟨rfl, rfl, ?_⟩
  have located : Span.Locates ⟨Text.byteSize (lead ++ name),
      Text.byteSize (lead ++ name) + Text.byteSize markup⟩ fragment.text.toList markup :=
    ⟨lead ++ name, [], by rw [split, List.append_nil], rfl⟩
  have spans := a.within (a.span fragments) located
  simpa [TagHead.span, Span.shift, ← Text.byteSize_toList, Nat.add_comm, Nat.add_left_comm,
    Nat.add_assoc] using spans

/-- A part of the markup of corresponding tags. -/
theorem Heads.part {tag tag' : TagHead} (heads : a.Heads tag tag') (before part after : List Char)
    (split : tag.markup.toList = before ++ part ++ after) :
    a.Heads ⟨tag.name, String.ofList part, tag.offset + Text.byteSize before⟩
      ⟨tag.name, String.ofList part, tag'.offset + Text.byteSize before⟩ := by
  refine ⟨rfl, rfl, ?_⟩
  have spans := a.within heads.span ⟨before, after, split, rfl⟩
  simpa [TagHead.span, Span.shift, ← Text.byteSize_toList, Nat.add_comm, Nat.add_left_comm,
    Nat.add_assoc] using spans

/-! ## Trees -/

/-- Trees that differ in the places of filter calls only. -/
inductive Nodes (a : Alignment) : Node → Node → Prop
  | text (text : String) : Nodes a (.text text) (.text text)
  | object {pipeline pipeline' : Pipeline} (pipelines : a.Pipelines pipeline pipeline') :
      Nodes a (.object pipeline) (.object pipeline')
  | cond (negate : Bool) {sections sections' : List (Section Condition Node)}
      {otherwise otherwise' : Option (List Node)}
      (branches : List.Forall₂ (Section.Related (Nodes a)) sections sections')
      (last : Option.Rel (List.Forall₂ (Nodes a)) otherwise otherwise') :
      Nodes a (.cond negate sections otherwise) (.cond negate sections' otherwise')
  | case (subject : Expr) {sections sections' : List (Section (List Expr) Node)}
      {otherwise otherwise' : Option (List Node)}
      (branches : List.Forall₂ (Section.Related (Nodes a)) sections sections')
      (last : Option.Rel (List.Forall₂ (Nodes a)) otherwise otherwise') :
      Nodes a (.case subject sections otherwise) (.case subject sections' otherwise')
  | loop (header : LoopHeader) {body body' : List Node} {otherwise otherwise' : Option (List Node)}
      (bodies : List.Forall₂ (Nodes a) body body')
      (last : Option.Rel (List.Forall₂ (Nodes a)) otherwise otherwise') :
      Nodes a (.loop header body otherwise) (.loop header body' otherwise')
  | cycle (cycle : Cycle) : Nodes a (.cycle cycle) (.cycle cycle)
  | assign (name : String) {pipeline pipeline' : Pipeline}
      (pipelines : a.Pipelines pipeline pipeline') :
      Nodes a (.assign name pipeline) (.assign name pipeline')
  | capture (name : String) {body body' : List Node} (bodies : List.Forall₂ (Nodes a) body body') :
      Nodes a (.capture name body) (.capture name body')
  | increment (name : String) : Nodes a (.increment name) (.increment name)
  | decrement (name : String) : Nodes a (.decrement name) (.decrement name)
  | changed {body body' : List Node} (bodies : List.Forall₂ (Nodes a) body body') :
      Nodes a (.changed body) (.changed body')
  | comment : Nodes a .comment .comment
  | interrupt (interrupt : Interrupt) : Nodes a (.interrupt interrupt) (.interrupt interrupt)

/-- Bodies that differ in the places of filter calls only. -/
abbrev Bodies (a : Alignment) : List Node → List Node → Prop :=
  List.Forall₂ a.Nodes

/-- Blocks of one form whose bodies so far are related. -/
inductive Forms (a : Alignment) : BlockForm → BlockForm → Prop
  | cond (negate : Bool) {done done' : List (Section Condition Node)}
      (branches : List.Forall₂ (Section.Related a.Nodes) done done') (condition : Condition) :
      Forms a (.cond negate done condition) (.cond negate done' condition)
  | condElse (negate : Bool) {done done' : List (Section Condition Node)}
      (branches : List.Forall₂ (Section.Related a.Nodes) done done') :
      Forms a (.condElse negate done) (.condElse negate done')
  | caseHead (subject : Expr) : Forms a (.caseHead subject) (.caseHead subject)
  | caseWhen (subject : Expr) {done done' : List (Section (List Expr) Node)}
      (branches : List.Forall₂ (Section.Related a.Nodes) done done') (values : List Expr) :
      Forms a (.caseWhen subject done values) (.caseWhen subject done' values)
  | caseElse (subject : Expr) {done done' : List (Section (List Expr) Node)}
      (branches : List.Forall₂ (Section.Related a.Nodes) done done') :
      Forms a (.caseElse subject done) (.caseElse subject done')
  | loop (header : LoopHeader) : Forms a (.loop header) (.loop header)
  | loopElse (header : LoopHeader) {body body' : List Node} (bodies : a.Bodies body body') :
      Forms a (.loopElse header body) (.loopElse header body')
  | capture (name : String) : Forms a (.capture name) (.capture name)
  | changed : Forms a .changed .changed

/-- Beginnings of related things. -/
inductive Openings (a : Alignment) : Opened → Opened → Prop
  | node {node node' : Node} (nodes : a.Nodes node node') : Openings a (.node node) (.node node')
  | block {form form' : BlockForm} (forms : a.Forms form form') :
      Openings a (.block form) (.block form')
  | verbatim (keep : Bool) : Openings a (.verbatim keep) (.verbatim keep)

namespace Forms

variable {form form' : BlockForm} {body body' : List Node}

theorem keywords (forms : a.Forms form form') : form'.keywords = form.keywords := by
  cases forms <;> rfl

theorem done {γ : Type} {done done' : List (Section γ Node)} {guard : γ}
    (branches : List.Forall₂ (Section.Related a.Nodes) done done') (bodies : a.Bodies body body') :
    List.Forall₂ (Section.Related a.Nodes) (done ++ [⟨guard, body⟩]) (done' ++ [⟨guard, body'⟩]) :=
  List.rel_append branches (.cons (.mk guard bodies) .nil)

theorem close (forms : a.Forms form form') (bodies : a.Bodies body body') :
    a.Nodes (form.close body) (form'.close body') := by
  cases forms with
  | cond negate branches condition => exact .cond negate (done branches bodies) .none
  | condElse negate branches => exact .cond negate branches (.some bodies)
  | caseHead subject => exact .case subject .nil .none
  | caseWhen subject branches values => exact .case subject (done branches bodies) .none
  | caseElse subject branches => exact .case subject branches (.some bodies)
  | loop header => exact .loop header bodies .none
  | loopElse header first => exact .loop header first (.some bodies)
  | capture name => exact .capture name bodies
  | changed => exact .changed bodies

end Forms

/-! ## Tags -/

theorem outcomes_resume {form form' : BlockForm} {body body' : List Node} (name : String)
    {fragment fragment' : Fragment} (fragments : a.fragments fragment fragment')
    (isTag : fragment.kind = .markup .tag) (forms : a.Forms form form')
    (bodies : a.Bodies body body') :
    a.Outcomes a.Forms (form.resume mode name body fragment.tagHead)
      (form'.resume mode name body' fragment'.tagHead) := by
  have heads := heads_of_fragments fragments
  have misplaced (block : String) : a.Outcomes a.Forms
      (BlockForm.resume.misplaced fragment.tagHead block)
      (BlockForm.resume.misplaced fragment'.tagHead block) := by
    unfold BlockForm.resume.misplaced
    rw [heads.name]
    exact .error (errors_malformed heads.span)
  have unknown : a.Errors ⟨.unknownTag fragment.tagHead.name, some fragment.tagHead.span⟩
      ⟨.unknownTag fragment'.tagHead.name, some fragment'.tagHead.span⟩ :=
    .unknownTag fragments isTag
  cases forms with
  | cond negate branches condition =>
    unfold BlockForm.resume
    simp only [heads.name]
    split
    · exact outcomes_bind_eq (outcomes_read heads steady_condition) fun condition =>
        .ok (.cond negate (Forms.done branches bodies) condition)
    · exact .ok (.condElse negate (Forms.done branches bodies))
  | condElse negate branches => exact misplaced name
  | caseHead subject =>
    unfold BlockForm.resume
    simp only [heads.name]
    split
    · exact outcomes_bind_eq (outcomes_read heads (agree_values heads.span)) fun values =>
        .ok (.caseWhen subject .nil values)
    · exact .ok (.caseElse subject .nil)
  | caseWhen subject branches values =>
    unfold BlockForm.resume
    simp only [heads.name]
    split
    · exact outcomes_bind_eq (outcomes_read heads (agree_values heads.span)) fun values =>
        .ok (.caseWhen subject (Forms.done branches bodies) values)
    · exact .ok (.caseElse subject (Forms.done branches bodies))
  | caseElse subject branches => exact misplaced "case"
  | loop header => exact .ok (.loopElse header bodies)
  | loopElse header first => exact .error (errors_malformed heads.span)
  | capture name => exact .error unknown
  | changed => exact .error unknown

theorem outcomes_readAssign {tag tag' : TagHead} (heads : a.Heads tag tag') :
    a.Outcomes a.Nodes (TagRule.readAssign mode tag) (TagRule.readAssign mode tag') := by
  unfold TagRule.readAssign
  simp only [heads.markup]
  have split : tag.markup.toList = tag.markup.toList.takeWhile (· != '=') ++
      tag.markup.toList.dropWhile (· != '=') := List.takeWhile_append_dropWhile.symm
  split
  · exact .error (errors_malformed heads.span)
  next equals value same =>
    have isEquals : equals = '=' := by
      have stops := Token.head?_dropWhile (· != '=') tag.markup.toList equals (by rw [same]; rfl)
      simpa using stops
    subst isEquals
    rw [same] at split
    have target := heads.part [] _ _ split
    have source := heads.part (tag.markup.toList.takeWhile (· != '=') ++ ['=']) value []
      (by simpa using split)
    rw [Text.byteSize_append] at source
    rw [heads.name]
    refine outcomes_bind_eq (outcomes_read target (steady_parseTarget _)) fun name => ?_
    exact outcomes_bind (outcomes_read source (steady_parseWhole steady_pipeline))
      fun _ _ pipelines => .ok (.assign name pipelines)

theorem outcomes_rule {rule : TagRule} {tag tag' : TagHead} (heads : a.Heads tag tag')
    (builtIn : ∀ host, rule ≠ .host host) :
    a.Outcomes a.Openings (rule.read mode tag) (rule.read mode tag') := by
  have counter : a.Outcomes Eq (TagRule.read.counterName mode tag)
      (TagRule.read.counterName mode tag') := by
    refine outcomes_bind (outcomes_read heads (steady_parseWhole (steady_expect _))) ?_
    rintro token token' same
    rw [same.2]
    exact .ok rfl
  cases rule with
  | cond negate =>
    exact outcomes_bind_eq (outcomes_read heads steady_condition) fun condition =>
      .ok (.block (.cond negate .nil condition))
  | case =>
    exact outcomes_bind_eq (outcomes_read heads (steady_parseWhole steady_parse)) fun subject =>
      .ok (.block (.caseHead subject))
  | loop =>
    exact outcomes_bind_eq (outcomes_read heads steady_loop) fun header =>
      .ok (.block (.loop header))
  | cycle =>
    exact outcomes_bind_eq (outcomes_read heads (agree_cycle heads.span)) fun cycle =>
      .ok (.node (.cycle cycle))
  | assign => exact outcomes_bind (outcomes_readAssign heads) fun _ _ nodes => .ok (.node nodes)
  | capture =>
    unfold TagRule.read
    rw [heads.name]
    exact outcomes_bind_eq (outcomes_read heads (steady_parseTarget _)) fun name =>
      .ok (.block (.capture name))
  | increment =>
    exact outcomes_bind_eq counter fun name => .ok (.node (.increment name))
  | decrement =>
    exact outcomes_bind_eq counter fun name => .ok (.node (.decrement name))
  | changed => exact .ok (.block .changed)
  | comment => exact .ok (.verbatim false)
  | raw => exact .ok (.verbatim true)
  | interrupt signal =>
    simp only [TagRule.read, heads.markup, heads.name]
    split
    · exact .ok (.node (.interrupt signal))
    · exact .error (errors_malformed heads.span)
  | host rule => exact absurd rfl (builtIn rule)

theorem outcomes_readObject {fragment fragment' : Fragment}
    (fragments : a.fragments fragment fragment') :
    a.Outcomes a.Pipelines (Compiler.readObject mode fragment)
      (Compiler.readObject mode fragment') := by
  unfold Compiler.readObject
  rw [a.text fragments]
  exact outcomes_bind (outcomes_ofMarkup (a.span fragments)) fun cursor cursor' cursors =>
    outcomes_result (steady_parseWhole steady_pipeline cursor cursor' cursors)

end Alignment

end TextTemplate
