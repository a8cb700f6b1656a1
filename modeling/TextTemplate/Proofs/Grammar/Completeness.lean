import TextTemplate.Proofs.Grammar
import TextTemplate.Proofs.Table

/-!
# What the grammar derives is compiled

Outside verbatim texts the compiler, whatever blocks are open around, takes the fragments of an
item and has one node more (`Compiler.feed_item`). The induction is on derivations. Sections are
the one place where the state says more than the grammar does: the guard of the last section is
already read when its body is still open.
-/

namespace TextTemplate

open Grammar

theorem TagHead.endName_ne (name : String) {other : String}
    (differs : other.toList.take 3 ≠ ['e', 'n', 'd']) : endName name ≠ other := by
  rintro rfl
  simp [endName] at differs

theorem bind_return_ok {ε α β : Type} {action : Except ε α} {value : α} (run : action = .ok value)
    (next : α → β) : (do return next (← action)) = .ok (next value) := by
  rw [run]
  rfl

namespace TagTable

theorem standard_get?_endName (name : String) : standard.get? (TagHead.endName name) = none := by
  simp (disch := decide) only [standard, Table.ofList, List.foldl, Table.get?_set,
    TagHead.endName_ne, if_false, Table.get?_empty]

theorem standard_get?_single {name : String} {rule : TagRule} (known : (name, rule) ∈ singles) :
    standard.get? name = some rule := by
  simp only [singles, List.mem_cons, Prod.mk.injEq, List.not_mem_nil, or_false] at known
  rcases known with ⟨rfl, rfl⟩ | ⟨rfl, rfl⟩ | ⟨rfl, rfl⟩ | ⟨rfl, rfl⟩ | ⟨rfl, rfl⟩ | ⟨rfl, rfl⟩ <;>
    simp [standard, Table.ofList]

theorem standard_get?_block :
    standard.get? "case" = some .case ∧ standard.get? "for" = some .loop ∧
      standard.get? "capture" = some .capture ∧ standard.get? "ifchanged" = some .changed ∧
      standard.get? "comment" = some .comment ∧ standard.get? "raw" = some .raw := by
  simp [standard, Table.ofList]

theorem standard_get?_choice {name : String} {negate : Bool} (known : (name, negate) ∈ choices) :
    standard.get? name = some (.cond negate) := by
  simp only [choices, List.mem_cons, Prod.mk.injEq, List.not_mem_nil, or_false] at known
  rcases known with ⟨rfl, rfl⟩ | ⟨rfl, rfl⟩ <;> simp [standard, Table.ofList]

end TagTable

theorem BodyEnd.check_block {tag : String} {keywords : List String} {span : Span}
    {found : TagHead} :
    (block tag keywords span).check (some found) = .ok () ↔
      found.name = TagHead.endName tag ∨ found.name ∈ keywords := by
  by_cases ends : found.name = TagHead.endName tag ∨ found.name ∈ keywords
  · simp [check, ends]
  · simp [check, ends]

namespace BlockForm

theorem keywords_subset (form : BlockForm) : form.keywords ⊆ ["elsif", "when", "else"] := by
  cases form <;> simp [keywords]

theorem keyword_free {form : BlockForm} {keyword : String} (isKeyword : keyword ∈ form.keywords)
    (name : String) :
    TagTable.standard.get? keyword = none ∧ keyword ≠ TagHead.endName name := by
  have oneOf := form.keywords_subset isKeyword
  simp only [List.mem_cons, List.not_mem_nil, or_false] at oneOf
  rcases oneOf with rfl | rfl | rfl
  all_goals
    refine ⟨by simp [TagTable.standard, Table.ofList], ?_⟩
    exact (TagHead.endName_ne name (by decide)).symm

/-- A block whose section has the body `body` can be closed, or go on with a last section. What its
node still lacks is the body of that one. -/
structure EndsIn (mode : LexMode) (name : String) (form : BlockForm) (body : List Node)
    (node : Option (List Node) → Node) : Prop where
  closes : form.close body = node none
  hasElse : "else" ∈ form.keywords
  resumes : ∀ tag : TagHead, tag.name = "else" →
    ∃ next, form.resume mode name body tag = .ok next ∧
      ∀ nodes, next.close nodes = node (some nodes)

/-- The block can also go on with one more section, whose tag has a guard in its markup. -/
structure Repeats {γ : Type} (mode : LexMode) (name keyword : String)
    (read : TagHead → Except ParseError γ) (form : BlockForm) (body : List Node)
    (next : γ → BlockForm) (node : Option (List Node) → Node) : Prop where
  endsIn : EndsIn mode name form body node
  hasKeyword : keyword ∈ form.keywords
  resumes : ∀ (tag : TagHead) (guard : γ), tag.name = keyword → read tag = .ok guard →
    form.resume mode name body tag = .ok (next guard)

variable {mode : LexMode} {name : String} {body : List Node}

theorem endsIn_loop (header : LoopHeader) :
    EndsIn mode name (.loop header) body (.loop header body) :=
  ⟨rfl, by simp [keywords], fun _ _ => ⟨.loopElse header body, rfl, fun _ => rfl⟩⟩

theorem repeats_cond (negate : Bool) (done : List (Section Condition Node))
    (condition : Condition) :
    Repeats mode name "elsif" (fun tag => tag.read mode Condition.parse)
      (.cond negate done condition) body (.cond negate (done ++ [⟨condition, body⟩]))
      (.cond negate (done ++ [⟨condition, body⟩])) := by
  refine ⟨⟨rfl, by simp [keywords], ?_⟩, by simp [keywords], ?_⟩
  · intro tag isElse
    have notElsif : tag.name ≠ "elsif" := by simp [isElse]
    exact ⟨.condElse negate _, if_neg notElsif, fun _ => rfl⟩
  · intro tag guard isElsif reads
    simp only [resume, isElsif, if_true, reads]
    rfl

theorem repeats_caseHead (subject : Expr) :
    Repeats mode name "when" (fun tag => tag.read mode (parseValues tag.span))
      (.caseHead subject) body (.caseWhen subject []) (.case subject []) := by
  refine ⟨⟨rfl, by simp [keywords], ?_⟩, by simp [keywords], ?_⟩
  · intro tag isElse
    have notWhen : tag.name ≠ "when" := by simp [isElse]
    exact ⟨.caseElse subject [], if_neg notWhen, fun _ => rfl⟩
  · intro tag guard isWhen reads
    simp only [resume, isWhen, if_true, reads]
    rfl

theorem repeats_caseWhen (subject : Expr) (done : List (Section (List Expr) Node))
    (values : List Expr) :
    Repeats mode name "when" (fun tag => tag.read mode (parseValues tag.span))
      (.caseWhen subject done values) body (.caseWhen subject (done ++ [⟨values, body⟩]))
      (.case subject (done ++ [⟨values, body⟩])) := by
  refine ⟨⟨rfl, by simp [keywords], ?_⟩, by simp [keywords], ?_⟩
  · intro tag isElse
    have notWhen : tag.name ≠ "when" := by simp [isElse]
    exact ⟨.caseElse subject _, if_neg notWhen, fun _ => rfl⟩
  · intro tag guard isWhen reads
    simp only [resume, isWhen, if_true, reads]
    rfl

end BlockForm

namespace Compiler

variable {mode : LexMode} {compiler next : Compiler} {fragment : Fragment} {nodes : List Node}
  {blocks : List OpenBlock}

/-- Takes the fragments one after the other. -/
def feed (mode : LexMode) (compiler : Compiler) (fragments : List Fragment) :
    Except ParseError Compiler :=
  fragments.foldlM (step .standard mode) compiler

theorem run_eq_feed (mode : LexMode) (fragments : List Fragment) :
    run .standard mode fragments = feed mode start fragments >>= finish := rfl

theorem feed_cons (step : compiler.step .standard mode fragment = .ok next)
    (fragments : List Fragment) :
    compiler.feed mode (fragment :: fragments) = next.feed mode fragments := by
  unfold feed
  rw [List.foldlM_cons, step]
  rfl

theorem feed_cons_eq_ok {fragments : List Fragment} {last : Compiler}
    (fed : compiler.feed mode (fragment :: fragments) = .ok last) :
    ∃ middle, compiler.step .standard mode fragment = .ok middle ∧
      feed mode middle fragments = .ok last := by
  cases step : compiler.step .standard mode fragment with
  | error error =>
    unfold feed at fed
    rw [List.foldlM_cons, step] at fed
    cases fed
  | ok middle =>
    rw [feed_cons step] at fed
    exact ⟨middle, rfl, fed⟩

theorem feed_append {first : List Fragment} (fed : compiler.feed mode first = .ok next)
    (last : List Fragment) : compiler.feed mode (first ++ last) = next.feed mode last := by
  unfold feed at fed ⊢
  rw [List.foldlM_append, fed]
  rfl

theorem step_rule {name : String} {rule : TagRule} {opened : Opened}
    (isTag : fragment.IsTag name) (known : TagTable.standard.get? name = some rule)
    (reads : rule.read mode fragment.tagHead = .ok opened) :
    step .standard mode ⟨nodes, blocks, none⟩ fragment =
      .ok (openTag ⟨nodes, blocks, none⟩ fragment.tagHead opened) := by
  obtain ⟨kind, rfl⟩ := isTag
  simp only [step, kind, known, reads]
  rfl

theorem step_open {name : String} {rule : TagRule} {form : BlockForm}
    (isTag : fragment.IsTag name) (known : TagTable.standard.get? name = some rule)
    (reads : rule.read mode fragment.tagHead = .ok (.block form)) :
    step .standard mode ⟨nodes, blocks, none⟩ fragment =
      .ok ⟨[], ⟨name, fragment.tagHead.span, form, nodes⟩ :: blocks, none⟩ := by
  rw [step_rule isTag known reads, ← isTag.2]
  rfl

theorem step_close {tag : String} {span : Span} {form : BlockForm} {before body : List Node}
    (isTag : fragment.IsTag (TagHead.endName tag)) :
    step .standard mode ⟨body.reverse, ⟨tag, span, form, before⟩ :: blocks, none⟩ fragment =
      .ok ⟨form.close body :: before, blocks, none⟩ := by
  obtain ⟨kind, named⟩ := isTag
  have ends : BodyEnd.check (.block tag form.keywords span) (some fragment.tagHead) = .ok () :=
    BodyEnd.check_block.2 (.inl named)
  simp only [step, kind, named, TagTable.standard_get?_endName, endBody, bodyEnd, ends,
    Compiler.body, List.reverse_reverse]
  rfl

theorem step_resume {keyword tag : String} {span : Span} {form goesOn : BlockForm}
    {before body : List Node} (isTag : fragment.IsTag keyword)
    (isKeyword : keyword ∈ form.keywords)
    (resumes : form.resume mode tag body fragment.tagHead = .ok goesOn) :
    step .standard mode ⟨body.reverse, ⟨tag, span, form, before⟩ :: blocks, none⟩ fragment =
      .ok ⟨[], ⟨tag, fragment.tagHead.span, goesOn, before⟩ :: blocks, none⟩ := by
  obtain ⟨kind, rfl⟩ := isTag
  obtain ⟨noRule, notEnd⟩ := BlockForm.keyword_free isKeyword tag
  have ends : BodyEnd.check (.block tag form.keywords span) (some fragment.tagHead) = .ok () :=
    BodyEnd.check_block.2 (.inr isKeyword)
  simp only [step, kind, noRule, endBody, bodyEnd, ends, if_neg notEnd, Compiler.body,
    List.reverse_reverse, resumes]
  rfl

theorem feed_passOver {tag : String} {span : Span} {keep : Bool} {inner : List Fragment}
    {closing : Fragment} (inside : ∀ fragment ∈ inner, ¬ fragment.IsTag (TagHead.endName tag))
    (closes : closing.IsTag (TagHead.endName tag)) (text : String) :
    feed mode ⟨nodes, blocks, some ⟨tag, span, keep, text⟩⟩ (inner ++ [closing]) =
      .ok ⟨(if keep then .text (text ++ String.join (inner.map Fragment.sourceText))
        else .comment) :: nodes, blocks, none⟩ := by
  induction inner generalizing text with
  | nil =>
    have ends := Fragment.closes_iff.2 closes
    rw [List.nil_append, List.map_nil, String.join_nil, String.append_empty]
    simp only [feed, List.foldlM_cons, List.foldlM_nil, step, passOver, ends]
    rfl
  | cons fragment inner ih =>
    have goesOn : fragment.closes tag = false := by
      rw [← Bool.not_eq_true, Fragment.closes_iff]
      exact inside fragment List.mem_cons_self
    have passes : step .standard mode ⟨nodes, blocks, some ⟨tag, span, keep, text⟩⟩ fragment =
        .ok ⟨nodes, blocks, some ⟨tag, span, keep,
          if keep then text ++ fragment.sourceText else ""⟩⟩ := by
      simp [step, passOver, goesOn]
    rw [List.cons_append, feed_cons passes, ih fun part held => inside part (.tail _ held),
      List.map_cons, String.join_cons]
    cases keep with
    | true => simp [String.append_assoc]
    | false => rfl

/-- A tag with a verbatim text after it is one node. -/
theorem feed_verbatim {name : String} {rule : TagRule} {keep : Bool} {opening closing : Fragment}
    {inner : List Fragment} (isTag : opening.IsTag name)
    (known : TagTable.standard.get? name = some rule)
    (reads : rule.read mode opening.tagHead = .ok (.verbatim keep))
    (inside : ∀ fragment ∈ inner, ¬ fragment.IsTag (TagHead.endName name))
    (closes : closing.IsTag (TagHead.endName name)) (before : List Node)
    (blocks : List OpenBlock) :
    feed mode ⟨before, blocks, none⟩ (opening :: inner ++ [closing]) =
      .ok ⟨(if keep then .text (String.join (inner.map Fragment.sourceText))
        else .comment) :: before, blocks, none⟩ := by
  rw [List.cons_append, feed_cons (step_rule isTag known reads)]
  obtain ⟨-, rfl⟩ := isTag
  exact (feed_passOver inside closes "").trans (by rw [String.empty_append])

mutual

/-- An item becomes one node. -/
theorem feed_item {fragments : List Fragment} {node : Node} (item : Item mode fragments node)
    (before : List Node) (blocks : List OpenBlock) :
    feed mode ⟨before, blocks, none⟩ fragments = .ok ⟨node :: before, blocks, none⟩ := by
  match item with
  | .text isText =>
    refine feed_cons ?_ []
    simp only [step, isText]
    rfl
  | .object isObject reads =>
    refine feed_cons ?_ []
    simp only [step, isObject, reads]
    rfl
  | .single known isTag reads =>
    exact feed_cons (step_rule isTag (TagTable.standard_get?_single known) reads) []
  | .choice known branches ends closes =>
    obtain ⟨form, body, span, repeats, fed⟩ := feed_branches branches known before blocks
    rw [List.append_assoc, feed_append fed, feed_otherwise ends closes repeats.endsIn]
  | .case cases ends closes =>
    obtain ⟨form, body, span, repeats, fed⟩ := feed_cases cases before blocks
    rw [List.append_assoc, feed_append fed, feed_otherwise ends closes repeats.endsIn]
  | .loop isTag reads body ends closes =>
    obtain ⟨-, known, -⟩ := TagTable.standard_get?_block
    have opens := bind_return_ok reads fun header => Opened.block (.loop header)
    rw [List.append_assoc, List.cons_append, feed_cons (step_open isTag known opens),
      feed_append (feed_body body [] _), List.append_nil,
      feed_otherwise ends closes (BlockForm.endsIn_loop _)]
  | .capture isTag reads body closes =>
    obtain ⟨-, -, known, -⟩ := TagTable.standard_get?_block
    rw [← isTag.2] at reads
    have opens := bind_return_ok reads fun name => Opened.block (.capture name)
    rw [List.cons_append, feed_cons (step_open isTag known opens),
      feed_append (feed_body body [] _), List.append_nil, feed_cons (step_close closes)]
    rfl
  | .changed isTag body closes =>
    obtain ⟨-, -, -, known, -⟩ := TagTable.standard_get?_block
    rw [List.cons_append, feed_cons (step_open isTag known rfl),
      feed_append (feed_body body [] _), List.append_nil, feed_cons (step_close closes)]
    rfl
  | .comment isTag inside closes =>
    obtain ⟨-, -, -, -, known, -⟩ := TagTable.standard_get?_block
    exact feed_verbatim isTag known rfl inside closes before blocks
  | .raw isTag inside closes =>
    obtain ⟨-, -, -, -, -, known⟩ := TagTable.standard_get?_block
    exact feed_verbatim isTag known rfl inside closes before blocks

theorem feed_body {fragments : List Fragment} {nodes : List Node}
    (body : Body mode fragments nodes) (before : List Node) (blocks : List OpenBlock) :
    feed mode ⟨before, blocks, none⟩ fragments =
      .ok ⟨nodes.reverse ++ before, blocks, none⟩ := by
  match body with
  | .nil => rfl
  | .snoc body last =>
    rw [feed_append (feed_body body before blocks), feed_item last]
    simp

theorem feed_branches {name : String} {negate : Bool} {fragments : List Fragment}
    {sections : List (Section Condition Node)} (branches : Branches mode name fragments sections)
    (known : (name, negate) ∈ choices) (before : List Node) (blocks : List OpenBlock) :
    ∃ form body span,
      BlockForm.Repeats mode name "elsif" (fun tag => tag.read mode Condition.parse) form body
        (.cond negate sections) (.cond negate sections) ∧
      feed mode ⟨before, blocks, none⟩ fragments =
        .ok ⟨body.reverse, ⟨name, span, form, before⟩ :: blocks, none⟩ := by
  match branches with
  | @Branches.first _ _ tag _ _ _ isTag reads body =>
    have opens := bind_return_ok reads fun condition => Opened.block (.cond negate [] condition)
    refine ⟨_, _, tag.tagHead.span, BlockForm.repeats_cond negate [] _, ?_⟩
    rw [feed_cons (step_open isTag (TagTable.standard_get?_choice known) opens), feed_body body,
      List.append_nil]
  | @Branches.next _ _ _ _ tag _ _ _ branches isTag reads body =>
    obtain ⟨form, nodes, span, repeats, fed⟩ := feed_branches branches known before blocks
    have resumes := repeats.resumes _ _ isTag.2 reads
    refine ⟨_, _, tag.tagHead.span, BlockForm.repeats_cond negate _ _, ?_⟩
    rw [feed_append fed, feed_cons (step_resume isTag repeats.hasKeyword resumes), feed_body body,
      List.append_nil]

theorem feed_cases {subject : Expr} {fragments : List Fragment}
    {sections : List (Section (List Expr) Node)} (cases : Cases mode subject fragments sections)
    (before : List Node) (blocks : List OpenBlock) :
    ∃ form body span,
      BlockForm.Repeats mode "case" "when"
        (fun tag => tag.read mode (BlockForm.parseValues tag.span)) form body
        (.caseWhen subject sections) (.case subject sections) ∧
      feed mode ⟨before, blocks, none⟩ fragments =
        .ok ⟨body.reverse, ⟨"case", span, form, before⟩ :: blocks, none⟩ := by
  match cases with
  | @Cases.head _ tag _ _ nodes isTag reads body =>
    obtain ⟨known, -⟩ := TagTable.standard_get?_block
    have opens := bind_return_ok reads fun subject => Opened.block (.caseHead subject)
    refine ⟨_, nodes, tag.tagHead.span, BlockForm.repeats_caseHead subject, ?_⟩
    rw [feed_cons (step_open isTag known opens), feed_body body, List.append_nil]
  | @Cases.next _ _ _ _ tag _ _ _ cases isTag reads body =>
    obtain ⟨form, nodes, span, repeats, fed⟩ := feed_cases cases before blocks
    have resumes := repeats.resumes _ _ isTag.2 reads
    refine ⟨_, _, tag.tagHead.span, BlockForm.repeats_caseWhen subject _ _, ?_⟩
    rw [feed_append fed, feed_cons (step_resume isTag repeats.hasKeyword resumes), feed_body body,
      List.append_nil]

/-- The last body and the end tag make the node of the block. -/
theorem feed_otherwise {name : String} {last : List Fragment} {closing : Fragment}
    {otherwise : Option (List Node)} {form : BlockForm} {body before : List Node} {span : Span}
    {blocks : List OpenBlock} {node : Option (List Node) → Node}
    (ends : Otherwise mode last otherwise) (closes : closing.IsTag (TagHead.endName name))
    (endsIn : form.EndsIn mode name body node) :
    feed mode ⟨body.reverse, ⟨name, span, form, before⟩ :: blocks, none⟩ (last ++ [closing]) =
      .ok ⟨node otherwise :: before, blocks, none⟩ := by
  match ends with
  | .none =>
    rw [List.nil_append, feed_cons (step_close closes), endsIn.closes]
    rfl
  | .some isTag inner =>
    obtain ⟨next, resumes, closed⟩ := endsIn.resumes _ isTag.2
    rw [List.cons_append, feed_cons (step_resume isTag endsIn.hasElse resumes),
      feed_append (feed_body inner [] _), List.append_nil, feed_cons (step_close closes), closed]
    rfl

end

theorem run_of_body {fragments : List Fragment} {nodes : List Node}
    (body : Body mode fragments nodes) : run .standard mode fragments = .ok nodes := by
  have fed : feed mode start fragments = _ := feed_body body [] []
  rw [run_eq_feed, fed, List.append_nil]
  show Except.ok nodes.reverse.reverse = .ok nodes
  rw [List.reverse_reverse]

end Compiler

end TextTemplate
