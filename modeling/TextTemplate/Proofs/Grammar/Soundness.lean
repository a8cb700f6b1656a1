import TextTemplate.Proofs.Grammar.Completeness

/-!
# What is compiled is derived by the grammar

The state of the compiler tells what the fragments taken so far are: nested beginnings of blocks,
each with a body before it, then a body, and perhaps the beginning of a verbatim text
(`Compiler.Reads`). One step keeps this, whatever the fragment, so it holds after all of them, and
a state that may be the last one has no block open.
-/

namespace TextTemplate

open Grammar

theorem bind_return_eq_ok {ε α β : Type} {action : Except ε α} {next : α → β} {result : β}
    (run : (do return next (← action)) = Except.ok result) :
    ∃ value, action = .ok value ∧ next value = result := by
  cases action with
  | error error => cases run
  | ok value =>
    cases run
    exact ⟨value, rfl, rfl⟩

theorem TagTable.standard_get?_eq_some {name : String} {rule : TagRule}
    (known : standard.get? name = some rule) :
    (name, rule) ∈ singles ∨ (∃ negate, (name, negate) ∈ choices ∧ rule = .cond negate) ∨
      name = "case" ∧ rule = .case ∨ name = "for" ∧ rule = .loop ∨
      name = "capture" ∧ rule = .capture ∨ name = "ifchanged" ∧ rule = .changed ∨
      name = "comment" ∧ rule = .comment ∨ name = "raw" ∧ rule = .raw := by
  have member := Table.mem_of_get?_ofList known
  simp only [List.mem_cons, Prod.mk.injEq, List.not_mem_nil, or_false] at member
  rcases member with ⟨rfl, rfl⟩ | ⟨rfl, rfl⟩ | ⟨rfl, rfl⟩ | ⟨rfl, rfl⟩ | ⟨rfl, rfl⟩ | ⟨rfl, rfl⟩ |
    ⟨rfl, rfl⟩ | ⟨rfl, rfl⟩ | ⟨rfl, rfl⟩ | ⟨rfl, rfl⟩ | ⟨rfl, rfl⟩ | ⟨rfl, rfl⟩ | ⟨rfl, rfl⟩ |
    ⟨rfl, rfl⟩ <;> simp [singles, choices]

/-- What a tag of its own begins is itself. -/
theorem TagRule.read_single {mode : LexMode} {name : String} {rule : TagRule} {tag : TagHead}
    {opened : Opened} (known : (name, rule) ∈ singles) (reads : rule.read mode tag = .ok opened) :
    ∃ node, opened = .node node := by
  simp only [singles, List.mem_cons, Prod.mk.injEq, List.not_mem_nil, or_false] at known
  rcases known with ⟨-, rfl⟩ | ⟨-, rfl⟩ | ⟨-, rfl⟩ | ⟨-, rfl⟩ | ⟨-, rfl⟩ | ⟨-, rfl⟩
  case inl | inr.inl | inr.inr.inl | inr.inr.inr.inl =>
    obtain ⟨value, -, rfl⟩ := bind_return_eq_ok reads
    exact ⟨_, rfl⟩
  all_goals
    simp only [read] at reads
    split at reads
    · cases reads
      exact ⟨_, rfl⟩
    · cases reads

namespace Grammar

variable {mode : LexMode} {name : String} {form : BlockForm} {fragments inner : List Fragment}
  {nodes : List Node} {tag : Fragment}

/-- The fragments begin a block, up to and with the tag that begins the section being read. Where
that tag has a guard, the fragments are no phrase of the grammar, but any body makes them one. -/
def Begins (mode : LexMode) (name : String) (fragments : List Fragment) : BlockForm → Prop
  | .cond negate done condition =>
    (name, negate) ∈ choices ∧ ∀ inner nodes, Body mode inner nodes →
      Branches mode name (fragments ++ inner) (done ++ [⟨condition, nodes⟩])
  | .condElse negate done =>
    (name, negate) ∈ choices ∧ ∃ before tag, fragments = before ++ [tag] ∧
      Branches mode name before done ∧ tag.IsTag "else"
  | .caseHead subject =>
    name = "case" ∧ ∀ inner nodes, Body mode inner nodes →
      Cases mode subject (fragments ++ inner) []
  | .caseWhen subject done values =>
    name = "case" ∧ ∀ inner nodes, Body mode inner nodes →
      Cases mode subject (fragments ++ inner) (done ++ [⟨values, nodes⟩])
  | .caseElse subject done =>
    name = "case" ∧ ∃ before tag, fragments = before ++ [tag] ∧
      Cases mode subject before done ∧ tag.IsTag "else"
  | .loop header =>
    name = "for" ∧ ∃ opening, fragments = [opening] ∧ opening.IsTag "for" ∧
      opening.tagHead.read mode LoopHeader.parse = .ok header
  | .loopElse header nodes =>
    name = "for" ∧ ∃ opening inner tag, fragments = opening :: inner ++ [tag] ∧
      opening.IsTag "for" ∧ opening.tagHead.read mode LoopHeader.parse = .ok header ∧
      Body mode inner nodes ∧ tag.IsTag "else"
  | .capture target =>
    name = "capture" ∧ ∃ opening, fragments = [opening] ∧ opening.IsTag "capture" ∧
      opening.tagHead.read mode (TagRule.parseTarget "capture") = .ok target
  | .changed => name = "ifchanged" ∧ ∃ opening, fragments = [opening] ∧ opening.IsTag "ifchanged"
  | .host _ => False

/-- The tag begins this, or is it. -/
def Opens (mode : LexMode) (name : String) (tag : Fragment) : Opened → Prop
  | .node node => Item mode [tag] node
  | .block form => Begins mode name [tag] form
  | .verbatim keep => name = "comment" ∧ keep = false ∨ name = "raw" ∧ keep = true

/-- A body and the end tag complete the block. -/
theorem Begins.close (begins : Begins mode name fragments form) (body : Body mode inner nodes)
    (closes : tag.IsTag (TagHead.endName name)) :
    Item mode (fragments ++ inner ++ [tag]) (form.close nodes) := by
  cases form with
  | cond negate done condition =>
    obtain ⟨known, branches⟩ := begins
    have item := Item.choice known (branches inner nodes body) .none closes
    rwa [List.append_nil] at item
  | condElse negate done =>
    obtain ⟨known, before, last, rfl, branches, isElse⟩ := begins
    have item := Item.choice known branches (.some isElse body) closes
    simpa [BlockForm.close, List.append_assoc] using item
  | caseHead subject =>
    obtain ⟨rfl, cases⟩ := begins
    have item := Item.case (cases inner nodes body) .none closes
    rwa [List.append_nil] at item
  | caseWhen subject done values =>
    obtain ⟨rfl, cases⟩ := begins
    have item := Item.case (cases inner nodes body) .none closes
    rwa [List.append_nil] at item
  | caseElse subject done =>
    obtain ⟨rfl, before, last, rfl, cases, isElse⟩ := begins
    have item := Item.case cases (.some isElse body) closes
    simpa [BlockForm.close, List.append_assoc] using item
  | loop header =>
    obtain ⟨rfl, opening, rfl, isTag, reads⟩ := begins
    have item := Item.loop isTag reads body .none closes
    rwa [List.append_nil] at item
  | loopElse header first =>
    obtain ⟨rfl, opening, before, last, rfl, isTag, reads, firstBody, isElse⟩ := begins
    have item := Item.loop isTag reads firstBody (.some isElse body) closes
    simpa [BlockForm.close, List.append_assoc] using item
  | capture target =>
    obtain ⟨rfl, opening, rfl, isTag, reads⟩ := begins
    exact Item.capture isTag reads body closes
  | changed =>
    obtain ⟨rfl, opening, rfl, isTag⟩ := begins
    exact Item.changed isTag body closes
  | host run => exact begins.elim

/-- After sections of a case its keywords lead on to one more, or to the last body. -/
theorem begins_case_next {subject : Expr} {sections : List (Section (List Expr) Node)}
    {next : BlockForm} (here : Cases mode subject fragments sections)
    (isTag : tag.kind = .markup .tag) (isKeyword : tag.tagHead.name ∈ ["when", "else"])
    (resumes : (if tag.tagHead.name = "when" then do
        return BlockForm.caseWhen subject sections
          (← tag.tagHead.read mode (BlockForm.parseValues tag.tagHead.span))
      else .ok (.caseElse subject sections)) = .ok next) :
    Begins mode "case" (fragments ++ [tag]) next := by
  by_cases isWhen : tag.tagHead.name = "when"
  · rw [if_pos isWhen] at resumes
    obtain ⟨values, reads, rfl⟩ := bind_return_eq_ok resumes
    refine ⟨rfl, fun inner nodes body => ?_⟩
    rw [List.append_assoc]
    exact here.next ⟨isTag, isWhen⟩ reads body
  · rw [if_neg isWhen] at resumes
    cases resumes
    have isElse : tag.tagHead.name = "else" := by simpa [isWhen] using isKeyword
    exact ⟨rfl, fragments, tag, rfl, here, isTag, isElse⟩

/-- A body and a keyword's tag lead on to the next section. -/
theorem Begins.resume {next : BlockForm} (begins : Begins mode name fragments form)
    (body : Body mode inner nodes) (isTag : tag.kind = .markup .tag)
    (isKeyword : tag.tagHead.name ∈ form.keywords)
    (resumes : form.resume mode name nodes tag.tagHead = .ok next) :
    Begins mode name (fragments ++ inner ++ [tag]) next := by
  cases form with
  | cond negate done condition =>
    obtain ⟨known, branches⟩ := begins
    have here := branches inner nodes body
    by_cases isElsif : tag.tagHead.name = "elsif"
    · simp only [BlockForm.resume, isElsif, if_true] at resumes
      obtain ⟨guard, reads, rfl⟩ := bind_return_eq_ok resumes
      refine ⟨known, fun after last afterBody => ?_⟩
      rw [List.append_assoc]
      exact here.next ⟨isTag, isElsif⟩ reads afterBody
    · simp only [BlockForm.resume, if_neg isElsif] at resumes
      cases resumes
      have isElse : tag.tagHead.name = "else" := by
        simpa [BlockForm.keywords, isElsif] using isKeyword
      exact ⟨known, _, tag, rfl, here, isTag, isElse⟩
  | caseHead subject =>
    obtain ⟨rfl, cases⟩ := begins
    exact begins_case_next (cases inner nodes body) isTag isKeyword resumes
  | caseWhen subject done values =>
    obtain ⟨rfl, cases⟩ := begins
    exact begins_case_next (cases inner nodes body) isTag isKeyword resumes
  | loop header =>
    obtain ⟨rfl, opening, rfl, opens, reads⟩ := begins
    cases resumes
    have isElse : tag.tagHead.name = "else" := by simpa [BlockForm.keywords] using isKeyword
    exact ⟨rfl, opening, inner, tag, rfl, opens, reads, body, isTag, isElse⟩
  | condElse negate done => cases resumes
  | caseElse subject done => cases resumes
  | loopElse header first => cases resumes
  | capture target => cases resumes
  | changed => cases resumes
  | host run => cases resumes

theorem opens_of_read {rule : TagRule} {opened : Opened} (isTag : tag.IsTag name)
    (known : TagTable.standard.get? name = some rule)
    (reads : rule.read mode tag.tagHead = .ok opened) : Opens mode name tag opened := by
  rcases TagTable.standard_get?_eq_some known with single | ⟨negate, choice, rfl⟩ | ⟨rfl, rfl⟩ |
    ⟨rfl, rfl⟩ | ⟨rfl, rfl⟩ | ⟨rfl, rfl⟩ | ⟨rfl, rfl⟩ | ⟨rfl, rfl⟩
  · obtain ⟨node, rfl⟩ := TagRule.read_single single reads
    exact Item.single single isTag reads
  · obtain ⟨condition, readsCondition, rfl⟩ := bind_return_eq_ok reads
    exact ⟨choice, fun inner nodes body => .first isTag readsCondition body⟩
  · obtain ⟨subject, readsSubject, rfl⟩ := bind_return_eq_ok reads
    exact ⟨rfl, fun inner nodes body => .head isTag readsSubject body⟩
  · obtain ⟨header, readsHeader, rfl⟩ := bind_return_eq_ok reads
    exact ⟨rfl, tag, rfl, isTag, readsHeader⟩
  · obtain ⟨target, readsTarget, rfl⟩ := bind_return_eq_ok reads
    rw [isTag.2] at readsTarget
    exact ⟨rfl, tag, rfl, isTag, readsTarget⟩
  · cases reads
    exact ⟨rfl, tag, rfl, isTag⟩
  · cases reads
    exact .inl ⟨rfl, rfl⟩
  · cases reads
    exact .inr ⟨rfl, rfl⟩

/-- The fragments are the beginnings of the blocks, the innermost last, with the bodies before
them. -/
inductive OpenBlocks (mode : LexMode) : List OpenBlock → List Fragment → Prop
  | nil : OpenBlocks mode [] []
  | cons {block : OpenBlock} {blocks : List OpenBlock} {around before begun : List Fragment}
      (outer : OpenBlocks mode blocks around) (body : Body mode before block.before.reverse)
      (begins : Begins mode block.tag begun block.form) :
      OpenBlocks mode (block :: blocks) (around ++ before ++ begun)

end Grammar

namespace Compiler

/-- In this state the compiler has taken these fragments. -/
inductive Reads (mode : LexMode) : Compiler → List Fragment → Prop
  | body {nodes : List Node} {blocks : List OpenBlock} {around inner : List Fragment}
      (outer : OpenBlocks mode blocks around) (body : Body mode inner nodes.reverse) :
      Reads mode ⟨nodes, blocks, none⟩ (around ++ inner)
  | verbatim {nodes : List Node} {blocks : List OpenBlock} {around inner skipped : List Fragment}
      {tag text : String} {span : Span} {keep : Bool} {opening : Fragment}
      (outer : OpenBlocks mode blocks around) (body : Body mode inner nodes.reverse)
      (isTag : opening.IsTag tag) (opens : Opens mode tag opening (.verbatim keep))
      (inside : ∀ fragment ∈ skipped, ¬ fragment.IsTag (TagHead.endName tag))
      (kept : keep = true → text = String.join (skipped.map Fragment.sourceText)) :
      Reads mode ⟨nodes, blocks, some ⟨tag, span, keep, text⟩⟩
        (around ++ inner ++ opening :: skipped)

variable {mode : LexMode} {compiler next : Compiler} {fragments : List Fragment}
  {fragment : Fragment}

theorem reads_start : Reads mode start [] :=
  .body .nil .nil

/-- A further item of the body being read. -/
theorem Reads.item {nodes : List Node} {blocks : List OpenBlock}
    {around inner item : List Fragment} {node : Node} (outer : OpenBlocks mode blocks around)
    (body : Body mode inner nodes.reverse) (last : Item mode item node) :
    Reads mode ⟨node :: nodes, blocks, none⟩ (around ++ inner ++ item) := by
  have longer : Body mode (inner ++ item) (node :: nodes).reverse := by
    rw [List.reverse_cons]
    exact .snoc body last
  rw [List.append_assoc]
  exact .body outer longer

/-- The beginning of a section. -/
theorem Reads.enter {block : OpenBlock} {blocks : List OpenBlock}
    {around before begun : List Fragment} (outer : OpenBlocks mode blocks around)
    (body : Body mode before block.before.reverse)
    (begins : Begins mode block.tag begun block.form) :
    Reads mode ⟨[], block :: blocks, none⟩ (around ++ before ++ begun) := by
  have empty : Body mode [] ([] : List Node).reverse := .nil
  have after := Reads.body (.cons outer body begins) empty
  rwa [List.append_nil] at after

theorem Reads.step_verbatim {verbatim : Verbatim} {nodes : List Node} {blocks : List OpenBlock}
    (reads : Reads mode ⟨nodes, blocks, some verbatim⟩ fragments) :
    Reads mode (passOver ⟨nodes, blocks, some verbatim⟩ verbatim fragment)
      (fragments ++ [fragment]) := by
  cases reads with
  | @verbatim _ _ around inner skipped tag text span keep opening outer body isTag opens inside
      kept =>
    by_cases closes : fragment.closes tag = true
    · have item : Item mode (opening :: skipped ++ [fragment])
          (if keep then .text text else .comment) := by
        rcases opens with ⟨rfl, rfl⟩ | ⟨rfl, rfl⟩
        · exact .comment isTag inside (Fragment.closes_iff.1 closes)
        · rw [kept rfl]
          exact .raw isTag inside (Fragment.closes_iff.1 closes)
      have after := Reads.item outer body item
      simpa [passOver, closes, push, List.append_assoc] using after
    · have longer : ∀ part ∈ skipped ++ [fragment], ¬ part.IsTag (TagHead.endName tag) := by
        intro part member
        rcases List.mem_append.1 member with before | here
        · exact inside part before
        · rw [List.mem_singleton.1 here, ← Fragment.closes_iff]
          exact closes
      have longerKept : keep = true → (if keep then text ++ fragment.sourceText else "") =
          String.join ((skipped ++ [fragment]).map Fragment.sourceText) := by
        intro isKept
        simp [isKept, kept isKept, String.join_append]
      have after : Reads mode ⟨nodes, blocks, some ⟨tag, span, keep, _⟩⟩ _ :=
        .verbatim outer body isTag opens longer longerKept
      simpa [passOver, closes, List.append_assoc] using after

theorem Reads.step_open {nodes : List Node} {blocks : List OpenBlock} {opened : Opened}
    (reads : Reads mode ⟨nodes, blocks, none⟩ fragments)
    (isTag : fragment.IsTag fragment.tagHead.name)
    (opens : Opens mode fragment.tagHead.name fragment opened) :
    Reads mode (openTag ⟨nodes, blocks, none⟩ fragment.tagHead opened)
      (fragments ++ [fragment]) := by
  cases reads with
  | body outer body =>
    cases opened with
    | node node => exact .item outer body opens
    | block form => exact .enter outer body opens
    | verbatim keep => exact .verbatim outer body isTag opens (by simp) fun _ => rfl

theorem Reads.step_endBody {nodes : List Node} {blocks : List OpenBlock}
    (reads : Reads mode ⟨nodes, blocks, none⟩ fragments) (isTag : fragment.kind = .markup .tag)
    (step : endBody ⟨nodes, blocks, none⟩ mode fragment.tagHead = .ok next) :
    Reads mode next (fragments ++ [fragment]) := by
  cases reads with
  | @body _ _ around inner outer body =>
    cases outer with
    | nil => cases step
    | @cons block blocks around before begun outer beforeBody begins =>
      cases check : BodyEnd.check (.block block.tag block.form.keywords block.openedAt)
          (some fragment.tagHead) with
      | error error =>
        simp only [endBody, bodyEnd, check] at step
        cases step
      | ok found =>
        simp only [endBody, bodyEnd, check] at step
        by_cases ends : fragment.tagHead.name = TagHead.endName block.tag
        · rw [if_pos ends] at step
          cases step
          have after := Reads.item outer beforeBody (begins.close body ⟨isTag, ends⟩)
          simpa [Compiler.body, List.append_assoc] using after
        · rw [if_neg ends] at step
          have isKeyword := (BodyEnd.check_block.1 check).resolve_left ends
          obtain ⟨form, resumes, rfl⟩ := bind_return_eq_ok step
          have goesOn := begins.resume body isTag isKeyword resumes
          have after : Reads mode
              ⟨[], { block with openedAt := fragment.tagHead.span, form } :: blocks, none⟩ _ :=
            .enter outer beforeBody goesOn
          simpa [List.append_assoc] using after

/-- One fragment more. -/
theorem Reads.step (reads : Reads mode compiler fragments)
    (step : compiler.step .standard mode fragment = .ok next) :
    Reads mode next (fragments ++ [fragment]) := by
  obtain ⟨nodes, blocks, verbatim⟩ := compiler
  cases verbatim with
  | some verbatim =>
    cases step
    exact reads.step_verbatim
  | none =>
    cases kind : fragment.kind with
    | text =>
      simp only [Compiler.step, kind] at step
      cases step
      cases reads with
      | body outer body => exact .item outer body (.text kind)
    | markup delimiter =>
      cases delimiter with
      | object =>
        simp only [Compiler.step, kind] at step
        obtain ⟨pipeline, readsObject, rfl⟩ := bind_return_eq_ok step
        cases reads with
        | body outer body => exact .item outer body (.object kind readsObject)
      | tag =>
        cases known : TagTable.standard.get? fragment.tagHead.name with
        | none =>
          simp only [Compiler.step, kind, known] at step
          exact reads.step_endBody kind step
        | some rule =>
          simp only [Compiler.step, kind, known] at step
          obtain ⟨opened, readsRule, rfl⟩ := bind_return_eq_ok step
          exact reads.step_open ⟨kind, rfl⟩ (opens_of_read ⟨kind, rfl⟩ known readsRule)

/-- All fragments. -/
theorem Reads.run {rest : List Fragment} (reads : Reads mode compiler fragments)
    (fed : feed mode compiler rest = .ok next) : Reads mode next (fragments ++ rest) := by
  induction rest generalizing compiler fragments with
  | nil =>
    cases fed
    rwa [List.append_nil]
  | cons fragment rest ih =>
    obtain ⟨middle, step, fed⟩ := feed_cons_eq_ok fed
    have after := ih (reads.step step) fed
    rwa [List.append_assoc] at after

theorem Reads.finish {nodes : List Node} (reads : Reads mode compiler fragments)
    (finish : compiler.finish = .ok nodes) : Body mode fragments nodes := by
  cases reads with
  | verbatim => cases finish
  | body outer body =>
    cases outer with
    | cons => cases finish
    | nil =>
      cases finish
      exact body

theorem run_eq_ok_iff {nodes : List Node} :
    run .standard mode fragments = .ok nodes ↔ Body mode fragments nodes := by
  constructor
  · intro ran
    rw [run_eq_feed] at ran
    cases fed : feed mode start fragments with
    | error error =>
      rw [fed] at ran
      cases ran
    | ok last =>
      rw [fed] at ran
      exact (reads_start.run fed).finish ran
  · exact run_of_body

end Compiler

/-- The compiler accepts exactly the sources whose fragments are a body, and gives its nodes. -/
theorem compile_eq_ok_iff (mode : LexMode) (source : String) (nodes : List Node) :
    compile .standard mode source = .ok nodes ↔
      ∃ fragments, Fragment.scan source = .ok fragments ∧ Body mode fragments nodes := by
  unfold compile
  cases Fragment.scan source with
  | error error => simp
  | ok fragments => simp [Compiler.run_eq_ok_iff]

end TextTemplate
