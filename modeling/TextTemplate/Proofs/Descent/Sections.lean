import TextTemplate.Proofs.Descent
import TextTemplate.Proofs.Grammar.Completeness

/-!
# Sections of blocks by recursive descent

What is said of a procedure that reads a block: it leaves a suffix of the fragments, and the
compiler gets, whatever blocks are open around, from where the procedure is called to where it has
returned. The second is the field `agrees`, an equation between results for the whole template; an error of
the procedure is the error of the compiler.

A block that comes to its end has taken at least the tag that ends it. So the loops that read one
section after the other have fewer fragments each time round, and come to an end if the blocks in
them do (`BlocksEnd`).
-/

namespace TextTemplate

open Procedure

namespace Compiler

/-- Takes all fragments, from this state on, and finishes. -/
def runFrom (tags : TagTable) (mode : LexMode) (compiler : Compiler) (fragments : List Fragment) :
    Except ParseError (List Node) :=
  fragments.foldlM (step tags mode) compiler >>= finish

variable {tags : TagTable} {mode : LexMode} {compiler : Compiler} {fragment : Fragment}
  {fragments : List Fragment}

theorem runFrom_cons : runFrom tags mode compiler (fragment :: fragments) =
    compiler.step tags mode fragment >>= fun after => runFrom tags mode after fragments := by
  unfold runFrom
  rw [List.foldlM_cons, bind_assoc]

end Compiler

namespace Descent

open Compiler

variable (tags : TagTable) (mode : LexMode)

/-- The result for the whole template from the beginning of a section on, by the nodes before the
block and the blocks around it. -/
def inSection (name : String) (openedAt : Span) (form : BlockForm) (fragments : List Fragment)
    (before : List Node) (outer : List OpenBlock) : Except ParseError (List Node) :=
  runFrom tags mode ⟨[], ⟨name, openedAt, form, before⟩ :: outer, none⟩ fragments

/-- The result where the tag `last` ends a section with the body `nodes`. -/
def afterSection (name : String) (form : BlockForm) (nodes : List Node) (last : TagHead)
    (rest : List Fragment) (before : List Node) (outer : List OpenBlock) :
    Except ParseError (List Node) :=
  if last.name = TagHead.endName name then
    runFrom tags mode ⟨form.close nodes :: before, outer, none⟩ rest
  else do
    let next ← form.resume mode name nodes last
    inSection tags mode name last.span next rest before outer

/-- The result where a tag with a rule stands. -/
def atTag (rule : TagRule) (head : TagHead) (fragments : List Fragment) (before : List Node)
    (outer : List OpenBlock) : Except ParseError (List Node) := do
  let opened ← rule.read mode head
  runFrom tags mode (openTag ⟨before, outer, none⟩ head opened) fragments

/-- What is said of a body, read after these nodes. -/
structure BodyReads (bodyEnd : BodyEnd) (nodes : List Node) (fragments : List Fragment)
    (outcome : Except ParseError (List Node × Option TagHead)) (rest : List Fragment) : Prop where
  suffix : rest <:+ fragments
  ended : ∀ result last, outcome = .ok (result, some last) →
    bodyEnd.check (some last) = .ok () ∧ rest.length < fragments.length
  exhausted : ∀ result, outcome = .ok (result, none) → bodyEnd = .document ∧ rest = []
  agrees : ∀ blocks, bodyEnd = Compiler.bodyEnd ⟨nodes, blocks, none⟩ →
    runFrom tags mode ⟨nodes, blocks, none⟩ fragments = outcome >>= fun (result, ended) =>
      match ended with
      | none => .ok result
      | some last => endBody ⟨result.reverse, blocks, none⟩ mode last >>= fun after =>
          runFrom tags mode after rest

/-- What is said of the body of a block, in any section with these keywords. -/
structure BlockReads (name : String) (keywords : List String) (openedAt : Span)
    (fragments : List Fragment) (outcome : Except ParseError (List Node × TagHead))
    (rest : List Fragment) : Prop where
  suffix : rest <:+ fragments
  ended : ∀ nodes last, outcome = .ok (nodes, last) →
    (last.name = TagHead.endName name ∨ last.name ∈ keywords) ∧ rest.length < fragments.length
  agrees : ∀ form before outer, form.keywords = keywords →
    inSection tags mode name openedAt form fragments before outer =
      outcome >>= fun (nodes, last) => afterSection tags mode name form nodes last rest before outer

/-- What is said of a procedure that reads a node. `machine` is the result for the whole template
from where the procedure is called, by the nodes before and the blocks around. -/
structure NodeReads (machine : List Node → List OpenBlock → Except ParseError (List Node))
    (fragments : List Fragment) (outcome : Except ParseError Node) (rest : List Fragment) :
    Prop where
  suffix : rest <:+ fragments
  agrees : ∀ before outer, machine before outer =
    outcome >>= fun node => runFrom tags mode ⟨node :: before, outer, none⟩ rest

/-- With fewer fragments than this, all blocks come to an end. The bounds are those of
`Descent.body_ends`, for the body and the call of the block itself. -/
def BlocksEnd (size : Nat) : Prop :=
  ∀ fragments : List Fragment, fragments.length < size → ∀ name keywords openedAt,
    Ends (4 * fragments.length + 2) (fragments.length + 1)
      (fun calls nesting => block tags mode calls nesting name keywords openedAt) fragments
      (BlockReads tags mode name keywords openedAt fragments)

variable {tags mode}

/-! ## Where a procedure is called -/

theorem NodeReads.after {machine after : List Node → List OpenBlock → Except ParseError (List Node)}
    {fragments middle rest : List Fragment} {outcome : Except ParseError Node}
    (reads : NodeReads tags mode after middle outcome rest) (suffix : middle <:+ fragments)
    (steps : ∀ before outer, machine before outer = after before outer) :
    NodeReads tags mode machine fragments outcome rest :=
  ⟨reads.suffix.trans suffix, fun before outer =>
    (steps before outer).trans (reads.agrees before outer)⟩

/-- Of an error it is only said that the compiler has the same one. -/
theorem bodyReads_error {bodyEnd : BodyEnd} {nodes : List Node} {fragments rest : List Fragment}
    {error : ParseError} (suffix : rest <:+ fragments)
    (fails : ∀ blocks, bodyEnd = Compiler.bodyEnd ⟨nodes, blocks, none⟩ →
      runFrom tags mode ⟨nodes, blocks, none⟩ fragments = .error error) :
    BodyReads tags mode bodyEnd nodes fragments (.error error) rest := by
  refine ⟨suffix, fun _ _ isOk => ?_, fun _ isOk => ?_, fails⟩
  all_goals cases isOk

/-- What the body reads from the fragment after this one on, it reads from this one on, if the
compiler has the node here as its next one. -/
theorem BodyReads.after {bodyEnd : BodyEnd} {nodes : List Node} {node : Node}
    {first middle rest : List Fragment} {outcome : Except ParseError (List Node × Option TagHead)}
    (reads : BodyReads tags mode bodyEnd (node :: nodes) middle outcome rest)
    (suffix : middle <:+ first)
    (steps : ∀ blocks, runFrom tags mode ⟨nodes, blocks, none⟩ first =
      runFrom tags mode ⟨node :: nodes, blocks, none⟩ middle) :
    BodyReads tags mode bodyEnd nodes first outcome rest := by
  refine ⟨reads.suffix.trans suffix, fun result last ended => ?_, reads.exhausted, ?_⟩
  · obtain ⟨checked, shorter⟩ := reads.ended result last ended
    exact ⟨checked, Nat.lt_of_lt_of_le shorter suffix.length_le⟩
  · exact fun blocks same => (steps blocks).trans (reads.agrees blocks same)

section

variable {name : String} {openedAt : Span} {form next : BlockForm} {nodes : List Node}
  {last : TagHead} {fragments rest final : List Fragment} {error : ParseError}

theorem afterSection_end (isEnd : last.name = TagHead.endName name) (before : List Node)
    (outer : List OpenBlock) : afterSection tags mode name form nodes last rest before outer =
      runFrom tags mode ⟨form.close nodes :: before, outer, none⟩ rest :=
  if_pos isEnd

theorem afterSection_keyword (isKeyword : last.name ∈ form.keywords) (before : List Node)
    (outer : List OpenBlock) : afterSection tags mode name form nodes last rest before outer =
      form.resume mode name nodes last >>= fun next =>
        inSection tags mode name last.span next rest before outer :=
  if_neg (form.keyword_free isKeyword name).2

theorem endBody_block (ends : last.name = TagHead.endName name ∨ last.name ∈ form.keywords)
    (before : List Node) (outer : List OpenBlock) :
    (endBody ⟨nodes.reverse, ⟨name, openedAt, form, before⟩ :: outer, none⟩ mode last >>=
        fun after => runFrom tags mode after rest) =
      afterSection tags mode name form nodes last rest before outer := by
  have checked : BodyEnd.check (.block name form.keywords openedAt) (some last) = .ok () :=
    BodyEnd.check_block.2 ends
  unfold afterSection
  simp only [endBody, bodyEnd, checked, Compiler.body, List.reverse_reverse]
  by_cases isEnd : last.name = TagHead.endName name
  · simp only [if_pos isEnd]
    rfl
  · simp only [if_neg isEnd]
    cases form.resume mode name nodes last <;> rfl

/-- An error in a section of a block is the error of the block. -/
theorem BlockReads.failed
    (reads : BlockReads tags mode name form.keywords openedAt fragments (.error error) rest) :
    NodeReads tags mode (inSection tags mode name openedAt form fragments) fragments
      (.error error) rest :=
  ⟨reads.suffix, fun before outer => reads.agrees form before outer rfl⟩

/-- What is read from the end of a section on, is read from its beginning on. -/
theorem BlockReads.goesOn {outcome : Except ParseError Node}
    (reads : BlockReads tags mode name form.keywords openedAt fragments (.ok (nodes, last)) rest)
    (after : NodeReads tags mode (afterSection tags mode name form nodes last rest) rest outcome
      final) :
    NodeReads tags mode (inSection tags mode name openedAt form fragments) fragments outcome
      final :=
  after.after reads.suffix fun before outer => reads.agrees form before outer rfl

theorem reads_end (isEnd : last.name = TagHead.endName name) :
    NodeReads tags mode (afterSection tags mode name form nodes last rest) rest
      (.ok (form.close nodes)) rest :=
  ⟨List.suffix_rfl, afterSection_end isEnd⟩

theorem reads_refused (isKeyword : last.name ∈ form.keywords)
    (refuses : form.resume mode name nodes last = .error error) :
    NodeReads tags mode (afterSection tags mode name form nodes last rest) rest
      (.error error) rest := by
  refine ⟨List.suffix_rfl, fun before outer => ?_⟩
  rw [afterSection_keyword isKeyword, refuses]
  rfl

theorem NodeReads.resumed {outcome : Except ParseError Node}
    (reads : NodeReads tags mode (inSection tags mode name last.span next rest) rest outcome final)
    (isKeyword : last.name ∈ form.keywords)
    (resumes : form.resume mode name nodes last = .ok next) :
    NodeReads tags mode (afterSection tags mode name form nodes last rest) rest outcome final := by
  refine reads.after List.suffix_rfl fun before outer => ?_
  rw [afterSection_keyword isKeyword, resumes]
  rfl

end

/-! ## Blocks, from the bodies in them -/

section

variable {α : Type} {calls nesting : Nat} {described : Except ParseError α → List Fragment → Prop}
  {goOn : Nat → Nat → Option Fragment → Procedure (List Fragment) α}

theorem ends_next_nil (empty : Ends calls nesting (fun c k => goOn c k none) [] described) :
    Ends calls nesting (fun c k => next >>= goOn c k) [] described :=
  empty

theorem ends_next_cons {fragment : Fragment} {fragments : List Fragment}
    (taken : Ends calls nesting (fun c k => goOn c k (some fragment)) fragments described) :
    Ends calls nesting (fun c k => next >>= goOn c k) (fragment :: fragments) described :=
  taken

end

theorem skip_ends (keep : Bool) (head : TagHead) (text : String) (fragments : List Fragment) :
    Ends (fragments.length + 1) 0 (fun calls _ => skip keep head calls text) fragments
      (NodeReads tags mode (fun before outer => runFrom tags mode
        ⟨before, outer, some ⟨head.name, head.span, keep, text⟩⟩ fragments) fragments) := by
  induction fragments generalizing text with
  | nil =>
    refine Ends.call ?_ fun _ _ => skip.eq_2 ..
    exact ends_next_nil (ends_throw ⟨List.suffix_rfl, fun _ _ => rfl⟩)
  | cons fragment fragments ih =>
    refine Ends.call ?_ fun _ _ => skip.eq_2 ..
    refine ends_next_cons ?_
    dsimp only
    have steps before outer : runFrom tags mode
        ⟨before, outer, some ⟨head.name, head.span, keep, text⟩⟩ (fragment :: fragments) =
        runFrom tags mode (passOver ⟨before, outer, some ⟨head.name, head.span, keep, text⟩⟩
          ⟨head.name, head.span, keep, text⟩ fragment) fragments :=
      runFrom_cons
    by_cases closes : fragment.closes head.name
    · simp only [if_pos closes]
      refine ends_pure ⟨List.suffix_cons fragment fragments, fun before outer => ?_⟩
      rw [steps, passOver, if_pos closes]
      rfl
    · simp only [if_neg closes]
      refine (ih _).mono (Nat.le_refl _) (Nat.le_refl _) fun outcome rest reads => ?_
      refine reads.after (List.suffix_cons fragment fragments) fun before outer => ?_
      rw [steps, passOver, if_neg closes]

variable {size : Nat} {fragments : List Fragment}

theorem block_ends {name : String} {keywords : List String} {openedAt : Span}
    (inner : Ends (4 * fragments.length + 1) fragments.length
      (fun calls nesting => body tags mode calls nesting (.block name keywords openedAt) [])
      fragments (BodyReads tags mode (.block name keywords openedAt) [] fragments)) :
    Ends (4 * fragments.length + 2) (fragments.length + 1)
      (fun calls nesting => block tags mode calls nesting name keywords openedAt) fragments
      (BlockReads tags mode name keywords openedAt fragments) := by
  refine Ends.nested ?_ fun _ _ => block.eq_3 ..
  refine Ends.bind inner ?_ ?_
  · intro error rest reads
    refine ⟨reads.suffix, fun nodes last isOk => ?_, fun form before outer same => ?_⟩
    · cases isOk
    · exact reads.agrees _ (by rw [← same]; rfl)
  · rintro ⟨nodes, _ | last⟩ rest reads
    · -- The source may not end inside a block.
      have atDocument := (reads.exhausted nodes rfl).1
      cases atDocument
    · obtain ⟨checked, shorter⟩ := reads.ended nodes last rfl
      have ends := BodyEnd.check_block.1 checked
      refine ends_pure ⟨reads.suffix, ?_, fun form before outer same => ?_⟩
      · rintro _ _ ⟨⟩
        exact ⟨ends, shorter⟩
      · rw [← same] at ends
        exact (reads.agrees _ (by rw [← same]; rfl)).trans (endBody_block ends before outer)

/-- A section, and what is done with its body and with the tag that ends it. -/
theorem section_ends (blocks : BlocksEnd tags mode size) (short : fragments.length < size)
    (form : BlockForm) (name : String) (openedAt : Span)
    {goOn : Nat → Nat → List Node × TagHead → Procedure (List Fragment) Node}
    (after : ∀ nodes last (rest : List Fragment), rest.length < fragments.length →
      last.name = TagHead.endName name ∨ last.name ∈ form.keywords →
      Ends (4 * fragments.length + 2) (fragments.length + 1) (fun c k => goOn c k (nodes, last))
        rest (NodeReads tags mode (afterSection tags mode name form nodes last rest) rest)) :
    Ends (4 * fragments.length + 2) (fragments.length + 1)
      (fun c k => block tags mode c k name form.keywords openedAt >>= goOn c k) fragments
      (NodeReads tags mode (inSection tags mode name openedAt form fragments) fragments) := by
  refine Ends.bind (blocks fragments short name form.keywords openedAt) ?_ ?_
  · exact fun error rest reads => reads.failed
  · rintro ⟨nodes, last⟩ rest reads
    obtain ⟨ends, shorter⟩ := reads.ended nodes last rfl
    exact (after nodes last rest shorter ends).mono (Nat.le_refl _) (Nat.le_refl _)
      fun outcome final reads' => reads.goesOn reads'

/-- The last section of a block with this form, which no keyword resumes. -/
theorem lastSection_ends (blocks : BlocksEnd tags mode size) (short : fragments.length < size)
    (form : BlockForm) (name : String) (openedAt : Span) {repeated : TagHead → ParseError}
    (stops : ∀ nodes last, form.resume mode name nodes last = .error (repeated last)) :
    Ends (4 * fragments.length + 3) (fragments.length + 1)
      (fun calls nesting =>
        lastSection tags mode calls nesting name form.keywords openedAt repeated form.close)
      fragments
      (NodeReads tags mode (inSection tags mode name openedAt form fragments) fragments) := by
  refine Ends.call ?_ fun _ _ => lastSection.eq_2 ..
  refine section_ends blocks short form name openedAt fun nodes last rest _ ends => ?_
  by_cases isKeyword : last.name ∈ form.keywords
  · simp only [if_pos isKeyword]
    exact ends_throw (reads_refused isKeyword (stops nodes last))
  · simp only [if_neg isKeyword]
    exact ends_pure (reads_end (ends.resolve_right isKeyword))

/-- The section of a block that has no keywords. -/
theorem onlySection_ends (blocks : BlocksEnd tags mode size) (short : fragments.length < size)
    (form : BlockForm) {name : String} {openedAt : Span} (only : form.keywords = []) :
    Ends (4 * fragments.length + 2) (fragments.length + 1)
      (fun calls nesting => do
        let (nodes, _) ← block tags mode calls nesting name form.keywords openedAt
        return form.close nodes) fragments
      (NodeReads tags mode (inSection tags mode name openedAt form fragments) fragments) := by
  refine section_ends blocks short form name openedAt fun nodes last rest _ ends => ?_
  exact ends_pure (reads_end (ends.resolve_right (by simp [only])))

/-! ## The loops over sections -/

theorem conditions_ends (blocks : BlocksEnd tags mode size) (short : fragments.length < size)
    (name : String) (negate : Bool) (done : List (Section Condition Node)) (condition : Condition)
    (openedAt : Span) :
    Ends (4 * fragments.length + 3) (fragments.length + 1)
      (fun calls nesting =>
        conditions tags mode calls nesting name negate done condition openedAt) fragments
      (NodeReads tags mode
        (inSection tags mode name openedAt (.cond negate done condition) fragments) fragments) := by
  induction length : fragments.length using Nat.strongRecOn
    generalizing fragments done condition openedAt with
  | ind _ ih =>
    subst length
    refine Ends.call ?_ fun _ _ => conditions.eq_2 ..
    refine section_ends blocks short (.cond negate done condition) name openedAt
      fun nodes last rest shorter ends => ?_
    have shortRest := Nat.lt_trans shorter short
    dsimp only
    by_cases isElsif : last.name = "elsif"
    · have isKeyword : last.name ∈ (BlockForm.cond negate done condition).keywords := by
        simp [BlockForm.keywords, isElsif]
      have resumes : (BlockForm.cond negate done condition).resume mode name nodes last = do
          return .cond negate (done ++ [⟨condition, nodes⟩]) (← last.read mode Condition.parse) :=
        if_pos isElsif
      simp only [if_pos isElsif]
      refine ends_ofExcept_bind (fun error failed => ?_) fun guard read => ?_
      · exact reads_refused isKeyword (resumes.trans (by rw [failed]; rfl))
      · refine (ih rest.length shorter shortRest _ guard last.span rfl).mono (by omega)
          (by omega) ?_
        exact fun outcome final reads =>
          reads.resumed isKeyword (resumes.trans (by rw [read]; rfl))
    · simp only [if_neg isElsif]
      by_cases isElse : last.name = "else"
      · have isKeyword : last.name ∈ (BlockForm.cond negate done condition).keywords := by
          simp [BlockForm.keywords, isElse]
        simp only [if_pos isElse]
        have inner := lastSection_ends blocks shortRest
          (.condElse negate (done ++ [⟨condition, nodes⟩])) name last.span fun _ _ => rfl
        exact inner.mono (by omega) (by omega) fun outcome final reads =>
          reads.resumed isKeyword (if_neg isElsif)
      · simp only [if_neg isElse]
        exact ends_pure
          (reads_end (ends.resolve_right (by simp [BlockForm.keywords, isElsif, isElse])))

/-- The form is a case with these sections, once the one with the body `nodes` is done. -/
structure IsCase (mode : LexMode) (form : BlockForm) (nodes : List Node) (subject : Expr)
    (done : List (Section (List Expr) Node)) : Prop where
  keywords : form.keywords = ["when", "else"]
  closes : form.close nodes = .case subject done none
  resumes : ∀ name last, form.resume mode name nodes last =
    if last.name = "when" then do
      return .caseWhen subject done (← last.read mode (BlockForm.parseValues last.span))
    else .ok (.caseElse subject done)

theorem clauses_ends (blocks : BlocksEnd tags mode size) (short : fragments.length < size)
    {name : String} {subject : Expr} {done : List (Section (List Expr) Node)} {last : TagHead}
    {form : BlockForm} {nodes : List Node} (isCase : IsCase mode form nodes subject done)
    (ends : last.name = TagHead.endName name ∨ last.name ∈ form.keywords) :
    Ends (4 * fragments.length + 4) (fragments.length + 1)
      (fun calls nesting => clauses tags mode calls nesting name subject done last) fragments
      (NodeReads tags mode (afterSection tags mode name form nodes last fragments) fragments) := by
  induction length : fragments.length using Nat.strongRecOn
    generalizing fragments done last form nodes with
  | ind _ ih =>
    subst length
    refine Ends.call ?_ fun _ _ => clauses.eq_2 ..
    have resumes := isCase.resumes name last
    by_cases isWhen : last.name = "when"
    · have isKeyword : last.name ∈ form.keywords := by simp [isCase.keywords, isWhen]
      simp only [if_pos isWhen] at resumes ⊢
      refine ends_ofExcept_bind (fun error failed => ?_) fun values read => ?_
      · exact reads_refused isKeyword (resumes.trans (by rw [failed]; rfl))
      · refine (section_ends blocks short (.caseWhen subject done values) name last.span
          fun body next rest shorter endsNext => ?_).mono (Nat.le_succ _) (Nat.le_refl _)
          fun outcome final reads =>
            reads.resumed isKeyword (resumes.trans (by rw [read]; rfl))
        have isNext : IsCase mode (.caseWhen subject done values) body subject
            (done ++ [⟨values, body⟩]) := ⟨rfl, rfl, fun _ _ => rfl⟩
        exact (ih rest.length shorter (Nat.lt_trans shorter short) isNext endsNext rfl).raise
          (by omega) (by omega)
    · simp only [if_neg isWhen] at resumes ⊢
      by_cases isElse : last.name = "else"
      · have isKeyword : last.name ∈ form.keywords := by simp [isCase.keywords, isElse]
        simp only [if_pos isElse]
        exact (lastSection_ends blocks short (.caseElse subject done) name last.span
          fun _ _ => rfl).mono (Nat.le_refl _) (Nat.le_refl _) fun outcome final reads =>
            reads.resumed isKeyword resumes
      · simp only [if_neg isElse, ← isCase.closes]
        exact ends_pure
          (reads_end (ends.resolve_right (by simp [isCase.keywords, isWhen, isElse])))

/-- The sections of a case, with what stands before the first one. -/
theorem case_ends (blocks : BlocksEnd tags mode size) (short : fragments.length < size)
    (name : String) (subject : Expr) (openedAt : Span) :
    Ends (4 * fragments.length + 2) (fragments.length + 1)
      (fun calls nesting => do
        let (_, last) ← block tags mode calls nesting name ["when", "else"] openedAt
        clauses tags mode calls nesting name subject [] last) fragments
      (NodeReads tags mode (inSection tags mode name openedAt (.caseHead subject) fragments)
        fragments) := by
  refine section_ends blocks short (.caseHead subject) name openedAt
    fun nodes last rest shorter ends => ?_
  have isCase : IsCase mode (.caseHead subject) nodes subject [] := ⟨rfl, rfl, fun _ _ => rfl⟩
  exact (clauses_ends blocks (Nat.lt_trans shorter short) isCase ends).raise (by omega) (by omega)

theorem loop_ends (blocks : BlocksEnd tags mode size) (short : fragments.length < size)
    (name : String) (header : LoopHeader) (openedAt : Span) :
    Ends (4 * fragments.length + 2) (fragments.length + 1)
      (fun calls nesting => do
        let (nodes, last) ← block tags mode calls nesting name ["else"] openedAt
        if last.name = "else" then
          lastSection tags mode calls nesting name ["else"] last.span
            (fun last => .malformedAt "duplicate `else` in `for`" last.span)
            fun other => .loop header nodes (some other)
        else return .loop header nodes none) fragments
      (NodeReads tags mode (inSection tags mode name openedAt (.loop header) fragments)
        fragments) := by
  refine section_ends blocks short (.loop header) name openedAt
    fun nodes last rest shorter ends => ?_
  dsimp only
  by_cases isElse : last.name = "else"
  · have isKeyword : last.name ∈ (BlockForm.loop header).keywords := by
      simp [BlockForm.keywords, isElse]
    simp only [if_pos isElse]
    have inner := lastSection_ends blocks (Nat.lt_trans shorter short) (.loopElse header nodes) name
      last.span fun _ _ => rfl
    exact inner.mono (by omega) (by omega) fun outcome final reads => reads.resumed isKeyword rfl
  · simp only [if_neg isElse]
    exact ends_pure (reads_end (ends.resolve_right (by simp [BlockForm.keywords, isElse])))

end Descent

end TextTemplate
