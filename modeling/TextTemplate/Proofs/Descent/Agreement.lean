import TextTemplate.Proofs.Descent.Sections

/-!
# Recursive descent ends and agrees with the compiler

A tag is read with fewer fragments than the body around it was, and a block with no more than the
tag. So the recursion ends, with a bound on its calls that is linear in the number of fragments, and
blocks are nested no deeper than there are fragments (`Descent.reads_every_fragment_once`).
-/

namespace TextTemplate

open Procedure

namespace Descent

open Compiler

variable {tags : TagTable} {mode : LexMode} {size calls nesting : Nat} {fragments : List Fragment}

section

variable {rule : TagRule} {head : TagHead}

theorem reads_refusedTag {error : ParseError} (refuses : rule.read mode head = .error error) :
    NodeReads tags mode (atTag tags mode rule head fragments) fragments (.error error)
      fragments := by
  refine ⟨List.suffix_rfl, fun before outer => ?_⟩
  unfold atTag
  rw [refuses]
  rfl

theorem reads_singleTag {node : Node} (single : rule.read mode head = .ok (.node node)) :
    NodeReads tags mode (atTag tags mode rule head fragments) fragments (.ok node) fragments := by
  refine ⟨List.suffix_rfl, fun before outer => ?_⟩
  unfold atTag
  rw [single]
  rfl

theorem NodeReads.opened {form : BlockForm} {outcome : Except ParseError Node}
    {rest : List Fragment}
    (reads : NodeReads tags mode (inSection tags mode head.name head.span form fragments) fragments
      outcome rest)
    (opens : rule.read mode head = .ok (.block form)) :
    NodeReads tags mode (atTag tags mode rule head fragments) fragments outcome rest := by
  refine reads.after List.suffix_rfl fun before outer => ?_
  unfold atTag
  rw [opens]
  rfl

/-- A tag that is a node of its own takes nothing more. -/
theorem single_ends {α : Type} {outcome : Except ParseError α} {node : α → Node}
    (single : rule.read mode head = (do return .node (node (← outcome)))) :
    Ends calls nesting (fun _ _ => do return node (← ofExcept outcome)) fragments
      (NodeReads tags mode (atTag tags mode rule head fragments) fragments) := by
  refine ends_ofExcept_bind (fun error failed => ?_) fun value read => ends_pure ?_
  · exact reads_refusedTag (single.trans (by rw [failed]; rfl))
  · exact reads_singleTag (single.trans (by rw [read]; rfl))

/-- A tag that begins a block with a section of its own: the markup is read first. -/
theorem opening_ends {α : Type} {outcome : Except ParseError α} {form : α → BlockForm}
    {sections : Nat → Nat → α → Procedure (List Fragment) Node}
    (opens : rule.read mode head = (do return .block (form (← outcome))))
    (inner : ∀ value, Ends calls nesting (fun c k => sections c k value) fragments
      (NodeReads tags mode (inSection tags mode head.name head.span (form value) fragments)
        fragments)) :
    Ends calls nesting (fun c k => ofExcept outcome >>= sections c k) fragments
      (NodeReads tags mode (atTag tags mode rule head fragments) fragments) := by
  refine ends_ofExcept_bind (fun error failed => ?_) fun value read => ?_
  · exact reads_refusedTag (opens.trans (by rw [failed]; rfl))
  · refine (inner value).mono (Nat.le_refl _) (Nat.le_refl _) fun outcome final reads => ?_
    exact reads.opened (opens.trans (by rw [read]; rfl))

end

theorem tag_ends (blocks : BlocksEnd tags mode size) (short : fragments.length < size)
    (rule : TagRule) (head : TagHead) :
    Ends (4 * fragments.length + 4) (fragments.length + 1)
      (fun calls nesting => tag tags mode calls nesting rule head) fragments
      (NodeReads tags mode (atTag tags mode rule head fragments) fragments) := by
  cases rule <;> refine Ends.call ?_ fun _ _ => by rw [tag]
  case cond negate =>
    exact opening_ends rfl fun condition => conditions_ends blocks short head.name negate [] _ _
  case case =>
    exact (opening_ends rfl fun subject => case_ends blocks short head.name subject
      head.span).raise (Nat.le_succ _) (Nat.le_refl _)
  case loop =>
    exact (opening_ends rfl fun header => loop_ends blocks short head.name header
      head.span).raise (Nat.le_succ _) (Nat.le_refl _)
  case capture =>
    exact (opening_ends rfl fun name => onlySection_ends blocks short (.capture name) rfl).raise
      (Nat.le_succ _) (Nat.le_refl _)
  case changed =>
    exact (onlySection_ends blocks short .changed rfl).mono (Nat.le_succ _) (Nat.le_refl _)
      fun outcome final reads => reads.opened rfl
  case comment => exact (skip_ends false head "" fragments).raise (by omega) (Nat.zero_le _)
  case raw => exact (skip_ends true head "" fragments).raise (by omega) (Nat.zero_le _)
  case cycle => exact single_ends rfl
  case assign =>
    refine ends_ofExcept ?_
    have reading : TagRule.assign.read mode head =
        (do return .node (← TagRule.readAssign mode head)) := rfl
    cases read : TagRule.readAssign mode head with
    | error error => exact reads_refusedTag (reading.trans (by rw [read]; rfl))
    | ok node => exact reads_singleTag (reading.trans (by rw [read]; rfl))
  case increment => exact single_ends rfl
  case decrement => exact single_ends rfl
  case interrupt signal =>
    by_cases blank : head.markup.toList.all Text.isBlank
    · simp only [if_pos blank]
      exact ends_pure (reads_singleTag (if_pos blank))
    · simp only [if_neg blank]
      exact ends_throw (reads_refusedTag (if_neg blank))
  case host rule =>
    refine ends_ofExcept_bind (fun error failed => ?_) fun action read => ?_
    · exact reads_refusedTag (by rw [TagRule.read, failed]; rfl)
    · cases action with
      | inline inner keeps => exact ends_pure (reads_singleTag (by rw [TagRule.read, read]; rfl))
      | block run =>
        exact (onlySection_ends blocks short (.host run) rfl).mono (Nat.le_succ _)
          (Nat.le_refl _) fun outcome final reads =>
            reads.opened (by rw [TagRule.read, read]; rfl)

/-- The end of the source ends the body, or it is an error. -/
theorem exhausted_ends (bodyEnd : BodyEnd) (nodes : List Node) :
    Ends calls nesting (fun _ _ => do
      ofExcept (bodyEnd.check none)
      return (nodes.reverse, none)) [] (BodyReads tags mode bodyEnd nodes []) := by
  have finishes blocks (same : bodyEnd = Compiler.bodyEnd ⟨nodes, blocks, none⟩) :
      runFrom tags mode ⟨nodes, blocks, none⟩ [] = bodyEnd.check none >>= fun _ =>
        .ok nodes.reverse := by
    subst same
    rfl
  refine ends_ofExcept_bind (fun error failed => ?_) fun _ checked => ?_
  · refine bodyReads_error List.suffix_rfl fun blocks same => ?_
    rw [finishes blocks same, failed]
    rfl
  · refine ends_pure ⟨List.suffix_rfl, ?_, fun _ _ => ?_, fun blocks same => ?_⟩
    · rintro _ _ ⟨⟩
    · cases bodyEnd with
      | document => exact ⟨rfl, rfl⟩
      | block => cases checked
    · rw [finishes blocks same, checked]
      rfl

/-- A tag without a rule ends the body, or it is an error. -/
theorem unruled_ends (bodyEnd : BodyEnd) (nodes : List Node) {fragment : Fragment}
    (kind : fragment.kind = .markup .tag) (unknown : tags.get? fragment.tagHead.name = none) :
    Ends calls nesting (fun _ _ => do
      ofExcept (bodyEnd.check (some fragment.tagHead))
      return (nodes.reverse, some fragment.tagHead)) fragments
      (BodyReads tags mode bodyEnd nodes (fragment :: fragments)) := by
  have steps blocks : runFrom tags mode ⟨nodes, blocks, none⟩ (fragment :: fragments) =
      endBody ⟨nodes, blocks, none⟩ mode fragment.tagHead >>= fun after =>
        runFrom tags mode after fragments := by
    rw [runFrom_cons, step]
    simp only [kind, unknown]
  have suffix := List.suffix_cons fragment fragments
  refine ends_ofExcept_bind (fun error failed => ?_) fun _ checked => ?_
  · refine bodyReads_error suffix fun blocks same => ?_
    subst same
    rw [steps, endBody, failed]
    rfl
  · refine ends_pure ⟨suffix, ?_, ?_, fun blocks _ => ?_⟩
    · rintro _ _ ⟨⟩
      exact ⟨checked, Nat.lt_succ_self _⟩
    · rintro _ ⟨⟩
    · change _ = endBody ⟨nodes.reverse.reverse, blocks, none⟩ mode fragment.tagHead >>=
        fun after => runFrom tags mode after fragments
      rw [steps, List.reverse_reverse]

/-- A tag with a rule is read, and then the rest of the body. -/
theorem ruled_ends (blocks : BlocksEnd tags mode size) (short : fragments.length < size)
    {bodyEnd : BodyEnd} {nodes : List Node} {fragment : Fragment} {rule : TagRule}
    (kind : fragment.kind = .markup .tag) (known : tags.get? fragment.tagHead.name = some rule)
    (goesOn : ∀ (rest : List Fragment) (nodes : List Node), rest.length ≤ fragments.length →
      Ends (4 * rest.length + 1) rest.length (fun c k => body tags mode c k bodyEnd nodes) rest
        (BodyReads tags mode bodyEnd nodes rest)) :
    Ends (4 * fragments.length + 4) (fragments.length + 1)
      (fun calls nesting => do
        let node ← tag tags mode calls nesting rule fragment.tagHead
        body tags mode calls nesting bodyEnd (node :: nodes)) fragments
      (BodyReads tags mode bodyEnd nodes (fragment :: fragments)) := by
  have suffix := List.suffix_cons fragment fragments
  have steps before outer : runFrom tags mode ⟨before, outer, none⟩ (fragment :: fragments) =
      atTag tags mode rule fragment.tagHead fragments before outer := by
    rw [runFrom_cons, step]
    simp only [kind, known]
    rw [bind_assoc]
    rfl
  refine Ends.bind (tag_ends blocks short rule fragment.tagHead)
    (fun error rest reads => ?_) fun node rest reads => ?_
  · refine bodyReads_error (reads.suffix.trans suffix) fun blocks _ => ?_
    exact (steps nodes blocks).trans (reads.agrees nodes blocks)
  · have shorter := reads.suffix.length_le
    refine (goesOn rest (node :: nodes) shorter).mono (by omega) (by omega) ?_
    refine fun outcome final after => after.after (reads.suffix.trans suffix) fun blocks => ?_
    exact (steps nodes blocks).trans (reads.agrees nodes blocks)

theorem body_ends (blocks : BlocksEnd tags mode size) (short : fragments.length ≤ size)
    (bodyEnd : BodyEnd) (nodes : List Node) :
    Ends (4 * fragments.length + 1) fragments.length
      (fun calls nesting => body tags mode calls nesting bodyEnd nodes) fragments
      (BodyReads tags mode bodyEnd nodes fragments) := by
  induction length : fragments.length using Nat.strongRecOn generalizing fragments nodes with
  | ind _ ih =>
    subst length
    refine Ends.call ?_ fun _ _ => body.eq_2 ..
    cases fragments with
    | nil => exact ends_next_nil (exhausted_ends bodyEnd nodes)
    | cons fragment fragments =>
      have suffix := List.suffix_cons fragment fragments
      have goesOn (rest : List Fragment) (nodes : List Node)
          (shorter : rest.length ≤ fragments.length) :
          Ends (4 * rest.length + 1) rest.length
            (fun calls nesting => body tags mode calls nesting bodyEnd nodes) rest
            (BodyReads tags mode bodyEnd nodes rest) :=
        ih rest.length (Nat.lt_succ_of_le shorter) (Nat.le_trans shorter (Nat.le_of_lt short)) nodes
          rfl
      have bound : 4 * fragments.length + 1 ≤ 4 * (fragment :: fragments).length := by
        rw [List.length_cons]
        omega
      have steps blocks : runFrom tags mode ⟨nodes, blocks, none⟩ (fragment :: fragments) = _ :=
        runFrom_cons
      refine ends_next_cons ?_
      dsimp only
      cases kind : fragment.kind with
      | text =>
        refine (goesOn fragments _ (Nat.le_refl _)).mono bound (Nat.le_succ _) ?_
        refine fun outcome rest reads => reads.after suffix fun blocks => ?_
        rw [steps, step]
        simp only [kind]
        rfl
      | markup delimiter =>
        cases delimiter with
        | object =>
          refine ends_ofExcept_bind (fun error failed => ?_) fun pipeline read => ?_
          · refine bodyReads_error suffix fun blocks _ => ?_
            rw [steps, step]
            simp only [kind, failed]
            rfl
          · refine (goesOn fragments _ (Nat.le_refl _)).mono bound (Nat.le_succ _) ?_
            refine fun outcome rest reads => reads.after suffix fun blocks => ?_
            rw [steps, step]
            simp only [kind, read]
            rfl
        | tag =>
          cases known : tags.get? fragment.tagHead.name with
          | some rule => exact ruled_ends blocks short kind known goesOn
          | none => exact unruled_ends bodyEnd nodes kind known

theorem blocks_end (size : Nat) : BlocksEnd tags mode size := by
  induction size with
  | zero => exact fun fragments short => absurd short (Nat.not_lt_zero _)
  | succ size ih =>
    exact fun fragments short name keywords openedAt =>
      block_ends (body_ends ih (Nat.le_of_lt_succ short) _ _)

theorem document_ends (tags : TagTable) (mode : LexMode) (fragments : List Fragment) :
    Ends (4 * fragments.length + 1) fragments.length (document tags mode) fragments
      fun outcome rest => rest <:+ fragments ∧ (∀ nodes, outcome = .ok nodes → rest = []) ∧
        Compiler.run tags mode fragments = outcome := by
  refine Ends.bind (body_ends (blocks_end _) (Nat.le_refl _) .document [])
    (fun error rest reads => ?_) fun value rest reads => ?_
  · refine ⟨reads.suffix, fun nodes isOk => ?_, reads.agrees [] rfl⟩
    cases isOk
  · obtain ⟨nodes, ended⟩ := value
    cases ended with
    | none =>
      exact ends_pure ⟨reads.suffix, fun _ _ => (reads.exhausted nodes rfl).2, reads.agrees [] rfl⟩
    | some last =>
      -- No tag without a rule ends the body of a template.
      have checked := (reads.ended nodes last rfl).1
      cases checked

/-- Every call comes to an end and leaves a suffix of the fragments it found. The bound on calls
that is enough is linear in the number of fragments, and blocks are nested no deeper than there are
fragments (a block is itself one level).

A body ends with no tag exactly if it is the body of a template, so the error of a block for a body
without an end is not met; and then all fragments are taken. A block that is read has taken at least
one fragment. The template as a whole takes all of them, unless there is an error, and comes out as
the compiler has it. -/
theorem reads_every_fragment_once (tags : TagTable) (mode : LexMode) (fragments : List Fragment) :
    (∀ bodyEnd nodes, Ends (4 * fragments.length + 1) fragments.length
      (fun calls nesting => body tags mode calls nesting bodyEnd nodes) fragments
      fun outcome rest => rest <:+ fragments ∧
        ∀ result ended, outcome = .ok (result, ended) →
          (ended = none ↔ bodyEnd = .document) ∧ (ended = none → rest = [])) ∧
    (∀ name keywords openedAt, Ends (4 * fragments.length + 2) (fragments.length + 1)
      (fun calls nesting => block tags mode calls nesting name keywords openedAt) fragments
      fun outcome rest => rest <:+ fragments ∧
        ∀ result, outcome = .ok result → rest.length < fragments.length) ∧
    (∀ rule head, Ends (4 * fragments.length + 4) (fragments.length + 1)
      (fun calls nesting => tag tags mode calls nesting rule head) fragments
      fun _ rest => rest <:+ fragments) ∧
    Ends (4 * fragments.length + 1) fragments.length (document tags mode) fragments
      fun outcome rest => rest <:+ fragments ∧ (∀ nodes, outcome = .ok nodes → rest = []) ∧
        Compiler.run tags mode fragments = outcome := by
  refine ⟨fun bodyEnd nodes => ?_, fun name keywords openedAt => ?_, fun rule head => ?_,
    document_ends tags mode fragments⟩
  · refine (body_ends (blocks_end _) (Nat.le_refl _) bodyEnd nodes).mono (Nat.le_refl _)
      (Nat.le_refl _) ?_
    refine fun outcome rest reads => ⟨reads.suffix, fun result ended isOk => ?_⟩
    cases ended with
    | none =>
      obtain ⟨atDocument, empty⟩ := reads.exhausted result isOk
      exact ⟨iff_of_true rfl atDocument, fun _ => empty⟩
    | some last =>
      refine ⟨iff_of_false (Option.some_ne_none last) ?_, fun isNone => ?_⟩
      · rintro rfl
        have checked := (reads.ended result last isOk).1
        cases checked
      · cases isNone
  · refine (blocks_end (fragments.length + 1) fragments (Nat.lt_succ_self _) name keywords
      openedAt).mono (Nat.le_refl _) (Nat.le_refl _) ?_
    refine fun outcome rest reads => ⟨reads.suffix, ?_⟩
    rintro ⟨nodes, last⟩ isOk
    exact (reads.ended nodes last isOk).2
  · exact (tag_ends (blocks_end _) (Nat.lt_succ_self _) rule head).mono (Nat.le_refl _)
      (Nat.le_refl _) fun outcome rest reads => reads.suffix

end Descent

end TextTemplate
