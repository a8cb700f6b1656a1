import TextTemplate.Proofs.Conditions
import TextTemplate.Proofs.Keeps

/-!
# Chains of branches

A conditional with several sections is nothing but nested conditionals with one section each: what
comes after the first section may stand in the other body, or for a negated condition in the body of
the section (`Node.branches_nest`). So the conditions are evaluated in their order up to the first
that selects its section, which is all that is rendered.
-/

namespace TextTemplate

namespace Node

variable {filters : FilterTable} {negate : Bool} {sections : List (Section Condition Node)}
  {otherwise : Option (List Node)}

/-- What is left of a conditional after its first section: a conditional with the sections left, or
the other body alone. -/
def remaining (sections : List (Section Condition Node)) (otherwise : Option (List Node)) :
    Option (List Node) :=
  if sections.isEmpty then otherwise else some [.cond false sections otherwise]

/-- Conditionals with one section each, every one in the other body of the one before. -/
def twoWay : List (Section Condition Node) → Option (List Node) → Option (List Node)
  | [], otherwise => otherwise
  | part :: sections, otherwise => some [.cond false [part] (twoWay sections otherwise)]

theorem renderFirst_cons (filters : FilterTable) (last : Render String) (negate : Bool)
    (part : Section Condition Node) (sections : List (Section Condition Node))
    (context : Context) :
    renderFirst filters last negate (part :: sections) context =
      (Render.ofDrops (part.guard.eval context.root) >>= fun holds =>
        if holds != negate then renderBody filters "" part.body
        else renderFirst filters last false sections) context :=
  rfl

/-- A body with one node renders as the node. -/
theorem renderBody_singleton (filters : FilterTable) (node : Node) :
    renderBody filters "" [node] = node.render filters := by
  funext context
  unfold renderBody
  cases run : node.render filters context with
  | error error last => exact Render.bind_of_error run
  | ok text last =>
    have seen : Render.isInterrupted last = .ok last.interrupt.isSome last := rfl
    refine (Render.bind_of_ok run).trans ((Render.bind_of_ok seen).trans ?_)
    rw [renderBody, String.empty_append, ite_self]
    rfl

theorem renderOtherwise_remaining (filters : FilterTable)
    (sections : List (Section Condition Node)) (otherwise : Option (List Node)) :
    renderOtherwise filters (remaining sections otherwise) =
      renderFirst filters (renderOtherwise filters otherwise) false sections := by
  cases sections with
  | nil => rfl
  | cons part sections => exact renderBody_singleton filters _

theorem renderBody_getD (filters : FilterTable) (otherwise : Option (List Node)) :
    renderBody filters "" (otherwise.getD []) = renderOtherwise filters otherwise := by
  cases otherwise <;> rfl

/-- Nested conditionals render as the chain of their sections. -/
theorem renderOtherwise_twoWay (filters : FilterTable)
    (sections : List (Section Condition Node)) (otherwise : Option (List Node)) :
    renderOtherwise filters (twoWay sections otherwise) =
      renderFirst filters (renderOtherwise filters otherwise) false sections := by
  induction sections with
  | nil => rfl
  | cons part sections ih =>
    refine (renderBody_singleton filters _).trans ?_
    show renderFirst filters (renderOtherwise filters (twoWay sections otherwise)) false [part] = _
    rw [ih]
    rfl

/-! ## The section that is selected -/

/-- The truth values of so many conditions that select no section. -/
def passedOver (negate : Bool) : Nat → List Bool
  | 0 => []
  | count + 1 => negate :: List.replicate count false

theorem passedOver_false (count : Nat) : passedOver false count = List.replicate count false := by
  cases count <;> rfl

/-- One condition passed over, and then more of them, which are not negated. -/
theorem evalAll_passedOver {root : Data} {part : Section Condition Node} {store between last}
    {count : Nat} (passes : (part.guard.eval root).run store = some (negate, between))
    (later : (Condition.evalAll root ((sections.map Section.guard).take count)).run between =
      some (passedOver false count, last)) :
    (Condition.evalAll root (((part :: sections).map Section.guard).take (count + 1))).run store =
      some (passedOver negate (count + 1), last) := by
  rw [passedOver_false] at later
  exact Condition.run_evalAll_cons.2 ⟨between, passes, later⟩

/-- The conditions are evaluated in their order. -/
theorem renderFirst_selects (filters : FilterTable) (last : Render String) (negate : Bool)
    (sections : List (Section Condition Node)) (context : Context) :
    ∃ k drops,
      (Condition.evalAll context.root ((sections.map Section.guard).take k)).run context.drops =
        some (passedOver negate k, drops) ∧
      match sections[k]? with
      | none => k = sections.length ∧
        renderFirst filters last negate sections context = last { context with drops }
      | some part =>
        match (part.guard.eval context.root).run drops with
        | none => renderFirst filters last negate sections context =
          .error ⟨.endlessComparison, none⟩ { context with drops }
        | some (holds, left) => holds = !(negate && k == 0) ∧
          renderFirst filters last negate sections context =
            renderBody filters "" part.body { context with drops := left } := by
  -- only the first condition may be negated: the sections after one that is passed over have none
  induction sections generalizing negate context with
  | nil => exact ⟨0, context.drops, rfl, rfl, rfl⟩
  | cons part sections ih =>
    cases run : (part.guard.eval context.root).run context.drops with
    | none =>
      refine ⟨0, context.drops, rfl, ?_⟩
      rw [renderFirst_cons, Render.bind_of_error (Render.ofDrops_none run)]
      dsimp only [List.getElem?_cons_zero]
      rw [run]
    | some result =>
      obtain ⟨holds, between⟩ := result
      have begins : renderFirst filters last negate (part :: sections) context =
          (if holds != negate then renderBody filters "" part.body
            else renderFirst filters last false sections) { context with drops := between } :=
        (renderFirst_cons ..).trans (Render.bind_of_ok (Render.ofDrops_some run))
      by_cases selects : holds = negate
      · subst selects
        rw [bne_self_eq_false, if_neg Bool.false_ne_true] at begins
        obtain ⟨k, drops, passes, ends⟩ := ih false { context with drops := between }
        refine ⟨k + 1, drops, evalAll_passedOver run passes, ?_⟩
        rw [begins, List.getElem?_cons_succ, List.length_cons, Nat.add_right_cancel_iff]
        rw [Bool.false_and] at ends
        rw [beq_false_of_ne k.succ_ne_zero, Bool.and_false]
        exact ends
      · refine ⟨0, context.drops, rfl, ?_⟩
        dsimp only [List.getElem?_cons_zero]
        rw [run, begins, if_pos (bne_iff_ne.2 selects)]
        exact ⟨by cases holds <;> cases negate <;> simp_all, rfl⟩

/-- A conditional renders as one with its first section alone, and what is left of it in the other
body; if the first condition is negated, as one with what is left in place of the body and the body
of the section in place of the other one. So conditionals with one section each do for all others.
The conditions are evaluated in their order, up to the first that holds, or of which the negation
does, and no further: its section is the one that is rendered, from the drops that the conditions
leave. Only the first condition is ever negated. -/
theorem branches_nest (filters : FilterTable) :
    (∀ (condition : Condition) (body : List Node) (sections : List (Section Condition Node))
      (otherwise : Option (List Node)),
      (Node.cond false (⟨condition, body⟩ :: sections) otherwise).render filters =
        (Node.cond false [⟨condition, body⟩] (remaining sections otherwise)).render filters ∧
      (Node.cond true (⟨condition, body⟩ :: sections) otherwise).render filters =
        (Node.cond false [⟨condition, (remaining sections otherwise).getD []⟩]
          (some body)).render filters) ∧
    (∀ (sections : List (Section Condition Node)) (otherwise : Option (List Node)),
      (Node.cond false sections otherwise).render filters =
        renderOtherwise filters (twoWay sections otherwise)) ∧
    ∀ (negate : Bool) (sections : List (Section Condition Node)) (otherwise : Option (List Node))
      (context : Context), ∃ k drops,
      (Condition.evalAll context.root ((sections.map Section.guard).take k)).run context.drops =
        some (passedOver negate k, drops) ∧
      match sections[k]? with
      | none => k = sections.length ∧
        (Node.cond negate sections otherwise).render filters context =
          renderOtherwise filters otherwise { context with drops }
      | some part =>
        match (part.guard.eval context.root).run drops with
        | none => (Node.cond negate sections otherwise).render filters context =
          .error ⟨.endlessComparison, none⟩ { context with drops }
        | some (holds, last) => holds = !(negate && k == 0) ∧
          (Node.cond negate sections otherwise).render filters context =
            renderBody filters "" part.body { context with drops := last } := by
  refine ⟨fun condition body sections otherwise => ⟨?_, ?_⟩, fun sections otherwise => ?_,
    fun negate sections otherwise context => ?_⟩
  · show _ = renderFirst filters (renderOtherwise filters (remaining sections otherwise)) false _
    rw [renderOtherwise_remaining]
    rfl
  · funext context
    show renderFirst filters _ true _ context = renderFirst filters _ false _ context
    rw [renderFirst_cons, renderFirst_cons]
    refine congrFun (bind_congr fun holds => ?_) context
    dsimp only
    rw [renderBody_getD, renderOtherwise_remaining]
    cases holds <;> rfl
  · exact (renderOtherwise_twoWay filters sections otherwise).symm
  · exact renderFirst_selects filters (renderOtherwise filters otherwise) negate sections context

end Node

end TextTemplate
