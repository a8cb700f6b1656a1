import TextTemplate.Proofs.Cycles

/-!
# Repeats are left out

All `changed` nodes share one register. Comparing a text leaves this text there, whether it was
written or left out, and nothing else that a render does moves the register. So each comparison of a
render finds there the text of the comparison before it, and a text is left out just if it repeats
that one (`Node.changed_drops_repeats`).
-/

namespace TextTemplate

variable {text : String} {context : Context}

/-! ## One comparison -/

namespace Render

/-- A repeated text is left out, and the state stays as it is. -/
theorem ifChanged_repeated (repeated : context.register changedRegister = .string text) :
    ifChanged text context = .ok "" context := by
  have found : register changedRegister context = .ok (.string text) context :=
    congrArg (EStateM.Result.ok · context) repeated
  exact (bind_of_ok found).trans (congrFun (if_pos (beq_self_eq_true text)) context)

/-- Any other text is written, and kept in the register. -/
theorem ifChanged_fresh (fresh : context.register changedRegister ≠ .string text) :
    ifChanged text context = .ok text (context.setRegister changedRegister (.string text)) := by
  have found : register changedRegister context = .ok (context.register changedRegister) context :=
    rfl
  refine (bind_of_ok found).trans (congrFun (if_neg ?_) context)
  split
  · next last isLast => exact fun same => fresh (isLast.trans (congrArg _ (beq_iff_eq.1 same)))
  · exact Bool.false_ne_true

theorem shown?_ifChanged_fresh (fresh : context.register changedRegister ≠ .string text) :
    shown? (ifChanged text) context = some text := by
  unfold shown?
  rw [ifChanged_fresh fresh]

/-- After the text `last` a text is written if it is another one. -/
theorem shown?_ifChanged {last : String}
    (isLast : context.register changedRegister = .string last) :
    shown? (ifChanged text) context = some (if last = text then "" else text) := by
  by_cases repeated : last = text
  · subst repeated
    unfold shown?
    rw [ifChanged_repeated isLast, if_pos rfl]
  · rw [if_neg repeated]
    exact shown?_ifChanged_fresh fun same => repeated (Data.string.inj (isLast.symm.trans same))

/-- A text that was compared is in the register, written or not. -/
theorem register_ifChanged (text : String) (context : Context) :
    ((ifChanged text).stateAfter context).register changedRegister = .string text := by
  by_cases repeated : context.register changedRegister = .string text
  · rw [stateAfter_ok (ifChanged_repeated repeated), repeated]
  · rw [stateAfter_ok (ifChanged_fresh repeated), Context.register_setRegister, if_pos rfl]

end Render

/-- A cycle keeps the register of the `changed` nodes. -/
theorem Cycle.register_changed (cycle : Cycle) (context : Context) :
    (cycle.render.stateAfter context).register changedRegister =
      context.register changedRegister := by
  cases found : cycle.slot? context with
  | none => exact register_render_of_noSlot found changedRegister
  | some slot =>
    rw [register_render found, if_neg slot.register_free.2.symm]

/-! ## Comparisons along a render -/

/-- The text that is about to be compared, with the state. -/
def Visit.changed? (visit : Visit) : Option (String × Context) :=
  match visit.moment with
  | .comparison text => some (text, visit.context)
  | _ => none

namespace Visit

variable {visit : Visit} {visits : List Visit} {first last : Data}

theorem changed?_eq_some :
    visit.changed? = some (text, context) ↔
      visit.moment = .comparison text ∧ visit.context = context := by
  obtain ⟨moment, loops, here⟩ := visit
  cases moment <;> simp [changed?]

/-- A comparison leaves its text in the register. -/
theorem leaves_of_changed (found : visit.changed? = some (text, context)) :
    visit.leaves changedRegister = .string text := by
  obtain ⟨isComparison, -⟩ := changed?_eq_some.1 found
  unfold leaves
  rw [isComparison]
  exact Render.register_ifChanged text visit.context

/-- No other point moves the register. -/
theorem leaves_of_not_changed (missing : visit.changed? = none) :
    visit.leaves changedRegister = visit.context.register changedRegister := by
  obtain ⟨moment, loops, here⟩ := visit
  unfold leaves
  split
  · exact Cycle.register_changed _ here
  · next text isComparison =>
    obtain rfl : moment = .comparison text := isComparison
    cases missing
  · rfl

/-- Each comparison finds the text of the one before it in the register, and the first of them what
was there before all points. -/
theorem HandsOn.finds_last (handsOn : HandsOn changedRegister first visits last) {k : Nat}
    (compared : (visits.filterMap changed?)[k]? = some (text, context)) :
    (first :: (visits.filterMap changed?).map fun compared => .string compared.1)[k]? =
      some (context.register changedRegister) := by
  -- the induction is on the points: a comparison replaces what the next one finds by its text, and
  -- any other point leaves it
  induction visits generalizing first k with
  | nil => cases compared
  | cons visit visits ih =>
    obtain ⟨rfl, later⟩ := handsOn
    cases found : visit.changed? with
    | none =>
      rw [List.filterMap_cons_none found] at compared ⊢
      rw [leaves_of_not_changed found] at later
      exact ih later compared
    | some member =>
      rw [List.filterMap_cons_some found] at compared ⊢
      cases k with
      | zero =>
        cases compared
        obtain ⟨-, rfl⟩ := changed?_eq_some.1 found
        rfl
      | succ k =>
        rw [leaves_of_changed found] at later
        exact ih later compared

end Visit

namespace Node

/-- The texts of the `changed` nodes that a render of the tree comes by, in the order in which their
bodies end, each with the state in which it is compared. -/
def changedTexts (filters : FilterTable) (tree : List Node) (root : Data) (drops : DropStore) :
    List (String × Context) :=
  ((traceBody filters [] "" tree).visits (.start root drops)).filterMap Visit.changed?

/-- In a render of a tree of built-in nodes the text of a `changed` node is written if it is the
first such text or differs from the one before it, and else nothing is written in its place. The
texts come in the order in which the bodies end: that of a node comes right after those inside its
body, and a body that fails has none. A body that an interrupt cuts short ends with the text that it
has. -/
theorem changed_drops_repeats (filters : FilterTable) :
    (∀ (tree : List Node) (root : Data) (drops : DropStore), BuiltIn tree →
      let texts := changedTexts filters tree root drops
      ∀ (k : Nat) (text : String) (context : Context), texts[k]? = some (text, context) →
        Render.shown? (Render.ifChanged text) context =
          some (if k = 0 ∨ (texts[k - 1]?).map Prod.fst ≠ some text then text else "")) ∧
    ∀ (body : List Node) (loops : List RunningLoop) (context : Context),
      let inside := (traceBody filters loops "" body).visits context
      let points := (Node.changed body).trace filters loops |>.visits context
      match renderBody filters "" body context with
      | .ok text after =>
        points = inside ++ [⟨.comparison text, loops, after⟩] ∧
          (Node.changed body).render filters context = Render.ifChanged text after
      | .error error after =>
        points = inside ∧ (Node.changed body).render filters context = .error error after := by
  refine ⟨fun tree root drops builtIn => ?_, fun body loops context => ?_⟩
  · intro texts k text context compared
    have free : changedRegister ≠ Context.forRegister := by decide
    have handsOn : Traced.HandsOn changedRegister (traceBody filters [] "" tree) :=
      handsOn_traceBody free [] "" tree builtIn
    have finds := (handsOn (.start root drops)).finds_last compared
    cases k with
    | zero =>
      have unset : context.register changedRegister = .nil := (Option.some.inj finds).symm
      rw [if_pos (.inl rfl)]
      exact Render.shown?_ifChanged_fresh (unset ▸ nofun)
    | succ k =>
      rw [List.getElem?_cons_succ, List.getElem?_map] at finds
      obtain ⟨⟨last, before⟩, isBefore, isLast⟩ := Option.map_eq_some_iff.1 finds
      replace isBefore : texts[k]? = some (last, before) := isBefore
      rw [Render.shown?_ifChanged isLast.symm, Nat.add_sub_cancel, isBefore]
      simp
  · intro inside points
    have ends := congrFun (erase_traceBody filters loops "" body) context
    cases run : renderBody filters "" body context with
    | ok text after =>
      exact ⟨Traced.visits_bind_of_ok (ends.trans run), Render.bind_of_ok run⟩
    | error error after =>
      exact ⟨Traced.visits_bind_of_error (ends.trans run), Render.bind_of_error run⟩

/-- A `changed` node in a loop, which a `continue` cuts short, then one with another in its body and
one in a `capture`. The text of the inner one repeats that of the loop and is left out, so the node
around it has this text as well. -/
theorem changed_drops_repeats_nested :
    let tree : List Node := [
      .loop ⟨"x", .range (.int 1) (.int 3), false, none, none⟩
        [.changed [.text "a", .interrupt .continueLoop, .text "b"]] none,
      .changed [.changed [.text "a"], .text "a"],
      .capture "y" [.changed [.text "b"]]]
    let texts := changedTexts .empty tree (.hash .empty) .empty
    texts.map Prod.fst = ["a", "a", "a", "a", "a", "b"] ∧
      (∃ context, texts[4]? = some ("a", context) ∧
        Render.shown? (Render.ifChanged "a") context = some "") ∧
      ∃ context, texts[5]? = some ("b", context) ∧
        Render.shown? (Render.ifChanged "b") context = some "b" := by
  intro tree texts
  have builtIn : BuiltIn tree := by
    simp [tree, bodies, isHost]
  have isTexts : texts.map Prod.fst = ["a", "a", "a", "a", "a", "b"] := by decide +kernel
  have compared (k : Nat) (text : String) (isText : (texts.map Prod.fst)[k]? = some text) :
      ∃ context, texts[k]? = some (text, context) := by
    rw [List.getElem?_map] at isText
    obtain ⟨⟨text, context⟩, member, rfl⟩ := Option.map_eq_some_iff.1 isText
    exact ⟨context, member⟩
  have drops := (changed_drops_repeats .empty).1 tree (.hash .empty) .empty builtIn
  obtain ⟨_, isThird⟩ := compared 3 "a" (by rw [isTexts]; rfl)
  obtain ⟨_, isFourth⟩ := compared 4 "a" (by rw [isTexts]; rfl)
  obtain ⟨_, isFifth⟩ := compared 5 "b" (by rw [isTexts]; rfl)
  have repeated := drops 4 "a" _ isFourth
  have fresh := drops 5 "b" _ isFifth
  rw [show 4 - 1 = 3 from rfl, isThird] at repeated
  rw [show 5 - 1 = 4 from rfl, isFourth] at fresh
  exact ⟨isTexts, ⟨_, isFourth, repeated⟩, _, isFifth, fresh⟩

end Node

end TextTemplate
