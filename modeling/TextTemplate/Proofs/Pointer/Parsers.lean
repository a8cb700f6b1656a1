import TextTemplate.Proofs.Pointer.Moves

/-!
# Parsers move forward

Each parser does on a cursor, with its bound on the recursion, what it does on an index
(`Pointer.Moves`). The induction is on the bound of the cursor's parsers. It is not met because each
round of a loop and each level of brackets takes a token, although an expression may take none: then
an end token stands there, and no loop goes on from it. For the same reason the calls on the index
that stand on top of each other are at most three for each token that is left, and a few more.
-/

namespace TextTemplate

namespace Pointer

open Cursor (LeadsTo leadsTo_advance position_advance later_advance)

variable {α : Type} {needs : Nat} {cursor : Cursor}

/-- The action takes a token if it is successful. -/
def Advances (cursor : Cursor) (outcome : Except ParseError α) (last : Cursor) : Prop :=
  ∀ value, outcome = .ok value → cursor.position < last.position

theorem advances_error {error : ParseError} {last : Cursor} :
    Advances cursor (.error error : Except ParseError α) last := by
  intro _ isOk
  cases isOk

theorem advances_of_advance {outcome : Except ParseError α} {last : Cursor}
    (ended : cursor.Ended) (noEnd : cursor.current.kind ≠ .endOfMarkup)
    (leads : cursor.advance.LeadsTo last) : Advances cursor outcome last := by
  intro _ _
  have next := position_advance ended noEnd
  have after := leads.position
  omega

theorem moves_number (ended : cursor.Ended) {kind : TokenKind}
    (isKind : cursor.current.kind = kind) (noEnd : kind ≠ .endOfMarkup)
    (read : List Char → Option α) :
    Moves needs
      (fun _ => number (read cursor.current.text.toList) cursor.current.text cursor.span)
      (Expr.parseNumber kind read) cursor (Advances cursor) := by
  unfold number Expr.parseNumber
  refine moves_get (moves_step (discard_consume_pointer ended) (Parser.run_expect isKind)
    (leadsTo_advance ended) ?_)
  have advances {outcome : Except ParseError α} : Advances cursor outcome cursor.advance :=
    advances_of_advance ended (isKind ▸ noEnd) (LeadsTo.refl _)
  cases read cursor.current.text.toList with
  | none => exact moves_throw advances
  | some value => exact moves_pure advances

theorem moves_keys (ended : cursor.Ended) :
    Moves needs (fun _ => keys) Expr.parseKeys cursor (Advances cursor) := by
  rw [keys, Expr.parseKeys]
  refine moves_look (current_pointer cursor) (moves_get ?_)
  have advances {outcome : Except ParseError (List Step)}
      (noEnd : cursor.current.kind ≠ .endOfMarkup) : Advances cursor outcome cursor.advance :=
    advances_of_advance ended noEnd (LeadsTo.refl _)
  have fails {kind : TokenKind} :
      Moves needs (fun _ => do throw (← unexpected kind) : Nat → Procedure Pointer (List Step))
        (throw (cursor.unexpected kind)) cursor (Advances cursor) :=
    moves_look (unexpected_pointer kind cursor) (moves_throw advances_error)
  cases isKind : cursor.current.kind
  case identifier | integer | float =>
    exact moves_step (discard_consume_pointer ended) rfl (leadsTo_advance ended)
      (moves_pure (advances (by simp [isKind])))
  all_goals exact fails

theorem moves_index {key : Parser Expr} (ended : cursor.Ended)
    (inner : ∀ last, cursor.LeadsTo last → cursor.position < last.position →
      Moves needs expr key last fun _ _ => True) :
    Moves (needs + 1) index (Expr.parseIndex key) cursor (Advances cursor) := by
  rw [Expr.parseIndex]
  refine Moves.call ?_ index.eq_2
  have opens : Moves needs (fun _ => discard (expect .openSquare))
      (discard (Parser.expect .openSquare)) cursor (Advances cursor) := by
    refine (moves_expect ended .openSquare).discard (fun _ _ _ _ => advances_error)
      fun token last _ taken _ _ => ?_
    rcases taken with ⟨isKind, -, rfl⟩ | ⟨⟨_, failed⟩, -⟩
    · rw [position_advance ended (by simp [isKind])]
      omega
    · cases failed
  refine opens.bind (fun _ _ _ _ => advances_error) fun _ middle leads further => ?_
  refine (inner middle leads (further () rfl)).bind (fun _ _ _ _ => advances_error)
    fun key last after _ => ?_
  have closes : Moves needs (fun _ => discard (expect .closeSquare))
      (discard (Parser.expect .closeSquare)) last fun _ _ => True :=
    (moves_expect (after.ended (leads.ended ended)) .closeSquare).discard (fun _ _ _ _ => trivial)
      fun _ _ _ _ => trivial
  refine closes.bind (fun _ _ _ _ => advances_error) fun _ _ ends _ => moves_pure fun _ _ => ?_
  have positions := further () rfl
  have later := after.position
  have final := ends.position
  omega

/-- Where an expression has taken no token, none is left and it is nil. -/
def ReadsExpr (cursor : Cursor) (outcome : Except ParseError Expr) (last : Cursor) : Prop :=
  ∀ value, outcome = .ok value →
    cursor.position < last.position ∨ cursor.isAtEnd ∧ last = cursor ∧ value = .nil

theorem Moves.readsExpr {action : Nat → Procedure Pointer α} {parser : Parser α}
    (moves : Moves needs action parser cursor (Advances cursor)) (result : α → Expr) :
    Moves needs (fun calls => do return result (← action calls)) (do return result (← parser))
      cursor (ReadsExpr cursor) := by
  refine moves.bind (fun error last _ _ _ isOk => ?_) fun value last _ further => ?_
  · cases isOk
  · exact moves_pure fun _ _ => .inl (further value rfl)

/-- With this bound on the recursion the parsers of expressions, lookups and further steps do not
meet it where half as many tokens are left. -/
structure ExpressionsMove (fuel : Nat) : Prop where
  expr : ∀ cursor : Cursor, cursor.Ended → 2 * (cursor.later.length + 1) ≤ fuel →
    Moves (3 * cursor.later.length + 3) expr (Expr.parseWith fuel) cursor (ReadsExpr cursor)
  path : ∀ cursor : Cursor, cursor.Ended → 2 * (cursor.later.length + 1) ≤ fuel + 1 →
    Moves (3 * cursor.later.length + 2) path (Expr.parsePathWith fuel) cursor (Advances cursor)
  steps : ∀ cursor : Cursor, cursor.Ended → 2 * (cursor.later.length + 1) ≤ fuel + 1 →
    Moves (3 * cursor.later.length + 2) steps (Expr.parseStepsWith fuel) cursor fun _ _ => True

namespace ExpressionsMove

variable {fuel : Nat} (inner : ExpressionsMove fuel)

include inner

theorem bracket (ended : cursor.Ended) (enough : 2 * (cursor.later.length + 1) ≤ fuel + 2) :
    Moves (3 * cursor.later.length + 1) index (Expr.parseIndex (Expr.parseWith fuel)) cursor
      (Advances cursor) := by
  refine moves_index ended fun last leads further => ?_
  have fewer := leads.later_lt further
  exact (inner.expr last (leads.ended ended) (by omega)).mono (by omega) fun _ _ _ _ => trivial

/-- The steps after a part of a lookup that has taken a token. -/
theorem stepsAfter {last : Cursor} (ended : cursor.Ended)
    (enough : 2 * (cursor.later.length + 1) ≤ fuel + 2) (leads : cursor.LeadsTo last)
    (further : cursor.position < last.position) :
    Moves (3 * cursor.later.length + 1) Pointer.steps (Expr.parseStepsWith fuel) last
      fun _ _ => True := by
  have fewer := leads.later_lt further
  exact (inner.steps last (leads.ended ended) (by omega)).raise (by omega)

theorem expr_succ (ended : cursor.Ended) (enough : 2 * (cursor.later.length + 1) ≤ fuel + 1) :
    Moves (3 * cursor.later.length + 3) Pointer.expr (Expr.parseWith (fuel + 1)) cursor
      (ReadsExpr cursor) := by
  rw [Expr.parseWith]
  refine Moves.call ?_ Pointer.expr.eq_2
  refine moves_look (current_pointer cursor) (moves_look (span_pointer cursor) (moves_get ?_))
  cases isKind : cursor.current.kind
  case endOfMarkup =>
    refine moves_pure fun value isNil => .inr ⟨?_, rfl, (Except.ok.inj isNil).symm⟩
    simp [Cursor.isAtEnd, Cursor.isAt, isKind]
  case string =>
    have next := position_advance ended (by simp [isKind])
    exact moves_step (discard_consume_pointer ended) rfl (leadsTo_advance ended)
      (moves_pure fun _ _ => .inl (by omega))
  case integer => exact (moves_number ended isKind (by decide) Number.read?).readsExpr .int
  case float => exact (moves_number ended isKind (by decide) Number.readFloat?).readsExpr .float
  all_goals exact (inner.path cursor ended enough).readsExpr .ofPath

theorem path_succ (ended : cursor.Ended) (enough : 2 * (cursor.later.length + 1) ≤ fuel + 2) :
    Moves (3 * cursor.later.length + 2) Pointer.path (Expr.parsePathWith (fuel + 1)) cursor
      (Advances cursor) := by
  rw [Expr.parsePathWith]
  refine Moves.call ?_ Pointer.path.eq_2
  have goesOn {middle : Cursor} (leads : cursor.LeadsTo middle)
      (further : cursor.position < middle.position) (head : Step) :
      Moves (3 * cursor.later.length + 1) (fun calls => do return head :: (← Pointer.steps calls))
        (do return head :: (← Expr.parseStepsWith fuel)) middle (Advances cursor) := by
    refine (inner.stepsAfter ended enough leads further).bind (fun _ _ _ _ => advances_error)
      fun rest last after _ => moves_pure fun _ _ => ?_
    exact Nat.lt_of_lt_of_le further after.position
  refine moves_if_isAt .openSquare (fun _ => ?_) fun _ => ?_
  · exact (inner.bracket ended enough).bind (fun _ _ _ _ => advances_error)
      fun step middle leads further => goesOn leads (further step rfl) step
  · refine (moves_expect ended .identifier).bind (fun _ _ _ _ => advances_error)
      fun head middle leads taken => ?_
    rcases taken with ⟨isKind, -, rfl⟩ | ⟨⟨_, failed⟩, -⟩
    · have next := position_advance ended (by simp [isKind])
      exact goesOn leads (by omega) (.key head.text)
    · cases failed

theorem steps_succ (ended : cursor.Ended) (enough : 2 * (cursor.later.length + 1) ≤ fuel + 2) :
    Moves (3 * cursor.later.length + 2) Pointer.steps (Expr.parseStepsWith (fuel + 1)) cursor
      fun _ _ => True := by
  rw [Expr.parseStepsWith]
  refine Moves.call ?_ Pointer.steps.eq_2
  refine moves_if_take? ended .dot (fun isDot leads => ?_) ?_
  · have next := position_advance ended (by simp [isDot])
    refine (moves_keys (leads.ended ended)).seq fun keys middle after further => ?_
    have furtherKeys := further keys rfl
    exact (inner.stepsAfter ended enough (leads.trans after) (by omega)).returns _
  · refine moves_if_isAt .openSquare (fun _ => ?_) fun _ => moves_pure trivial
    refine (inner.bracket ended enough).seq fun step middle leads further => ?_
    exact (inner.stepsAfter ended enough leads (further step rfl)).returns _

end ExpressionsMove

theorem expressionsMove (fuel : Nat) : ExpressionsMove fuel := by
  induction fuel with
  | zero => exact ⟨by omega, by omega, by omega⟩
  | succ fuel inner =>
    exact ⟨fun _ => inner.expr_succ, fun _ => inner.path_succ, fun _ => inner.steps_succ⟩

theorem moves_expr (ended : cursor.Ended) :
    Moves (3 * cursor.later.length + 3) expr Expr.parse cursor (ReadsExpr cursor) :=
  moves_get ((expressionsMove _).expr cursor ended (Nat.le_refl _))

theorem moves_path (ended : cursor.Ended) :
    Moves (3 * cursor.later.length + 2) path Expr.parsePath cursor (Advances cursor) :=
  moves_get ((expressionsMove _).path cursor ended (Nat.le_succ _))

/-! ## Pipelines -/

theorem take?_pointer_of_ne (ended : cursor.Ended) {kind : TokenKind}
    (differs : cursor.current.kind ≠ kind) :
    take? kind cursor.pointer = some (.ok none, cursor.pointer) := by
  obtain ⟨runs, -, taken | ⟨-, isNone, stays⟩⟩ := (moves_take? ended kind).runs (Nat.le_refl 0)
  · exact absurd taken.1 differs
  · rw [runs, isNone, stays]

/-- A loop that reads one thing after each mark. -/
theorem moves_loop {described : Cursor → Except ParseError α → Cursor → Prop}
    {item : Nat → Procedure Pointer α} {item' : Parser α} {loop : Nat → Procedure Pointer (List α)}
    {loop' : Nat → Parser (List α)} (mark : TokenKind) (noEnd : mark ≠ .endOfMarkup)
    (round : ∀ calls, loop (calls + 1) = do
      if (← take? mark).isSome then
        let first ← item calls
        return first :: (← loop calls)
      else return [])
    (stops : loop' 0 = pure [])
    (round' : ∀ fuel, loop' (fuel + 1) = do
      if (← Parser.take? mark).isSome then
        let first ← item'
        return first :: (← loop' fuel)
      else return [])
    (inner : ∀ {cursor : Cursor}, cursor.Ended →
      Moves (3 * cursor.later.length + 3) item item' cursor (described cursor))
    (fuel : Nat) (ended : cursor.Ended) (enough : cursor.later.length ≤ fuel) :
    Moves (3 * cursor.later.length + 1) loop (loop' fuel) cursor fun _ _ => True := by
  induction fuel generalizing cursor with
  | zero =>
    have isEnd := ended.kind_of_last (List.length_eq_zero_iff.1 (Nat.le_zero.1 enough))
    rw [stops]
    refine Moves.call ?_ round
    exact moves_look (take?_pointer_of_ne ended (isEnd.trans_ne noEnd.symm)) (moves_pure trivial)
  | succ fuel ih =>
    rw [round']
    refine Moves.call ?_ round
    refine moves_if_take? ended mark (fun isMark leads => ?_) (moves_pure trivial)
    have fewer := later_advance ended (isMark.trans_ne noEnd)
    refine ((inner (leads.ended ended)).raise (by omega)).seq fun value middle after _ => ?_
    have noMore := after.later_le
    exact ((ih (after.ended (leads.ended ended)) (by omega)).raise (by omega)).returns _

theorem moves_more (fuel : Nat) (ended : cursor.Ended) (enough : cursor.later.length ≤ fuel) :
    Moves (3 * cursor.later.length + 1) more (Pipeline.parseMore fuel) cursor fun _ _ => True :=
  moves_loop .comma (by decide) more.eq_2 Pipeline.parseMore.eq_1 Pipeline.parseMore.eq_2 moves_expr
    fuel ended enough

theorem moves_list (ended : cursor.Ended) :
    Moves (3 * cursor.later.length + 3) list Pipeline.parseList cursor fun _ _ => True := by
  unfold list
  rw [Pipeline.parseList]
  refine (moves_expr ended).seq fun value last leads _ => moves_get ?_
  have noMore := leads.later_le
  exact ((moves_more _ (leads.ended ended) (Nat.le_refl _)).raise (by omega)).returns _

theorem moves_filter (ended : cursor.Ended) :
    Moves (3 * cursor.later.length + 3) filter Pipeline.parseCall cursor fun _ _ => True := by
  unfold filter
  rw [Pipeline.parseCall]
  refine moves_look (span_pointer cursor) (moves_get ?_)
  refine (moves_expect ended .identifier).seq fun name last leads _ => ?_
  refine moves_if_take? (leads.ended ended) .colon (fun _ after => ?_) (moves_pure trivial)
  have noMore := (leads.trans after).later_le
  exact ((moves_list (after.ended (leads.ended ended))).raise (by omega)).returns _

theorem moves_filters (fuel : Nat) (ended : cursor.Ended) (enough : cursor.later.length ≤ fuel) :
    Moves (3 * cursor.later.length + 1) filters (Pipeline.parseCalls fuel) cursor
      fun _ _ => True :=
  moves_loop .pipe (by decide) filters.eq_2 Pipeline.parseCalls.eq_1 Pipeline.parseCalls.eq_2
    moves_filter fuel ended enough

theorem moves_pipeline (ended : cursor.Ended) :
    Moves (3 * cursor.later.length + 3) pipeline Pipeline.parse cursor fun _ _ => True := by
  unfold pipeline
  rw [Pipeline.parse]
  refine (moves_expr ended).seq fun value last leads _ => moves_get ?_
  have noMore := leads.later_le
  exact ((moves_filters _ (leads.ended ended) (Nat.le_refl _)).raise (by omega)).returns _

/-! ## Conditions -/

theorem moves_failHere (message : String) (cursor : Cursor) :
    Moves needs (fun _ => (failHere message : Procedure Pointer α)) (Parser.failHere message) cursor
      fun _ _ => True :=
  moves_look (span_pointer cursor) (moves_get (moves_throw trivial))

theorem moves_expectEnd (ended : cursor.Ended) :
    Moves needs (fun _ => expectEnd) Parser.expectEnd cursor fun _ _ => True :=
  (moves_expect ended .endOfMarkup).discard (fun _ _ _ _ => trivial) fun _ _ _ _ => trivial

theorem moves_leaf (ended : cursor.Ended) :
    Moves (3 * cursor.later.length + 3) leaf Condition.parseLeaf cursor fun _ _ => True := by
  unfold leaf
  rw [Condition.parseLeaf]
  refine (moves_expr ended).seq fun left middle leads _ => ?_
  refine (moves_take? (leads.ended ended) .comparison).seq fun token last after _ => ?_
  cases token with
  | none => exact moves_pure trivial
  | some token =>
    dsimp only
    cases Comparison.ofText? token.text with
    | none => exact moves_failHere _ _
    | some comparison =>
      have noMore := (leads.trans after).later_le
      exact ((moves_expr (after.ended (leads.ended ended))).raise (by omega)).returns _

theorem takeWord?_pointer_of_ne (ended : cursor.Ended) (text : String)
    (differs : cursor.current.kind ≠ .identifier) :
    takeWord? text cursor.pointer = some (.ok none, cursor.pointer) := by
  obtain ⟨runs, -, taken | ⟨isNone, stays⟩⟩ := (moves_takeWord? ended text).runs (Nat.le_refl 0)
  · exact absurd taken.1 differs
  · rw [runs, isNone, stays]

theorem moves_chain (fuel : Nat) (ended : cursor.Ended) (enough : cursor.later.length ≤ fuel) :
    Moves (3 * cursor.later.length + 4) chain (Condition.parseChain fuel) cursor
      fun _ _ => True := by
  induction fuel generalizing cursor with
  | zero =>
    -- The last token is an end token, and so no joint.
    rw [Condition.parseChain, ← bind_pure Condition.parseLeaf]
    refine Moves.call ?_ chain.eq_2
    refine (moves_leaf ended).seq fun leaf last leads _ => ?_
    have noMore := leads.later_le
    have endedLast := leads.ended ended
    have isEnd := endedLast.kind_of_last (List.length_eq_zero_iff.1 (by omega))
    have noWord text := takeWord?_pointer_of_ne endedLast text (by simp [isEnd])
    exact moves_look (noWord "and") (moves_look (noWord "or") (moves_pure trivial))
  | succ fuel ih =>
    rw [Condition.parseChain]
    refine Moves.call ?_ chain.eq_2
    refine (moves_leaf ended).seq fun leaf middle leads _ => ?_
    have noMore := leads.later_le
    have endedMiddle := leads.ended ended
    have rest (isWord : middle.current.kind = .identifier)
        (after : middle.LeadsTo middle.advance) (joint : Condition → Condition → Condition) :
        Moves (3 * cursor.later.length + 3) (fun calls => do return joint leaf (← chain calls))
          (do return joint leaf (← Condition.parseChain fuel)) middle.advance
          fun _ _ => True := by
      have fewer := later_advance endedMiddle (by simp [isWord])
      exact ((ih (after.ended endedMiddle) (by omega)).raise (by omega)).returns _
    exact moves_if_takeWord? endedMiddle "and" (fun isWord after => rest isWord after .and)
      (moves_if_takeWord? endedMiddle "or" (fun isWord after => rest isWord after .or)
        (moves_pure trivial))

theorem moves_condition (ended : cursor.Ended) :
    Moves (3 * cursor.later.length + 4) condition Condition.parse cursor fun _ _ => True := by
  unfold condition
  rw [Condition.parse]
  refine moves_look (isAt_pointer .endOfMarkup cursor) (moves_get ?_)
  unfold Cursor.isAtEnd
  cases cursor.isAt .endOfMarkup with
  | true => exact moves_failHere _ _
  | false =>
    refine (moves_chain _ ended (Nat.le_refl _)).seq fun value last leads _ => ?_
    exact (moves_expectEnd (leads.ended ended)).returns _

end Pointer

end TextTemplate
