import TextTemplate.Block
import TextTemplate.Proofs.Alignment

/-!
# The parsers keep to an alignment

Every parser of the language does the same at corresponding places: it takes the same tokens, and
what it reads is the same but for the places of filter calls, which correspond.
-/

namespace TextTemplate.Alignment

variable {a : Alignment} {α : Type} {V : α → α → Prop}

/-- Calls of one filter with the same arguments, the names at corresponding places. -/
structure Calls (a : Alignment) (call call' : FilterCall) : Prop where
  name : call'.name = call.name
  args : call'.args = call.args
  span : a.spans call.name.toList call.span call'.span

/-- Pipelines that differ in the places of their calls only. -/
structure Pipelines (a : Alignment) (pipeline pipeline' : Pipeline) : Prop where
  source : pipeline'.source = pipeline.source
  calls : List.Forall₂ a.Calls pipeline.calls pipeline'.calls

/-! ## Expressions -/

theorem steady_parseNumber (kind : TokenKind) (read : List Char → Option α) :
    a.Steady Eq (Expr.parseNumber kind read) := by
  intro cursor cursor' cursors
  refine results_get (results_bind (results_expect cursors kind) ?_)
  rintro _ _ ⟨rfl, rfl⟩
  rw [cursors.current.text]
  split
  · exact agree_pure rfl
  · exact agree_throw (.placed cursors.current.span rfl)

theorem steady_parseKeys : a.Steady Eq Expr.parseKeys := by
  have key : a.Steady Eq (do let token ← Parser.consume; return [Step.key token.text]) := by
    refine agree_bind steady_consume fun token token' same => agree_pure ?_
    rw [same.2]
  refine agree_get fun cursor cursor' cursors => ?_
  rw [cursors.current.kind]
  split
  · exact key
  · exact key
  · refine agree_bind steady_consume fun token token' same => agree_pure ?_
    rw [same.2]
  · exact agree_throw (cursors.unexpected _)

theorem steady_parseIndex {key : Parser Expr} (steady : a.Steady Eq key) :
    a.Steady Eq (Expr.parseIndex key) := by
  refine agree_bind (steady_discard (steady_expect _)) fun _ _ _ => ?_
  refine agree_bind_eq steady fun key => ?_
  exact agree_bind (steady_discard (steady_expect _)) fun _ _ _ => agree_pure rfl

theorem steady_unexpected (kind : TokenKind) :
    a.Steady V (do throw ((← get).unexpected kind)) :=
  agree_get fun _ _ cursors => agree_throw (cursors.unexpected kind)

/-- The three parsers of expressions call each other with less fuel. -/
theorem steady_expressions (fuel : Nat) :
    a.Steady Eq (Expr.parseWith fuel) ∧ a.Steady Eq (Expr.parsePathWith fuel) ∧
      a.Steady Eq (Expr.parseStepsWith fuel) := by
  induction fuel with
  | zero =>
    unfold Expr.parseWith Expr.parsePathWith Expr.parseStepsWith
    exact ⟨steady_unexpected _, steady_unexpected _, agree_pure rfl⟩
  | succ fuel ih =>
    obtain ⟨parse, path, steps⟩ := ih
    -- a step that is read, and the steps after it
    have goOn (step : Step) :
        a.Steady Eq (do return step :: (← Expr.parseStepsWith fuel)) := by
      exact agree_bind_eq steps fun steps => agree_pure rfl
    have index : a.Steady Eq (do
        let step ← Expr.parseIndex (Expr.parseWith fuel)
        return step :: (← Expr.parseStepsWith fuel)) := by
      exact agree_bind_eq (steady_parseIndex parse) fun step => goOn step
    refine ⟨?_, ?_, ?_⟩
    · unfold Expr.parseWith
      refine agree_get fun cursor cursor' cursors => ?_
      rw [cursors.current.kind]
      split
      · exact agree_pure rfl
      · refine agree_bind steady_consume fun token token' same => agree_pure ?_
        rw [same.unquoted]
      · exact agree_bind_eq (steady_parseNumber _ _) fun n => agree_pure rfl
      · exact agree_bind_eq (steady_parseNumber _ _) fun x => agree_pure rfl
      · exact agree_bind_eq path fun steps => agree_pure rfl
    · unfold Expr.parsePathWith
      refine agree_get fun cursor cursor' cursors => ?_
      rw [cursors.isAt]
      refine agree_ite (fun _ => index) fun _ => ?_
      refine agree_bind (steady_expect _) fun head head' same => ?_
      rw [same.2]
      exact goOn _
    · unfold Expr.parseStepsWith
      refine agree_bind (steady_take? _) fun dot dot' taken => ?_
      cases taken with
      | some same =>
        refine agree_bind_eq steady_parseKeys fun keys => ?_
        exact agree_bind_eq steps fun steps => agree_pure rfl
      | none =>
        refine agree_get fun cursor cursor' cursors => ?_
        rw [cursors.isAt]
        exact agree_ite (fun _ => index) fun _ => agree_pure rfl

theorem steady_parse : a.Steady Eq Expr.parse := by
  refine agree_get fun cursor cursor' cursors => ?_
  unfold Expr.fuelOf
  rw [cursors.count]
  exact (steady_expressions _).1

/-! ## Pipelines -/

theorem steady_parseMore (fuel : Nat) : a.Steady Eq (Pipeline.parseMore fuel) := by
  induction fuel with
  | zero => exact agree_pure rfl
  | succ fuel ih =>
    refine agree_bind (steady_take? _) fun comma comma' taken => ?_
    cases taken with
    | none => exact agree_pure rfl
    | some same =>
      refine agree_bind_eq steady_parse fun expr => ?_
      exact agree_bind_eq ih fun exprs => agree_pure rfl

theorem steady_parseList : a.Steady Eq Pipeline.parseList := by
  refine agree_bind_eq steady_parse fun expr => ?_
  refine agree_get fun cursor cursor' cursors => ?_
  rw [cursors.count]
  exact agree_bind_eq (steady_parseMore _) fun exprs => agree_pure rfl

theorem steady_parseCall : a.Steady a.Calls Pipeline.parseCall := by
  intro cursor cursor' cursors
  refine results_get (results_bind (results_expect cursors .identifier) ?_)
  rintro _ _ ⟨rfl, rfl⟩
  refine agree_bind (steady_take? _) fun colon colon' taken => ?_
  cases taken with
  | none => exact agree_pure ⟨cursors.current.text, rfl, cursors.current.span⟩
  | some same =>
    refine agree_bind_eq steady_parseList fun args => ?_
    exact agree_pure ⟨cursors.current.text, rfl, cursors.current.span⟩

theorem steady_parseCalls (fuel : Nat) :
    a.Steady (List.Forall₂ a.Calls) (Pipeline.parseCalls fuel) := by
  induction fuel with
  | zero => exact agree_pure .nil
  | succ fuel ih =>
    refine agree_bind (steady_take? _) fun bar bar' taken => ?_
    cases taken with
    | none => exact agree_pure .nil
    | some same =>
      refine agree_bind steady_parseCall fun call call' here => ?_
      exact agree_bind ih fun calls calls' later => agree_pure (.cons here later)

theorem steady_pipeline : a.Steady a.Pipelines Pipeline.parse := by
  refine agree_bind_eq steady_parse fun source => ?_
  refine agree_get fun cursor cursor' cursors => ?_
  rw [cursors.count]
  exact agree_bind (steady_parseCalls _) fun calls calls' related => agree_pure ⟨rfl, related⟩

/-! ## Conditions -/

theorem steady_parseLeaf : a.Steady Eq Condition.parseLeaf := by
  refine agree_bind_eq steady_parse fun left => ?_
  refine agree_bind (steady_take? _) fun comparison comparison' taken => ?_
  cases taken with
  | none => exact agree_pure rfl
  | @some token token' same =>
    simp only [same.2]
    split
    · exact steady_failHere _
    · exact agree_bind_eq steady_parse fun right => agree_pure rfl

theorem steady_parseChain (fuel : Nat) : a.Steady Eq (Condition.parseChain fuel) := by
  induction fuel with
  | zero => exact steady_parseLeaf
  | succ fuel ih =>
    refine agree_bind_eq steady_parseLeaf fun leaf => ?_
    refine agree_bind (steady_takeWord? _) fun word word' taken => ?_
    cases taken with
    | some same =>
      exact agree_bind_eq ih fun chain => agree_pure rfl
    | none =>
      refine agree_bind (steady_takeWord? _) fun word word' taken => ?_
      cases taken with
      | none => exact agree_pure rfl
      | some same =>
        exact agree_bind_eq ih fun chain => agree_pure rfl

/-- What takes up all tokens ends with them. -/
theorem steady_parseWhole {parser : Parser α} (steady : a.Steady V parser) :
    a.Steady V (TagRule.parseWhole parser) :=
  agree_bind steady fun _ _ values => agree_bind steady_expectEnd fun _ _ _ => agree_pure values

theorem steady_condition : a.Steady Eq Condition.parse := by
  refine agree_get fun cursor cursor' cursors => ?_
  rw [cursors.isAtEnd, cursors.count]
  refine agree_ite (fun _ => steady_failHere _) fun _ => ?_
  exact steady_parseWhole (steady_parseChain _)

/-! ## Tags -/

theorem agree_cycle {markup : List Char} {span span' : Span} (spans : a.spans markup span span') :
    a.Agree Eq (Cycle.parse span) (Cycle.parse span') := by
  have values (group : Option Expr) (first : Expr) : a.Steady Eq (do
      let others ← Pipeline.parseMore (← get).later.length
      Parser.expectEnd
      return (⟨group, first, others⟩ : Cycle)) := by
    refine agree_get fun cursor cursor' cursors => ?_
    rw [cursors.count]
    refine agree_bind_eq (steady_parseMore _) fun others => ?_
    exact agree_bind steady_expectEnd fun _ _ _ => agree_pure rfl
  refine agree_get fun cursor cursor' cursors => ?_
  rw [cursors.isAtEnd]
  refine agree_ite (fun _ => agree_throw_bind (errors_malformed spans)) fun _ => ?_
  refine agree_bind_eq steady_parse fun first => ?_
  refine agree_bind (steady_take? _) fun colon colon' taken => ?_
  cases taken with
  | none => exact values none first
  | some same =>
    refine agree_bind_eq steady_parse fun value => ?_
    exact values (some first) value

theorem steady_parseSource : a.Steady Eq LoopHeader.parseSource := by
  refine agree_bind (steady_take? _) fun opening opening' taken => ?_
  cases taken with
  | none =>
    exact agree_bind_eq steady_parse fun expr => agree_pure rfl
  | some same =>
    refine agree_bind_eq steady_parse fun first => ?_
    refine agree_bind (steady_discard (steady_expect _)) fun _ _ _ => ?_
    refine agree_bind_eq steady_parse fun last => ?_
    exact agree_bind (steady_discard (steady_expect _)) fun _ _ _ => agree_pure rfl

theorem steady_parseValue : a.Steady Eq LoopHeader.parseValue :=
  agree_bind (steady_discard steady_consume) fun _ _ _ =>
    agree_bind (steady_discard steady_consume) fun _ _ _ => steady_parse

theorem steady_parseModifiers (header : LoopHeader) (fuel : Nat) :
    a.Steady Eq (header.parseModifiers fuel) := by
  induction fuel generalizing header with
  | zero => exact agree_pure rfl
  | succ fuel ih =>
    refine agree_get fun cursor cursor' cursors => ?_
    rw [cursors.isAtEnd]
    refine agree_ite (fun _ => agree_pure rfl) fun _ => ?_
    refine agree_bind (steady_takeWord? _) fun word word' taken => ?_
    cases taken with
    | some same => exact ih _
    | none =>
      simp only [Option.isSome_none, Bool.false_eq_true, if_false, cursors.isAtWord,
        cursors.looksAt, cursors.current.text]
      refine agree_ite (fun _ => ?_) fun _ => agree_ite (fun _ => ?_) fun _ => steady_failHere _
      · exact agree_bind_eq steady_parseValue fun value => ih _
      · exact agree_bind_eq steady_parseValue fun value => ih _

theorem steady_loop : a.Steady Eq LoopHeader.parse := by
  refine agree_bind (steady_expect _) fun name name' same => ?_
  refine agree_bind (steady_takeWord? _) fun word word' taken => ?_
  cases taken with
  | none => exact steady_failHere _
  | some _ =>
    refine agree_bind_eq steady_parseSource fun source => ?_
    refine agree_get fun cursor cursor' cursors => ?_
    rw [cursors.count, same.2]
    exact steady_parseModifiers _ _

theorem steady_parseAlternatives (fuel : Nat) :
    a.Steady Eq (BlockForm.parseAlternatives fuel) := by
  induction fuel with
  | zero => exact agree_pure rfl
  | succ fuel ih =>
    have goOn : a.Steady Eq (do
        let value ← Expr.parse
        return value :: (← BlockForm.parseAlternatives fuel)) := by
      refine agree_bind_eq steady_parse fun value => ?_
      exact agree_bind_eq ih fun values => agree_pure rfl
    refine agree_bind (steady_take? _) fun comma comma' taken => ?_
    cases taken with
    | some same => exact goOn
    | none =>
      refine agree_bind (steady_takeWord? _) fun word word' taken => ?_
      cases taken with
      | none => exact agree_pure rfl
      | some same => exact goOn

theorem agree_values {markup : List Char} {span span' : Span}
    (spans : a.spans markup span span') :
    a.Agree Eq (BlockForm.parseValues span) (BlockForm.parseValues span') := by
  refine agree_get fun cursor cursor' cursors => ?_
  rw [cursors.isAtEnd]
  refine agree_ite (fun _ => agree_throw_bind (errors_malformed spans)) fun _ => ?_
  refine agree_bind_eq steady_parse fun value => ?_
  refine agree_get fun cursor cursor' cursors => ?_
  rw [cursors.count]
  refine agree_bind_eq (steady_parseAlternatives _) fun values => ?_
  exact agree_bind steady_expectEnd fun _ _ _ => agree_pure rfl

theorem steady_parseTarget (tag : String) : a.Steady Eq (TagRule.parseTarget tag) := by
  refine agree_bind (steady_take? _) fun string string' taken => ?_
  cases taken with
  | some same =>
    refine agree_bind steady_expectEnd fun _ _ _ => agree_pure ?_
    rw [same.unquoted]
  | none =>
    refine agree_bind (steady_take? _) fun name name' taken => ?_
    cases taken with
    | none => exact steady_failHere _
    | some same =>
      refine agree_bind steady_expectEnd fun _ _ _ => agree_pure ?_
      rw [same.2]

end TextTemplate.Alignment
