import TextTemplate.Block

/-!
# What parsers report

Parsers see tokens, not the text that the tokens were made from. So what they report is about
tokens: one of another kind than required, a number that does not fit, or a fault in what a tag says
(`ParseError.Cause.OfTokens`). That a text cannot be cut into tokens is nothing that a parser finds
out, and neither is how tags are nested.
-/

namespace TextTemplate

/-- The cause can be found in tokens. -/
def ParseError.Cause.OfTokens : ParseError.Cause → Prop
  | .unexpectedToken .. | .invalidNumber _ | .malformed _ => True
  | .lexical _ | .unterminatedTag _ | .unknownTag _ => False

namespace Parser

variable {α β : Type} {parser : Parser α}

/-- From every place the parser fails, if at all, with a cause that is found in tokens. -/
def Reports (parser : Parser α) : Prop :=
  ∀ cursor error last, parser.run cursor = .error error last → error.cause.OfTokens

/-! ## Ways to put parsers together -/

theorem reports_bind {next : α → Parser β} (first : Reports parser)
    (later : ∀ value, Reports (next value)) : Reports (parser >>= next) := by
  intro cursor error last run
  change EStateM.bind parser next cursor = .error error last at run
  unfold EStateM.bind at run
  cases ran : parser cursor with
  | error failure middle =>
    rw [ran] at run
    cases run
    exact first cursor error last ran
  | ok value middle =>
    rw [ran] at run
    exact later value middle error last run

theorem reports_pure (value : α) : Reports (pure value) :=
  fun _ _ _ run => nomatch run

theorem reports_get : Reports get :=
  fun _ _ _ run => nomatch run

theorem reports_throw {error : ParseError} (ofTokens : error.cause.OfTokens) :
    Reports (throw error : Parser α) := by
  rintro cursor _ _ ⟨⟩
  exact ofTokens

/-- What would come after an error is not reached. -/
theorem reports_throw_bind {error : ParseError} (next : α → Parser β)
    (ofTokens : error.cause.OfTokens) : Reports (throw error >>= next) := by
  rintro cursor _ _ ⟨⟩
  exact ofTokens

theorem reports_ite {p : Prop} [Decidable p] {yes no : Parser α} (holds : Reports yes)
    (fails : Reports no) : Reports (if p then yes else no) := by
  split
  · exact holds
  · exact fails

theorem reports_discard (reports : Reports parser) : Reports (discard parser) := by
  intro cursor error last run
  change EStateM.map _ parser cursor = .error error last at run
  unfold EStateM.map at run
  cases ran : parser cursor with
  | error failure middle =>
    rw [ran] at run
    cases run
    exact reports cursor error last ran
  | ok value middle =>
    rw [ran] at run
    cases run

/-! ## Taking tokens -/

theorem reports_consume : Reports consume :=
  fun _ _ _ run => nomatch run

theorem reports_unexpected (kind : TokenKind) :
    Reports (do throw ((← get).unexpected kind) : Parser α) :=
  reports_bind reports_get fun _ => reports_throw trivial

theorem reports_expect (kind : TokenKind) : Reports (expect kind) :=
  reports_bind reports_get fun _ => reports_ite reports_consume (reports_throw trivial)

theorem reports_take? (kind : TokenKind) : Reports (take? kind) :=
  reports_bind reports_get fun _ =>
    reports_ite (reports_bind reports_consume fun _ => reports_pure _) (reports_pure none)

theorem reports_takeWord? (text : String) : Reports (takeWord? text) :=
  reports_bind reports_get fun _ =>
    reports_ite (reports_bind reports_consume fun _ => reports_pure _) (reports_pure none)

theorem reports_expectEnd : Reports expectEnd :=
  reports_discard (reports_expect .endOfMarkup)

theorem reports_failHere (message : String) : Reports (failHere message : Parser α) :=
  reports_bind reports_get fun _ => reports_throw trivial

/-! ## Expressions -/

theorem reports_parseNumber (kind : TokenKind) (read : List Char → Option α) :
    Reports (Expr.parseNumber kind read) := by
  refine reports_bind reports_get fun cursor => ?_
  refine reports_bind (reports_expect kind) fun token => ?_
  split
  · exact reports_pure _
  · exact reports_throw trivial

theorem reports_parseKeys : Reports Expr.parseKeys := by
  refine reports_bind reports_get fun cursor => ?_
  split
  · exact reports_bind reports_consume fun _ => reports_pure _
  · exact reports_bind reports_consume fun _ => reports_pure _
  · exact reports_bind reports_consume fun _ => reports_pure _
  · exact reports_throw trivial

theorem reports_parseIndex {key : Parser Expr} (reports : Reports key) :
    Reports (Expr.parseIndex key) := by
  refine reports_bind (reports_discard (reports_expect _)) fun _ => ?_
  refine reports_bind reports fun key => ?_
  exact reports_bind (reports_discard (reports_expect _)) fun _ => reports_pure _

/-- The three parsers of expressions call each other with less fuel. -/
theorem reports_expressions (fuel : Nat) :
    Reports (Expr.parseWith fuel) ∧ Reports (Expr.parsePathWith fuel) ∧
      Reports (Expr.parseStepsWith fuel) := by
  induction fuel with
  | zero =>
    unfold Expr.parseWith Expr.parsePathWith Expr.parseStepsWith
    exact ⟨reports_unexpected _, reports_unexpected _, reports_pure _⟩
  | succ fuel ih =>
    obtain ⟨parse, path, steps⟩ := ih
    have index : Reports (do
        let step ← Expr.parseIndex (Expr.parseWith fuel)
        return step :: (← Expr.parseStepsWith fuel)) :=
      reports_bind (reports_parseIndex parse) fun _ => reports_bind steps fun _ => reports_pure _
    refine ⟨?_, ?_, ?_⟩
    · unfold Expr.parseWith
      refine reports_bind reports_get fun cursor => ?_
      split
      · exact reports_pure _
      · exact reports_bind reports_consume fun _ => reports_pure _
      · exact reports_bind (reports_parseNumber _ _) fun _ => reports_pure _
      · exact reports_bind (reports_parseNumber _ _) fun _ => reports_pure _
      · exact reports_bind path fun _ => reports_pure _
    · unfold Expr.parsePathWith
      refine reports_bind reports_get fun cursor => reports_ite index ?_
      refine reports_bind (reports_expect _) fun head => ?_
      exact reports_bind steps fun _ => reports_pure _
    · unfold Expr.parseStepsWith
      refine reports_bind (reports_take? _) fun dot => reports_ite ?_ ?_
      · refine reports_bind reports_parseKeys fun keys => ?_
        exact reports_bind steps fun _ => reports_pure _
      · exact reports_bind reports_get fun cursor => reports_ite index (reports_pure _)

theorem reports_expr : Reports Expr.parse :=
  reports_bind reports_get fun _ => (reports_expressions _).1

/-! ## Pipelines -/

theorem reports_parseMore (fuel : Nat) : Reports (Pipeline.parseMore fuel) := by
  induction fuel with
  | zero => exact reports_pure _
  | succ fuel ih =>
    refine reports_bind (reports_take? _) fun comma => reports_ite ?_ (reports_pure _)
    exact reports_bind reports_expr fun expr => reports_bind ih fun _ => reports_pure _

theorem reports_parseList : Reports Pipeline.parseList := by
  refine reports_bind reports_expr fun expr => reports_bind reports_get fun cursor => ?_
  exact reports_bind (reports_parseMore _) fun _ => reports_pure _

theorem reports_parseCall : Reports Pipeline.parseCall := by
  refine reports_bind reports_get fun cursor => ?_
  refine reports_bind (reports_expect _) fun name => ?_
  refine reports_bind (reports_take? _) fun colon => reports_ite ?_ (reports_pure _)
  exact reports_bind reports_parseList fun _ => reports_pure _

theorem reports_parseCalls (fuel : Nat) : Reports (Pipeline.parseCalls fuel) := by
  induction fuel with
  | zero => exact reports_pure _
  | succ fuel ih =>
    refine reports_bind (reports_take? _) fun bar => reports_ite ?_ (reports_pure _)
    exact reports_bind reports_parseCall fun call => reports_bind ih fun _ => reports_pure _

theorem reports_pipeline : Reports Pipeline.parse := by
  refine reports_bind reports_expr fun source => reports_bind reports_get fun cursor => ?_
  exact reports_bind (reports_parseCalls _) fun _ => reports_pure _

/-! ## Conditions -/

theorem reports_parseLeaf : Reports Condition.parseLeaf := by
  refine reports_bind reports_expr fun left => ?_
  refine reports_bind (reports_take? _) fun comparison => ?_
  split
  · exact reports_pure _
  · split
    · exact reports_failHere _
    · exact reports_bind reports_expr fun _ => reports_pure _

theorem reports_parseChain (fuel : Nat) : Reports (Condition.parseChain fuel) := by
  induction fuel with
  | zero => exact reports_parseLeaf
  | succ fuel ih =>
    refine reports_bind reports_parseLeaf fun leaf => ?_
    refine reports_bind (reports_takeWord? _) fun word => reports_ite ?_ ?_
    · exact reports_bind ih fun _ => reports_pure _
    · refine reports_bind (reports_takeWord? _) fun word => reports_ite ?_ (reports_pure _)
      exact reports_bind ih fun _ => reports_pure _

theorem reports_parseWhole (reports : Reports parser) : Reports (TagRule.parseWhole parser) :=
  reports_bind reports fun _ => reports_bind reports_expectEnd fun _ => reports_pure _

theorem reports_condition : Reports Condition.parse :=
  reports_bind reports_get fun _ =>
    reports_ite (reports_failHere _) (reports_parseWhole (reports_parseChain _))

/-! ## Tags -/

theorem reports_cycle (span : Span) : Reports (Cycle.parse span) := by
  have values (group : Option Expr) (first : Expr) : Reports (do
      let others ← Pipeline.parseMore (← get).later.length
      Parser.expectEnd
      return (⟨group, first, others⟩ : Cycle)) := by
    refine reports_bind reports_get fun cursor => ?_
    refine reports_bind (reports_parseMore _) fun others => ?_
    exact reports_bind reports_expectEnd fun _ => reports_pure _
  refine reports_bind reports_get fun cursor => reports_ite (reports_throw_bind _ trivial) ?_
  refine reports_bind reports_expr fun first => ?_
  refine reports_bind (reports_take? _) fun colon => ?_
  split
  · exact reports_bind reports_expr fun value => values (some first) value
  · exact values none first

theorem reports_parseSource : Reports LoopHeader.parseSource := by
  refine reports_bind (reports_take? _) fun opening => reports_ite ?_ ?_
  · refine reports_bind reports_expr fun first => ?_
    refine reports_bind (reports_discard (reports_expect _)) fun _ => ?_
    refine reports_bind reports_expr fun last => ?_
    exact reports_bind (reports_discard (reports_expect _)) fun _ => reports_pure _
  · exact reports_bind reports_expr fun _ => reports_pure _

theorem reports_parseValue : Reports LoopHeader.parseValue :=
  reports_bind (reports_discard reports_consume) fun _ =>
    reports_bind (reports_discard reports_consume) fun _ => reports_expr

theorem reports_parseModifiers (header : LoopHeader) (fuel : Nat) :
    Reports (header.parseModifiers fuel) := by
  induction fuel generalizing header with
  | zero => exact reports_pure _
  | succ fuel ih =>
    refine reports_bind reports_get fun cursor => reports_ite (reports_pure _) ?_
    refine reports_bind (reports_takeWord? _) fun word => reports_ite (ih _) ?_
    refine reports_ite ?_ (reports_ite ?_ (reports_failHere _))
    · exact reports_bind reports_parseValue fun value => ih _
    · exact reports_bind reports_parseValue fun value => ih _

theorem reports_loop : Reports LoopHeader.parse := by
  refine reports_bind (reports_expect _) fun name => ?_
  refine reports_bind (reports_takeWord? _) fun word => reports_ite ?_ (reports_failHere _)
  refine reports_bind reports_parseSource fun source => reports_bind reports_get fun cursor => ?_
  exact reports_parseModifiers _ _

theorem reports_parseAlternatives (fuel : Nat) : Reports (BlockForm.parseAlternatives fuel) := by
  induction fuel with
  | zero => exact reports_pure _
  | succ fuel ih =>
    have goOn (taken : Option Token) : Reports (if taken.isSome then do
        let value ← Expr.parse
        return value :: (← BlockForm.parseAlternatives fuel)
      else return []) := by
      refine reports_ite ?_ (reports_pure _)
      exact reports_bind reports_expr fun value => reports_bind ih fun _ => reports_pure _
    refine reports_bind (reports_take? _) fun comma => ?_
    split
    · exact goOn comma
    · exact reports_bind (reports_takeWord? _) goOn

theorem reports_values (span : Span) : Reports (BlockForm.parseValues span) := by
  refine reports_bind reports_get fun cursor => reports_ite (reports_throw_bind _ trivial) ?_
  refine reports_bind reports_expr fun value => reports_bind reports_get fun cursor => ?_
  refine reports_bind (reports_parseAlternatives _) fun values => ?_
  exact reports_bind reports_expectEnd fun _ => reports_pure _

theorem reports_parseTarget (tag : String) : Reports (TagRule.parseTarget tag) := by
  refine reports_bind (reports_take? _) fun string => ?_
  split
  · exact reports_bind reports_expectEnd fun _ => reports_pure _
  · refine reports_bind (reports_take? _) fun name => ?_
    split
    · exact reports_bind reports_expectEnd fun _ => reports_pure _
    · exact reports_failHere _

end Parser

end TextTemplate
