import TextTemplate.Proofs.Pointer.Parsers

/-!
# Cursors stay in bounds

Whatever is done with a cursor, one act after the other, it stays within the tokens that it was made
from, with an end token at their end (`CursorAct.reaches_orderly`). On the side of the index this
says that no action reads outside of the list and that all parsers end.
-/

namespace TextTemplate

/-- What may be done with a cursor. -/
inductive CursorAct
  | jump (position : Nat)
  | consume
  | expect (kind : TokenKind)
  | take (kind : TokenKind)
  | takeWord (text : String)
  | expectEnd
  | expr
  | path
  | pipeline
  | condition
deriving DecidableEq, Repr

namespace CursorAct

/-- The act on an index. -/
def action (calls : Nat) : CursorAct → Procedure Pointer Unit
  | jump position => Pointer.jump position
  | consume => discard Pointer.consume
  | expect kind => discard (Pointer.expect kind)
  | take kind => discard (Pointer.take? kind)
  | takeWord text => discard (Pointer.takeWord? text)
  | expectEnd => Pointer.expectEnd
  | expr => discard (Pointer.expr calls)
  | path => discard (Pointer.path calls)
  | pipeline => discard (Pointer.pipeline calls)
  | condition => discard (Pointer.condition calls)

/-- The act on a cursor. -/
def parser : CursorAct → Parser Unit
  | jump position => modify fun cursor => cursor.jump position
  | consume => discard Parser.consume
  | expect kind => discard (Parser.expect kind)
  | take kind => discard (Parser.take? kind)
  | takeWord text => discard (Parser.takeWord? text)
  | expectEnd => Parser.expectEnd
  | expr => discard Expr.parse
  | path => discard Expr.parsePath
  | pipeline => discard Pipeline.parse
  | condition => discard Condition.parse

/-- Where the acts lead to, one after the other and each whether or not the one before it was
successful. There is no such place if one of them has no outcome. -/
def runAll (calls : Nat) : List CursorAct → Pointer → Option Pointer
  | [], pointer => some pointer
  | act :: acts, pointer =>
    match act.action calls pointer with
    | some (_, last) => runAll calls acts last
    | none => none

/-- Where the acts leave a cursor. -/
def reach : List CursorAct → Cursor → Cursor
  | [], cursor => cursor
  | act :: acts, cursor => reach acts (act.parser.outcome cursor).2

variable {calls : Nat} {cursor : Cursor}

/-- One act. Only a jump may go back. -/
theorem action_pointer (act : CursorAct) (ended : cursor.Ended)
    (enough : 3 * cursor.later.length + 4 ≤ calls) :
    ∃ outcome, act.action calls cursor.pointer =
        some (outcome, (act.parser.outcome cursor).2.pointer) ∧
      (act.parser.outcome cursor).2.tokens = cursor.tokens := by
  have ofMoves {needs : Nat} {action : Nat → Procedure Pointer Unit} {parser : Parser Unit}
      (moves : Pointer.Moves needs action parser cursor fun _ _ => True) (few : needs ≤ calls) :
      ∃ outcome, action calls cursor.pointer = some (outcome, (parser.outcome cursor).2.pointer) ∧
        (parser.outcome cursor).2.tokens = cursor.tokens := by
    obtain ⟨runs, leads, -⟩ := moves.runs few
    exact ⟨_, runs, leads.tokens⟩
  have dropped {α : Type} {needs : Nat} {action : Nat → Procedure Pointer α} {parser : Parser α}
      {described : Except ParseError α → Cursor → Prop}
      (moves : Pointer.Moves needs action parser cursor described) (few : needs ≤ calls) :
      ∃ outcome, discard (action calls) cursor.pointer =
          some (outcome, ((discard parser : Parser Unit).outcome cursor).2.pointer) ∧
        ((discard parser : Parser Unit).outcome cursor).2.tokens = cursor.tokens :=
    ofMoves (moves.discard (fun _ _ _ _ => trivial) fun _ _ _ _ => trivial) few
  cases act with
  | jump position =>
    refine ⟨.ok (), ?_, congrArg Pointer.tokens (cursor.pointer_jump position)⟩
    exact congrArg (fun last => some (Except.ok (), last)) (cursor.pointer_jump position).symm
  | consume => exact dropped (Pointer.moves_consume ended) (Nat.zero_le _)
  | expect kind => exact dropped (Pointer.moves_expect ended kind) (Nat.zero_le _)
  | take kind => exact dropped (Pointer.moves_take? ended kind) (Nat.zero_le _)
  | takeWord text => exact dropped (Pointer.moves_takeWord? ended text) (Nat.zero_le _)
  | expectEnd => exact ofMoves (Pointer.moves_expectEnd ended) (Nat.zero_le _)
  | expr => exact dropped (Pointer.moves_expr ended) (by omega)
  | path => exact dropped (Pointer.moves_path ended) (by omega)
  | pipeline => exact dropped (Pointer.moves_pipeline ended) (by omega)
  | condition => exact dropped (Pointer.moves_condition ended) enough

theorem runAll_pointer (acts : List CursorAct) (ended : cursor.Ended)
    (enough : 3 * cursor.tokens.length + 1 ≤ calls) :
    runAll calls acts cursor.pointer = some (reach acts cursor).pointer := by
  induction acts generalizing cursor with
  | nil => rfl
  | cons act acts ih =>
    have length := cursor.length_tokens
    obtain ⟨outcome, runs, tokens⟩ := act.action_pointer ended (by omega : _ ≤ calls)
    rw [runAll, runs]
    exact ih (Cursor.ended_of_tokens tokens ended) (by rwa [tokens])

/-- The acts lead to a place in the same tokens. -/
theorem reach_tokens (acts : List CursorAct) (ended : cursor.Ended) :
    (reach acts cursor).tokens = cursor.tokens := by
  induction acts generalizing cursor with
  | nil => rfl
  | cons act acts ih =>
    obtain ⟨-, -, tokens⟩ := act.action_pointer ended (Nat.le_refl _)
    exact (ih (Cursor.ended_of_tokens tokens ended)).trans tokens

end CursorAct

namespace Pointer

/-- One token is passed at most, and no end token. -/
structure PassesOne (cursor last : Cursor) : Prop where
  atMostOne : last.position ≤ cursor.position + 1
  notAtEnd : cursor.isAtEnd → last.position = cursor.position

/-- What is promised at a place. Each action and parser comes to an outcome there, which is the same
on an index, and does not go back. -/
structure Orderly (cursor : Cursor) : Prop where
  inBounds : cursor.pointer.tokens[cursor.pointer.position]? = some cursor.current
  /-- In a list that fits in memory, the index looked at is a number of 64 bits. -/
  lookFits : cursor.tokens.length ≤ 0x8000000000000000 → ∀ distance : Cursor.Distance,
    cursor.position + distance.val < UInt64.size
  look : ∀ kind distance, looksAt kind distance cursor.pointer =
    some (.ok (cursor.looksAt kind distance), cursor.pointer)
  consume : Moves 0 (fun _ => Pointer.consume) Parser.consume cursor fun outcome last =>
    outcome = .ok cursor.current ∧
      last.position = cursor.position + if cursor.isAtEnd then 0 else 1
  expect : ∀ kind, Moves 0 (fun _ => Pointer.expect kind) (Parser.expect kind) cursor
    fun outcome last => PassesOne cursor last ∧ ∀ error, outcome = .error error → last = cursor
  take : ∀ kind, Moves 0 (fun _ => take? kind) (Parser.take? kind) cursor
    fun outcome last => PassesOne cursor last ∧
      ((∃ token, outcome = .ok (some token)) ∨ outcome = .ok none ∧ last = cursor)
  takeWord : ∀ text, Moves 0 (fun _ => takeWord? text) (Parser.takeWord? text) cursor
    fun outcome last => PassesOne cursor last ∧
      ((∃ token, outcome = .ok (some token)) ∨ outcome = .ok none ∧ last = cursor)
  expr : Moves (3 * cursor.later.length + 3) Pointer.expr Expr.parse cursor fun outcome last =>
    ∀ value, outcome = .ok value → last.position = cursor.position →
      cursor.isAtEnd ∧ value = .nil
  path : Moves (3 * cursor.later.length + 2) Pointer.path Expr.parsePath cursor fun _ _ => True
  pipeline : Moves (3 * cursor.later.length + 3) Pointer.pipeline Pipeline.parse cursor
    fun _ _ => True
  condition : Moves (3 * cursor.later.length + 4) Pointer.condition Condition.parse cursor
    fun _ _ => True

variable {cursor : Cursor}

theorem position_advance_eq (ended : cursor.Ended) :
    cursor.advance.position = cursor.position + if cursor.isAtEnd then 0 else 1 := by
  by_cases isEnd : cursor.current.kind = .endOfMarkup
  · rw [Cursor.advance_of_end isEnd, if_pos (by simp [Cursor.isAtEnd, Cursor.isAt, isEnd])]
    rfl
  · rw [Cursor.position_advance ended isEnd, if_neg (by simp [Cursor.isAtEnd, Cursor.isAt, isEnd])]

theorem passesOne_refl (cursor : Cursor) : PassesOne cursor cursor :=
  ⟨Nat.le_succ _, fun _ => rfl⟩

theorem passesOne_advance (ended : cursor.Ended) : PassesOne cursor cursor.advance := by
  have position := position_advance_eq ended
  refine ⟨?_, fun isEnd => by rw [position, if_pos isEnd]; rfl⟩
  split at position <;> omega

theorem orderly_of_ended (ended : cursor.Ended) : Orderly cursor where
  inBounds := cursor.getElem?_position
  lookFits short distance := by
    have inBounds : cursor.position < cursor.tokens.length :=
      (List.getElem?_eq_some_iff.mp cursor.getElem?_position).1
    have reaches := distance.isLt
    simp only [UInt64.size]
    omega
  look kind distance := looksAt_pointer kind distance cursor
  consume := (moves_consume ended).mono (Nat.le_refl _) fun outcome last _ taken => by
    obtain ⟨isOk, rfl⟩ := taken
    exact ⟨isOk, position_advance_eq ended⟩
  expect kind := (moves_expect ended kind).mono (Nat.le_refl _) fun outcome last _ found => by
    rcases found with ⟨-, rfl, rfl⟩ | ⟨-, rfl⟩
    · refine ⟨passesOne_advance ended, fun error failed => ?_⟩
      cases failed
    · exact ⟨passesOne_refl last, fun _ _ => rfl⟩
  take kind := (moves_take? ended kind).mono (Nat.le_refl _) fun outcome last _ found => by
    rcases found with ⟨-, rfl, rfl⟩ | ⟨-, rfl, rfl⟩
    · exact ⟨passesOne_advance ended, .inl ⟨_, rfl⟩⟩
    · exact ⟨passesOne_refl last, .inr ⟨rfl, rfl⟩⟩
  takeWord text := (moves_takeWord? ended text).mono (Nat.le_refl _) fun outcome last _ found => by
    rcases found with ⟨-, rfl, rfl⟩ | ⟨rfl, rfl⟩
    · exact ⟨passesOne_advance ended, .inl ⟨_, rfl⟩⟩
    · exact ⟨passesOne_refl last, .inr ⟨rfl, rfl⟩⟩
  expr := (moves_expr ended).mono (Nat.le_refl _) fun outcome last _ reads value isOk same => by
    rcases reads value isOk with further | ⟨atEnd, -, isNil⟩
    · omega
    · exact ⟨atEnd, isNil⟩
  path := (moves_path ended).mono (Nat.le_refl _) fun _ _ _ _ => trivial
  pipeline := moves_pipeline ended
  condition := moves_condition ended

end Pointer

end TextTemplate
