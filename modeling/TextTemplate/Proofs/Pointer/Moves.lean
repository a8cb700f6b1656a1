import TextTemplate.Proofs.Pointer
import TextTemplate.Proofs.Spelling

/-!
# Cursors as indices

A cursor determines an index into its tokens (`Cursor.pointer`), and the last of these is an end
token. `Pointer.Moves` says that an action on the index and a parser on the cursor do the same: they
come to one outcome, and what they leave is again a cursor and its index, not before the first. The
rules for it follow the way in which actions are put together; here they reach up to the actions
that take a single token. An end token is not passed, so the index cannot leave the list.
-/

namespace TextTemplate

open Procedure

namespace Cursor

variable {cursor middle last : Cursor}

/-- The place of the cursor as an index. -/
def pointer (cursor : Cursor) : Pointer :=
  ⟨cursor.tokens, cursor.base, cursor.position⟩

/-- `last` is a place in the same tokens, and not before `cursor`. -/
structure LeadsTo (cursor last : Cursor) : Prop where
  tokens : last.tokens = cursor.tokens
  position : cursor.position ≤ last.position

theorem LeadsTo.refl (cursor : Cursor) : cursor.LeadsTo cursor :=
  ⟨rfl, Nat.le_refl _⟩

theorem LeadsTo.trans (first : cursor.LeadsTo middle) (second : middle.LeadsTo last) :
    cursor.LeadsTo last :=
  ⟨second.tokens.trans first.tokens, Nat.le_trans first.position second.position⟩

theorem length_tokens (cursor : Cursor) :
    cursor.tokens.length = cursor.position + cursor.later.length + 1 := by
  simp only [tokens, position, List.length_append, List.length_reverse, List.length_cons]
  omega

theorem LeadsTo.count (leads : cursor.LeadsTo last) :
    last.position + last.later.length = cursor.position + cursor.later.length := by
  have here := cursor.length_tokens
  have there := last.length_tokens
  rw [leads.tokens] at there
  omega

theorem LeadsTo.later_le (leads : cursor.LeadsTo last) :
    last.later.length ≤ cursor.later.length := by
  have count := leads.count
  have further := leads.position
  omega

theorem LeadsTo.later_lt (leads : cursor.LeadsTo last)
    (further : cursor.position < last.position) : last.later.length < cursor.later.length := by
  have count := leads.count
  omega

theorem getElem?_add (cursor : Cursor) (distance : Nat) :
    cursor.tokens[cursor.position + distance]? = (cursor.current :: cursor.later)[distance]? := by
  unfold tokens position
  rw [List.getElem?_append_right (by simp), List.length_reverse, Nat.add_sub_cancel_left]

theorem getElem?_position (cursor : Cursor) :
    cursor.tokens[cursor.position]? = some cursor.current :=
  cursor.getElem?_add 0

theorem ended_iff : cursor.Ended ↔ ∃ last ∈ cursor.tokens.getLast?, last.kind = .endOfMarkup := by
  have same : cursor.tokens.getLast? = cursor.ahead.getLast? := by
    simp [tokens, ahead, List.getLast?_cons]
  rw [same]
  constructor
  · rintro ⟨front, last, split, isEnd⟩
    exact ⟨last, by simp [split], isEnd⟩
  · rintro ⟨last, isLast, isEnd⟩
    exact ⟨cursor.ahead.dropLast, last, (List.dropLast_append_getLast? last isLast).symm, isEnd⟩

theorem ended_of_tokens (same : last.tokens = cursor.tokens) (ended : cursor.Ended) :
    last.Ended := by
  rw [ended_iff] at ended ⊢
  rwa [same]

theorem LeadsTo.ended (leads : cursor.LeadsTo last) (ended : cursor.Ended) : last.Ended :=
  ended_of_tokens leads.tokens ended

theorem Ended.kind_of_last (ended : cursor.Ended) (isLast : cursor.later = []) :
    cursor.current.kind = .endOfMarkup := by
  obtain ⟨front, last, split, isEnd⟩ := ended
  rw [ahead, isLast] at split
  cases front with
  | nil => exact (List.cons.inj split).1 ▸ isEnd
  | cons token front => simp at split

theorem advance_of_end (isEnd : cursor.current.kind = .endOfMarkup) : cursor.advance = cursor :=
  if_pos (by simpa [isAtEnd, isAt] using isEnd)

theorem pointer_next (occurs : cursor.later ≠ []) :
    cursor.next.pointer = { cursor.pointer with position := cursor.position + 1 } := by
  obtain ⟨passed, current, later, base⟩ := cursor
  obtain ⟨token, later, rfl⟩ := List.exists_cons_of_ne_nil occurs
  simp [next, pointer, tokens, position]

theorem pointer_advance (ended : cursor.Ended) (noEnd : cursor.current.kind ≠ .endOfMarkup) :
    cursor.advance.pointer = { cursor.pointer with position := cursor.position + 1 } := by
  have goesOn : cursor.isAtEnd = false := by simpa [isAtEnd, isAt] using noEnd
  have advances : cursor.advance = cursor.next := by simp [advance, goesOn]
  rw [advances]
  exact pointer_next fun isLast => noEnd (ended.kind_of_last isLast)

theorem position_advance (ended : cursor.Ended) (noEnd : cursor.current.kind ≠ .endOfMarkup) :
    cursor.advance.position = cursor.position + 1 :=
  congrArg Pointer.position (pointer_advance ended noEnd)

theorem leadsTo_advance (ended : cursor.Ended) : cursor.LeadsTo cursor.advance := by
  refine ⟨tokens_advance cursor, ?_⟩
  by_cases isEnd : cursor.current.kind = .endOfMarkup
  · rw [advance_of_end isEnd]
  · rw [position_advance ended isEnd]
    omega

/-- A token that is taken is one token less to come. -/
theorem later_advance (ended : cursor.Ended) (noEnd : cursor.current.kind ≠ .endOfMarkup) :
    cursor.advance.later.length < cursor.later.length := by
  refine (leadsTo_advance ended).later_lt ?_
  rw [position_advance ended noEnd]
  omega

/-! ## Jumps -/

theorem pointer_rewind (cursor : Cursor) :
    cursor.rewind.pointer = { cursor.pointer with position := 0 } := by
  unfold rewind
  split
  case h_1 none => simp [tokens] at none
  case h_2 token later all => simp [pointer, tokens, position, ← all]

theorem pointer_repeat_next {count : Nat} (within : count ≤ cursor.later.length) :
    (Nat.repeat next count cursor).pointer =
      { cursor.pointer with position := cursor.position + count } := by
  induction count with
  | zero => rfl
  | succ count ih =>
    have before := ih (Nat.le_of_succ_le within)
    have positions := congrArg Pointer.position before
    have lengths := congrArg (fun pointer => pointer.tokens.length) before
    have occurs : (Nat.repeat next count cursor).later ≠ [] := by
      rw [← List.length_pos_iff]
      have here := cursor.length_tokens
      have there := (Nat.repeat next count cursor).length_tokens
      simp only [pointer] at positions lengths
      omega
    simp only [pointer] at positions
    rw [Nat.repeat, pointer_next occurs, before, positions]
    rfl

/-- Positions past the last token are clamped to it. -/
theorem pointer_jump (cursor : Cursor) (position : Nat) : (cursor.jump position).pointer =
    { cursor.pointer with position := min position (cursor.tokens.length - 1) } := by
  have start := cursor.pointer_rewind
  have tokens := congrArg Pointer.tokens start
  have zero := congrArg Pointer.position start
  have length := cursor.rewind.length_tokens
  simp only [pointer] at tokens zero
  rw [tokens, zero] at length
  unfold jump
  rw [pointer_repeat_next (Nat.min_le_right ..), start, zero]
  simp only [pointer, length, Nat.zero_add, Nat.add_sub_cancel]

/-! ## The first place -/

theorem closed_closeTokens (tokens : List Token) :
    ∃ last ∈ (closeTokens tokens).getLast?, last.kind = .endOfMarkup := by
  unfold closeTokens
  split
  · exact ⟨_, rfl, rfl⟩
  · rename_i last isLast
    split
    · rename_i isEnd
      exact ⟨last, isLast, isEnd⟩
    · exact ⟨.ending last.span.stop, by simp, rfl⟩

theorem pointer_ofTokens (tokens : List Token) (base : Nat) :
    (ofTokens tokens base).pointer = .ofTokens tokens base := by
  unfold ofTokens Pointer.ofTokens
  split
  case h_1 none =>
    obtain ⟨last, isLast, -⟩ := closed_closeTokens tokens
    simp [none] at isLast
  case h_2 token later all => simp [pointer, Cursor.tokens, position, all]

end Cursor

namespace Parser

variable {α β : Type} {parser : Parser α} {cursor : Cursor}

/-- How a parser comes out, and where it leaves the cursor. -/
def outcome (parser : Parser α) (cursor : Cursor) : Except ParseError α × Cursor :=
  match parser.run cursor with
  | .ok value last => (.ok value, last)
  | .error error last => (.error error, last)

theorem outcome_bind (parser : Parser α) (next : α → Parser β) (cursor : Cursor) :
    (parser >>= next).outcome cursor =
      match parser.outcome cursor with
      | (.ok value, middle) => (next value).outcome middle
      | (.error error, last) => (.error error, last) := by
  unfold outcome
  rw [EStateM.run_bind]
  cases parser.run cursor <;> rfl

end Parser

namespace Pointer

open Cursor (LeadsTo leadsTo_advance advance_of_end position_advance pointer_advance)

variable {α β : Type} {needs : Nat} {cursor : Cursor} {action : Nat → Procedure Pointer α}
  {parser : Parser α} {described middle : Except ParseError α → Cursor → Prop}

/-- From this place the action, with a bound on its calls of at least `needs`, and the parser come
to the same outcome, and leave the same place in the same tokens, which is not before this one.
Outcome and place are as described. -/
def Moves (needs : Nat) (action : Nat → Procedure Pointer α) (parser : Parser α) (cursor : Cursor)
    (described : Except ParseError α → Cursor → Prop) : Prop :=
  Ends needs 0 (fun calls _ => action calls) cursor.pointer fun outcome pointer =>
    ∃ last, parser.outcome cursor = (outcome, last) ∧ pointer = last.pointer ∧
      cursor.LeadsTo last ∧ described outcome last

theorem moves_of_runs {outcome : Except ParseError α} {last : Cursor}
    (runs : ∀ calls, needs ≤ calls → action calls cursor.pointer = some (outcome, last.pointer))
    (reads : parser.outcome cursor = (outcome, last)) (leads : cursor.LeadsTo last)
    (holds : described outcome last) : Moves needs action parser cursor described :=
  ⟨outcome, last.pointer, ⟨last, reads, rfl, leads, holds⟩, fun calls _ enough _ =>
    runs calls enough⟩

theorem Moves.mono {more : Nat} (moves : Moves needs action parser cursor middle)
    (enough : needs ≤ more)
    (weaker : ∀ outcome last, cursor.LeadsTo last → middle outcome last → described outcome last) :
    Moves more action parser cursor described := by
  refine Ends.mono moves enough (Nat.le_refl _) ?_
  rintro outcome _ ⟨last, reads, same, leads, holds⟩
  exact ⟨last, reads, same, leads, weaker outcome last leads holds⟩

theorem Moves.raise {more : Nat} (moves : Moves needs action parser cursor described)
    (enough : needs ≤ more) : Moves more action parser cursor described :=
  moves.mono enough fun _ _ _ => id

/-- The parser has one outcome, and so has the action with any bound that is high enough. -/
theorem Moves.runs (moves : Moves needs action parser cursor described) {calls : Nat}
    (enough : needs ≤ calls) :
    action calls cursor.pointer =
        some ((parser.outcome cursor).1, (parser.outcome cursor).2.pointer) ∧
      cursor.LeadsTo (parser.outcome cursor).2 ∧
      described (parser.outcome cursor).1 (parser.outcome cursor).2 := by
  obtain ⟨outcome, _, ⟨last, reads, rfl, leads, holds⟩, runs⟩ := moves
  rw [reads]
  exact ⟨runs calls 0 enough (Nat.le_refl 0), leads, holds⟩

theorem Moves.bind {next : Nat → α → Procedure Pointer β} {next' : α → Parser β}
    {described : Except ParseError β → Cursor → Prop}
    (first : Moves needs action parser cursor middle)
    (failed : ∀ error last, cursor.LeadsTo last → middle (.error error) last →
      described (.error error) last)
    (goesOn : ∀ value last, cursor.LeadsTo last → middle (.ok value) last →
      Moves needs (fun calls => next calls value) (next' value) last described) :
    Moves needs (fun calls => action calls >>= next calls) (parser >>= next') cursor described := by
  refine Ends.bind first ?_ ?_
  · rintro error _ ⟨last, reads, rfl, leads, holds⟩
    refine ⟨last, ?_, rfl, leads, failed error last leads holds⟩
    rw [Parser.outcome_bind, reads]
  · rintro value _ ⟨last, reads, rfl, leads, holds⟩
    refine Ends.mono (goesOn value last leads holds) (Nat.le_refl _) (Nat.le_refl _) ?_
    rintro outcome _ ⟨final, readsNext, same, leadsNext, holdsNext⟩
    refine ⟨final, ?_, same, leads.trans leadsNext, holdsNext⟩
    rw [Parser.outcome_bind, reads]
    exact readsNext

/-- A call takes one off the bound. -/
theorem Moves.call {inner : Nat → Procedure Pointer α}
    (moves : Moves needs inner parser cursor described)
    (unfolds : ∀ calls, action (calls + 1) = inner calls) :
    Moves (needs + 1) action parser cursor described :=
  Ends.call moves fun calls _ => unfolds calls

theorem moves_pure {value : α} (holds : described (.ok value) cursor) :
    Moves needs (fun _ => pure value) (pure value) cursor described :=
  ends_pure ⟨cursor, rfl, rfl, LeadsTo.refl cursor, holds⟩

/-- Nothing is said but that both do the same and do not go back. -/
theorem Moves.seq {next : Nat → α → Procedure Pointer β} {next' : α → Parser β}
    (first : Moves needs action parser cursor middle)
    (goesOn : ∀ value last, cursor.LeadsTo last → middle (.ok value) last →
      Moves needs (fun calls => next calls value) (next' value) last fun _ _ => True) :
    Moves needs (fun calls => action calls >>= next calls) (parser >>= next') cursor
      fun _ _ => True :=
  first.bind (fun _ _ _ _ => trivial) goesOn

theorem Moves.returns (first : Moves needs action parser cursor middle) (result : α → β) :
    Moves needs (fun calls => do return result (← action calls)) (do return result (← parser))
      cursor fun _ _ => True :=
  first.seq fun _ _ _ _ => moves_pure trivial

theorem moves_throw {error : ParseError} (holds : described (.error error) cursor) :
    Moves needs (fun _ => throw error) (throw error) cursor described :=
  ends_throw ⟨cursor, rfl, rfl, LeadsTo.refl cursor, holds⟩

theorem moves_get {next : Cursor → Parser α}
    (moves : Moves needs action (next cursor) cursor described) :
    Moves needs action (get >>= next) cursor described :=
  moves

/-- First actions with known results. -/
theorem moves_step {γ : Type} {first : Procedure Pointer β} {first' : Parser γ} {value : β}
    {value' : γ} {last : Cursor} {next : Nat → β → Procedure Pointer α} {next' : γ → Parser α}
    (runs : first cursor.pointer = some (.ok value, last.pointer))
    (reads : first'.run cursor = .ok value' last) (leads : cursor.LeadsTo last)
    (goesOn : Moves needs (fun calls => next calls value) (next' value') last described) :
    Moves needs (fun calls => first >>= next calls) (first' >>= next') cursor described := by
  obtain ⟨outcome, _, ⟨rest, readsNext, rfl, leadsNext, holds⟩, runsNext⟩ := goesOn
  refine moves_of_runs (fun calls enough => ?_) ?_ (leads.trans leadsNext) holds
  · rw [bind_apply, runs]
    exact runsNext calls 0 enough (Nat.le_refl 0)
  · rw [Parser.outcome_bind, Parser.outcome, reads]
    exact readsNext

/-- A first action that only looks at the pointer. -/
theorem moves_look {look : Procedure Pointer β} {value : β}
    {next : Nat → β → Procedure Pointer α}
    (looks : look cursor.pointer = some (.ok value, cursor.pointer))
    (moves : Moves needs (fun calls => next calls value) parser cursor described) :
    Moves needs (fun calls => look >>= next calls) parser cursor described := by
  change Moves needs _ (get >>= fun _ => parser) cursor described
  exact moves_step looks rfl (LeadsTo.refl cursor) moves

theorem current_pointer (cursor : Cursor) :
    current cursor.pointer = some (.ok cursor.current, cursor.pointer) := by
  simp only [current, Cursor.pointer, cursor.getElem?_position]

theorem span_pointer (cursor : Cursor) :
    span cursor.pointer = some (.ok cursor.span, cursor.pointer) := by
  rw [span, bind_apply, current_pointer]
  rfl

theorem looksAt_pointer (kind : TokenKind) (distance : Cursor.Distance) (cursor : Cursor) :
    looksAt kind distance cursor.pointer =
      some (.ok (cursor.looksAt kind distance), cursor.pointer) := by
  have here : (get : Procedure Pointer Pointer) cursor.pointer =
      some (.ok cursor.pointer, cursor.pointer) := rfl
  rw [looksAt, bind_apply, here]
  simp only [Cursor.pointer, cursor.getElem?_add, Cursor.looksAt]
  cases (cursor.current :: cursor.later)[distance.val]? <;> rfl

theorem isAt_pointer (kind : TokenKind) (cursor : Cursor) :
    isAt kind cursor.pointer = some (.ok (cursor.isAt kind), cursor.pointer) :=
  looksAt_pointer kind ⟨0, by decide⟩ cursor

theorem isAtWord_pointer (text : String) (cursor : Cursor) :
    isAtWord text cursor.pointer = some (.ok (cursor.isAtWord text), cursor.pointer) := by
  rw [isAtWord, bind_apply, current_pointer]
  rfl

theorem unexpected_pointer (kind : TokenKind) (cursor : Cursor) :
    unexpected kind cursor.pointer = some (.ok (cursor.unexpected kind), cursor.pointer) := by
  rw [unexpected, bind_apply, current_pointer]
  change (span >>= _) cursor.pointer = _
  rw [bind_apply, span_pointer]
  rfl

theorem discard_eq_bind {m : Type → Type} [Monad m] [LawfulMonad m] (action : m α) :
    discard action = action >>= fun _ => pure () := by
  unfold Functor.discard
  rw [map_const, Function.comp_apply, map_eq_pure_bind]

/-- What is said without the value holds if the value is dropped. -/
theorem Moves.discard {described : Except ParseError Unit → Cursor → Prop}
    (moves : Moves needs action parser cursor middle)
    (failed : ∀ error last, cursor.LeadsTo last → middle (.error error) last →
      described (.error error) last)
    (done : ∀ value last, cursor.LeadsTo last → middle (.ok value) last →
      described (.ok ()) last) :
    Moves needs (fun calls => discard (action calls)) (discard parser) cursor described := by
  simp only [discard_eq_bind]
  exact moves.bind failed fun value last leads holds => moves_pure (done value last leads holds)

/-! ## Single tokens -/

theorem moves_consume (ended : cursor.Ended) :
    Moves needs (fun _ => consume) Parser.consume cursor fun outcome last =>
      outcome = .ok cursor.current ∧ last = cursor.advance := by
  refine moves_of_runs (fun _ _ => ?_) rfl (leadsTo_advance ended) ⟨rfl, rfl⟩
  rw [consume, bind_apply, current_pointer]
  by_cases isEnd : cursor.current.kind = .endOfMarkup
  · simp only [if_pos isEnd, advance_of_end isEnd]
    rfl
  · simp only [if_neg isEnd, pointer_advance ended isEnd]
    rfl

theorem moves_expect (ended : cursor.Ended) (kind : TokenKind) :
    Moves needs (fun _ => expect kind) (Parser.expect kind) cursor fun outcome last =>
      cursor.current.kind = kind ∧ outcome = .ok cursor.current ∧ last = cursor.advance ∨
        (∃ error, outcome = .error error) ∧ last = cursor := by
  rw [expect, Parser.expect]
  refine moves_look (isAt_pointer kind cursor) (moves_get ?_)
  cases isKind : cursor.isAt kind with
  | true =>
    have same : cursor.current.kind = kind := by simpa [Cursor.isAt] using isKind
    exact (moves_consume ended).mono (Nat.le_refl _) fun outcome last _ taken => .inl ⟨same, taken⟩
  | false =>
    exact moves_look (unexpected_pointer kind cursor) (moves_throw (.inr ⟨⟨_, rfl⟩, rfl⟩))

theorem moves_take? (ended : cursor.Ended) (kind : TokenKind) :
    Moves needs (fun _ => take? kind) (Parser.take? kind) cursor fun outcome last =>
      cursor.current.kind = kind ∧ outcome = .ok (some cursor.current) ∧ last = cursor.advance ∨
        cursor.current.kind ≠ kind ∧ outcome = .ok none ∧ last = cursor := by
  rw [take?, Parser.take?]
  refine moves_look (isAt_pointer kind cursor) (moves_get ?_)
  cases isKind : cursor.isAt kind with
  | true =>
    have same : cursor.current.kind = kind := by simpa [Cursor.isAt] using isKind
    refine (moves_consume ended).bind (fun error last _ failed => ?_)
      fun token last _ taken => moves_pure ?_
    · cases failed.1
    · cases taken.1
      exact .inl ⟨same, rfl, taken.2⟩
  | false =>
    have differs : cursor.current.kind ≠ kind := by simpa [Cursor.isAt] using isKind
    exact moves_pure (.inr ⟨differs, rfl, rfl⟩)

theorem moves_takeWord? (ended : cursor.Ended) (text : String) :
    Moves needs (fun _ => takeWord? text) (Parser.takeWord? text) cursor fun outcome last =>
      cursor.current.kind = .identifier ∧ outcome = .ok (some cursor.current) ∧
        last = cursor.advance ∨ outcome = .ok none ∧ last = cursor := by
  rw [takeWord?, Parser.takeWord?]
  refine moves_look (isAtWord_pointer text cursor) (moves_get ?_)
  cases isWord : cursor.isAtWord text with
  | true =>
    have same : cursor.current.kind = .identifier := by
      simp only [Cursor.isAtWord, Bool.and_eq_true, beq_iff_eq] at isWord
      exact isWord.1
    refine (moves_consume ended).bind (fun error last _ failed => ?_)
      fun token last _ taken => moves_pure ?_
    · cases failed.1
    · cases taken.1
      exact .inl ⟨same, rfl, taken.2⟩
  | false => exact moves_pure (.inr ⟨rfl, rfl⟩)

theorem discard_consume_pointer (ended : cursor.Ended) :
    discard consume cursor.pointer = some (.ok (), cursor.advance.pointer) := by
  obtain ⟨runs, -⟩ := (moves_consume ended).runs (Nat.le_refl 0)
  rw [discard_eq_bind, bind_apply, runs]
  rfl

section

variable {yes no : Nat → Procedure Pointer α} {yes' no' : Parser α}

theorem moves_if_isAt (kind : TokenKind)
    (found : cursor.current.kind = kind → Moves needs yes yes' cursor described)
    (other : cursor.current.kind ≠ kind → Moves needs no no' cursor described) :
    Moves needs (fun calls => do if ← isAt kind then yes calls else no calls)
      (do if (← get).isAt kind then yes' else no') cursor described := by
  refine moves_look (isAt_pointer kind cursor) (moves_get ?_)
  cases isKind : cursor.isAt kind with
  | true => exact found (by simpa [Cursor.isAt] using isKind)
  | false => exact other (by simpa [Cursor.isAt] using isKind)

theorem moves_if_take? (ended : cursor.Ended) (kind : TokenKind)
    (taken : cursor.current.kind = kind → cursor.LeadsTo cursor.advance →
      Moves needs yes yes' cursor.advance described)
    (other : Moves needs no no' cursor described) :
    Moves needs (fun calls => do if (← take? kind).isSome then yes calls else no calls)
      (do if (← Parser.take? kind).isSome then yes' else no') cursor described := by
  refine (moves_take? ended kind).bind (fun error last _ failed => ?_)
    fun token last leads found => ?_
  · rcases failed with ⟨-, failed, -⟩ | ⟨-, failed, -⟩ <;> cases failed
  · rcases found with ⟨isKind, ⟨⟩, rfl⟩ | ⟨-, ⟨⟩, rfl⟩
    · exact taken isKind leads
    · exact other

theorem moves_if_takeWord? (ended : cursor.Ended) (text : String)
    (taken : cursor.current.kind = .identifier → cursor.LeadsTo cursor.advance →
      Moves needs yes yes' cursor.advance described)
    (other : Moves needs no no' cursor described) :
    Moves needs (fun calls => do if (← takeWord? text).isSome then yes calls else no calls)
      (do if (← Parser.takeWord? text).isSome then yes' else no') cursor described := by
  refine (moves_takeWord? ended text).bind (fun error last _ failed => ?_)
    fun token last leads found => ?_
  · rcases failed with ⟨-, failed, -⟩ | ⟨failed, -⟩ <;> cases failed
  · rcases found with ⟨isKind, ⟨⟩, rfl⟩ | ⟨⟨⟩, rfl⟩
    · exact taken isKind leads
    · exact other

end

end Pointer

end TextTemplate
