import TextTemplate.ParseError

/-!
# Procedures with bounds

A recursion that has no bound of its own is followed down to a bound on the calls that stand on top
of each other; where the bound is met there is no outcome. The recursion ends if, with any bound
that is high enough, there is an outcome, and always the same. `Procedure` is the monad of such
readers: a failure is an outcome, and it leaves what is read where it was met.

A procedure may have a second bound, on the nesting of some of its calls. `Procedure.Ends` says that
it ends, and how high the bounds have to be.
-/

namespace TextTemplate

/-- An action on a state of type `σ`, with no outcome if a bound is met. -/
abbrev Procedure (σ α : Type) := ExceptT ParseError (StateT σ Option) α

namespace Procedure

variable {σ α β : Type}

/-- What is done where a bound is met. -/
def noOutcome : Procedure σ α :=
  fun _ => none

theorem bind_apply (action : Procedure σ α) (next : α → Procedure σ β) (state : σ) :
    (action >>= next) state =
      match action state with
      | none => none
      | some (.error error, last) => some (.error error, last)
      | some (.ok value, middle) => next value middle := by
  change Option.bind (action state) _ = _
  rcases action state with _ | ⟨_ | value, middle⟩ <;> rfl

theorem ofExcept_apply (outcome : Except ParseError α) (state : σ) :
    (ofExcept outcome : Procedure σ α) state = some (outcome, state) := by
  cases outcome <;> rfl

/-- With bounds that are at least `calls` and `nesting`, the actions come to one outcome and leave
one state, and these are as described. -/
def Ends (calls nesting : Nat) (actions : Nat → Nat → Procedure σ α) (state : σ)
    (described : Except ParseError α → σ → Prop) : Prop :=
  ∃ outcome last, described outcome last ∧
    ∀ c k, calls ≤ c → nesting ≤ k → actions c k state = some (outcome, last)

variable {calls nesting moreCalls moreNesting : Nat} {state : σ}
  {actions inner : Nat → Nat → Procedure σ α} {described middle : Except ParseError α → σ → Prop}

theorem Ends.mono (ends : Ends calls nesting actions state middle) (leCalls : calls ≤ moreCalls)
    (leNesting : nesting ≤ moreNesting)
    (weaker : ∀ outcome last, middle outcome last → described outcome last) :
    Ends moreCalls moreNesting actions state described := by
  obtain ⟨outcome, last, holds, runs⟩ := ends
  exact ⟨outcome, last, weaker outcome last holds, fun c k enough enoughNesting =>
    runs c k (Nat.le_trans leCalls enough) (Nat.le_trans leNesting enoughNesting)⟩

theorem Ends.raise (ends : Ends calls nesting actions state described) (leCalls : calls ≤ moreCalls)
    (leNesting : nesting ≤ moreNesting) : Ends moreCalls moreNesting actions state described :=
  ends.mono leCalls leNesting fun _ _ => id

theorem ends_pure {value : α} (holds : described (.ok value) state) :
    Ends calls nesting (fun _ _ => pure value) state described :=
  ⟨_, _, holds, fun _ _ _ _ => rfl⟩

theorem ends_throw {error : ParseError} (holds : described (.error error) state) :
    Ends calls nesting (fun _ _ => throw error) state described :=
  ⟨_, _, holds, fun _ _ _ _ => rfl⟩

theorem ends_ofExcept {outcome : Except ParseError α} (holds : described outcome state) :
    Ends calls nesting (fun _ _ => ofExcept outcome) state described :=
  ⟨_, _, holds, fun _ _ _ _ => ofExcept_apply outcome state⟩

/-- A failure of the first action is one of both; otherwise the second goes on from where the
first has stopped. -/
theorem Ends.bind {next : Nat → Nat → α → Procedure σ β}
    {described : Except ParseError β → σ → Prop} (first : Ends calls nesting actions state middle)
    (failed : ∀ error last, middle (.error error) last → described (.error error) last)
    (goesOn : ∀ value last, middle (.ok value) last →
      Ends calls nesting (fun c k => next c k value) last described) :
    Ends calls nesting (fun c k => actions c k >>= next c k) state described := by
  obtain ⟨outcome, last, holds, runs⟩ := first
  cases outcome with
  | error error =>
    refine ⟨_, _, failed error last holds, fun c k enough enoughNesting => ?_⟩
    exact (bind_apply ..).trans (by rw [runs c k enough enoughNesting])
  | ok value =>
    obtain ⟨final, rest, holdsFinal, runsNext⟩ := goesOn value last holds
    refine ⟨final, rest, holdsFinal, fun c k enough enoughNesting => ?_⟩
    refine (bind_apply ..).trans ?_
    rw [runs c k enough enoughNesting]
    exact runsNext c k enough enoughNesting

theorem ends_ofExcept_bind {outcome : Except ParseError α}
    {next : Nat → Nat → α → Procedure σ β} {described : Except ParseError β → σ → Prop}
    (failed : ∀ error, outcome = .error error → described (.error error) state)
    (goesOn : ∀ value, outcome = .ok value →
      Ends calls nesting (fun c k => next c k value) state described) :
    Ends calls nesting (fun c k => ofExcept outcome >>= next c k) state described := by
  have first : Ends calls nesting (fun _ _ => ofExcept outcome) state
      fun result last => result = outcome ∧ last = state := ends_ofExcept ⟨rfl, rfl⟩
  refine first.bind ?_ ?_
  · rintro error _ ⟨isError, rfl⟩
    exact failed error isError.symm
  · rintro value _ ⟨isOk, rfl⟩
    exact goesOn value isOk.symm

/-- A call takes one off the bound on calls. -/
theorem Ends.call (ends : Ends calls nesting inner state described)
    (unfolds : ∀ c k, actions (c + 1) k = inner c k) :
    Ends (calls + 1) nesting actions state described := by
  obtain ⟨outcome, last, holds, runs⟩ := ends
  refine ⟨outcome, last, holds, fun c k enough enoughNesting => ?_⟩
  obtain ⟨below, rfl⟩ := Nat.exists_eq_add_of_le enough
  rw [Nat.add_right_comm, unfolds]
  exact runs _ _ (Nat.le_add_right ..) enoughNesting

/-- A call that counts as nested takes one off both bounds. -/
theorem Ends.nested (ends : Ends calls nesting inner state described)
    (unfolds : ∀ c k, actions (c + 1) (k + 1) = inner c k) :
    Ends (calls + 1) (nesting + 1) actions state described := by
  obtain ⟨outcome, last, holds, runs⟩ := ends
  refine ⟨outcome, last, holds, fun c k enough enoughNesting => ?_⟩
  obtain ⟨below, rfl⟩ := Nat.exists_eq_add_of_le enough
  obtain ⟨inside, rfl⟩ := Nat.exists_eq_add_of_le enoughNesting
  rw [Nat.add_right_comm, Nat.add_right_comm nesting, unfolds]
  exact runs _ _ (Nat.le_add_right ..) (Nat.le_add_right ..)

end Procedure

end TextTemplate
