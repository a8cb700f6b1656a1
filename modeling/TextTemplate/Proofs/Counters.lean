import TextTemplate.Context
import TextTemplate.Proofs.Table

/-!
# Counters

A counter is set in the innermost environment that has it, or else in that of the whole render. The
environments of loops begin without counters, so none is ever set there (`Counters.Unscoped`), and
leaving a loop loses none. The value of a counter is then the number of its increments so far less
that of its decrements, whatever loops were entered and left in between
(`Session.counters_keep_tally`).
-/

namespace TextTemplate

namespace Counters

variable {counters : Counters} {depth : Nat} {name other : String} {n : Int64}

/-- There are `depth` environments of loops, and no counter in them. -/
def Unscoped (counters : Counters) (depth : Nat) : Prop :=
  counters.scopes = List.replicate depth .empty

theorem unscoped_empty : empty.Unscoped 0 := rfl

theorem Unscoped.push (unscoped : counters.Unscoped depth) : counters.push.Unscoped (depth + 1) := by
  unfold Unscoped at unscoped ⊢
  rw [List.replicate_succ, ← unscoped]
  rfl

theorem Unscoped.pop (unscoped : counters.Unscoped (depth + 1)) : counters.pop.Unscoped depth := by
  unfold Unscoped at unscoped ⊢
  show counters.scopes.tail = _
  rw [unscoped, List.replicate_succ, List.tail_cons]

/-- The value of a counter is found in the environment of the whole render. -/
theorem Unscoped.value (unscoped : counters.Unscoped depth) (name : String) :
    counters.value name = (counters.bottom.get? name).getD 0 := by
  have notFound : counters.scopes.findSome? (fun scope => scope.get? name) = none := by
    rw [List.findSome?_eq_none_iff, unscoped]
    intro scope member
    rw [List.eq_of_mem_replicate member]
    rfl
  unfold Counters.value
  rw [notFound]

theorem setScoped?_replicate (depth : Nat) :
    setScoped? name n (List.replicate depth .empty) = none := by
  induction depth with
  | zero => rfl
  | succ depth ih =>
    rw [List.replicate_succ, setScoped?, if_neg (by simp [Table.contains]), ih]
    rfl

/-- A counter is set in the environment of the whole render. -/
theorem Unscoped.set_eq (unscoped : counters.Unscoped depth) (name : String) (n : Int64) :
    counters.set name n = { counters with bottom := counters.bottom.set name n } := by
  unfold Counters.set
  rw [unscoped, setScoped?_replicate]

theorem Unscoped.set (unscoped : counters.Unscoped depth) (name : String) (n : Int64) :
    (counters.set name n).Unscoped depth := by
  rw [unscoped.set_eq]
  exact unscoped

theorem Unscoped.value_set (unscoped : counters.Unscoped depth) :
    (counters.set name n).value other = if other = name then n else counters.value other := by
  rw [(unscoped.set name n).value, unscoped.value, unscoped.set_eq, Table.get?_set]
  split <;> rfl

end Counters

/-- What can be asked of the state of a render that has to do with counters, loops and bindings. -/
inductive Request
  | increment (name : String)
  | decrement (name : String)
  | enterLoop (itemName : String) (id : DropId)
  /-- To leave the innermost loop. -/
  | leaveLoop
  | assign (key : String) (data : Data)

namespace Request

/-- The name of the counter that a request changes. -/
def counter? : Request → Option String
  | increment name | decrement name => some name
  | _ => none

/-- What a request adds to a counter. -/
def weight (name : String) : Request → Int
  | increment other => if other = name then 1 else 0
  | decrement other => if other = name then -1 else 0
  | _ => 0

/-- The number of increments of a name among the requests, less that of its decrements. -/
def tally (name : String) : List Request → Int
  | [] => 0
  | request :: requests => request.weight name + tally name requests

/-- What a request answers after others: an increment the tally before it, a decrement the one
after it, as signed words. -/
def answer (before : List Request) : Request → Option Int64
  | increment name => some (.ofInt (tally name before))
  | decrement name => some (.ofInt (tally name before - 1))
  | _ => none

theorem tally_append (name : String) (requests : List Request) (request : Request) :
    tally name (requests ++ [request]) = tally name requests + request.weight name := by
  induction requests with
  | nil => exact Int.add_comm (request.weight name) 0
  | cons first requests ih =>
    show first.weight name + tally name (requests ++ [request]) = _
    rw [ih]
    exact (Int.add_assoc ..).symm

theorem weight_eq_zero {request : Request} {name : String} (other : request.counter? ≠ some name) :
    request.weight name = 0 := by
  cases request with
  | increment | decrement =>
    unfold weight
    exact if_neg fun same => other (congrArg some same)
  | _ => rfl

end Request

/-- The state of a render with the loops that were entered, the innermost first. -/
structure Session where
  context : Context
  entered : List LoopScope

namespace Session

open Request (tally tally_append)

/-- A render that has just begun. -/
def start (root : Data) (drops : DropStore) : Session :=
  ⟨.start root drops, []⟩

/-- What a request answers, and the state after it. A binding that cannot be made changes nothing,
and outside all loops there is nothing to leave. -/
def step (session : Session) : Request → Option Int64 × Session
  | .increment name =>
    let (n, context) := session.context.increment name
    (some n, { session with context })
  | .decrement name =>
    let (n, context) := session.context.decrement name
    (some n, { session with context })
  | .enterLoop itemName id =>
    let (scope, context) := session.context.enterLoop itemName id
    (none, ⟨context, scope :: session.entered⟩)
  | .leaveLoop =>
    match session.entered with
    | [] => (none, session)
    | scope :: entered => (none, ⟨session.context.leaveLoop scope, entered⟩)
  | .assign key data =>
    match session.context.assign key data with
    | .ok context => (none, { session with context })
    | .error _ => (none, session)

/-- The state after requests. -/
def run (session : Session) (requests : List Request) : Session :=
  requests.foldl (fun session request => (session.step request).2) session

/-- The counters hold the tallies of the requests, and the environments of loops hold nothing. -/
structure Tallies (session : Session) (requests : List Request) : Prop where
  values : ∀ name, session.context.counters.value name = .ofInt (tally name requests)
  unscoped : session.context.counters.Unscoped session.entered.length

variable {session : Session} {requests : List Request}

theorem tallies_start (root : Data) (drops : DropStore) : (start root drops).Tallies [] :=
  ⟨fun _ => rfl, Counters.unscoped_empty⟩

/-- Requests that set no counter and leave as many loops entered keep the tallies. -/
theorem Tallies.aside {next : Session} {request : Request} (tallies : session.Tallies requests)
    (noCounter : request.counter? = none)
    (unscoped : next.context.counters.Unscoped next.entered.length)
    (bottom : next.context.counters.bottom = session.context.counters.bottom) :
    next.Tallies (requests ++ [request]) := by
  refine ⟨fun name => ?_, unscoped⟩
  have other : request.counter? ≠ some name := by
    rw [noCounter]
    exact nofun
  rw [tally_append, Request.weight_eq_zero other, Int.add_zero, ← tallies.values,
    unscoped.value, tallies.unscoped.value, bottom]

/-- Setting a counter to its tally after a request keeps the tallies. -/
theorem Tallies.set {name : String} {request : Request} (tallies : session.Tallies requests)
    (counts : request.counter? = some name) {n : Int64}
    (value : n = .ofInt (tally name (requests ++ [request]))) :
    Tallies ⟨{ session.context with counters := session.context.counters.set name n },
      session.entered⟩ (requests ++ [request]) := by
  refine ⟨fun other => ?_, tallies.unscoped.set name n⟩
  show (session.context.counters.set name n).value other = _
  rw [tallies.unscoped.value_set]
  split
  · next same => rw [value, same]
  · next different =>
    have uncounted : request.counter? ≠ some other := by
      rw [counts]
      exact fun same => different (Option.some.inj same).symm
    rw [tallies.values, tally_append, Request.weight_eq_zero uncounted, Int.add_zero]

/-- One request keeps the tallies. -/
theorem Tallies.step (tallies : session.Tallies requests) (request : Request) :
    (session.step request).2.Tallies (requests ++ [request]) := by
  cases request with
  | increment name =>
    refine tallies.set rfl ?_
    rw [tallies.values, tally_append, Request.weight, if_pos rfl, Int64.ofInt_add]
    rfl
  | decrement name =>
    refine tallies.set rfl ?_
    rw [tallies.values, tally_append, Request.weight, if_pos rfl, ← Int.sub_eq_add_neg,
      Int64.ofInt_sub]
    rfl
  | enterLoop itemName id => exact tallies.aside rfl tallies.unscoped.push rfl
  | leaveLoop =>
    obtain ⟨context, entered⟩ := session
    cases entered with
    | nil => exact tallies.aside rfl tallies.unscoped rfl
    | cons scope entered => exact tallies.aside rfl tallies.unscoped.pop rfl
  | assign key data =>
    unfold Session.step Context.assign
    dsimp only
    cases session.context.root.set key data with
    | ok root => exact tallies.aside rfl tallies.unscoped rfl
    | error error => exact tallies.aside rfl tallies.unscoped rfl

/-- Any requests keep the tallies. -/
theorem Tallies.run (tallies : session.Tallies requests) (more : List Request) :
    (session.run more).Tallies (requests ++ more) := by
  induction more generalizing session requests with
  | nil => rwa [List.append_nil]
  | cons request more ih =>
    rw [← List.singleton_append, ← List.append_assoc]
    exact ih (tallies.step request)

theorem Tallies.answer (tallies : session.Tallies requests) (request : Request) :
    (session.step request).1 = request.answer requests := by
  cases request with
  | increment name => exact congrArg some (tallies.values name)
  | decrement name =>
    show some (session.context.counters.value name - 1) = some (.ofInt (tally name requests - 1))
    rw [tallies.values, Int64.ofInt_sub]
    rfl
  | enterLoop itemName id => rfl
  | leaveLoop | assign =>
    unfold Session.step
    dsimp only
    split <;> rfl

/-- In a render that has just begun, whatever requests were made before: an increment answers the
number of increments of its name so far less that of its decrements, and a decrement one less, both
as signed words. A request changes no counter but its own, so leaving a loop changes none, and
counting changes nothing in the data root. The environments of the loops that were entered hold no
counters. -/
theorem counters_keep_tally (root : Data) (drops : DropStore) (requests : List Request) :
    let session := (start root drops).run requests
    (∀ request, (session.step request).1 = request.answer requests) ∧
    (∀ request name, request.counter? ≠ some name →
      (session.step request).2.context.counters.value name =
        session.context.counters.value name) ∧
    (∀ request name, request.counter? = some name →
      (session.step request).2.context.root = session.context.root) ∧
    session.context.counters.scopes = List.replicate session.entered.length .empty := by
  intro session
  have tallies : session.Tallies requests := (tallies_start root drops).run requests
  refine ⟨tallies.answer, fun request name other => ?_, fun request name counts => ?_,
    tallies.unscoped⟩
  · rw [(tallies.step request).values, tallies.values, tally_append, Request.weight_eq_zero other,
      Int.add_zero]
  · cases request with
    | increment | decrement => rfl
    | _ => cases counts

/-- A counter is made inside two loops and counted on outside of them; an assignment of its name
and another counter do not touch it. -/
theorem counters_keep_tally_nested :
    let requests : List Request := [.enterLoop "x" ⟨0⟩, .enterLoop "x" ⟨1⟩, .increment "n",
      .increment "m", .assign "n" (.string "mine"), .leaveLoop, .increment "n"]
    let session := (start (.hash .empty) .empty).run requests
    (session.step (.decrement "n")).1 = some 1 ∧
      Request.counter? .leaveLoop ≠ some "n" ∧
      (session.step .leaveLoop).2.context.counters.value "n" = 2 ∧
      Request.counter? (.decrement "n") = some "n" ∧
      (session.step (.decrement "n")).2.context.root = .hash (.ofList [("n", .string "mine")]) ∧
      session.context.counters.scopes = [.empty] := by
  intro requests session
  obtain ⟨answers, keeps, leavesRoot, scopes⟩ :=
    counters_keep_tally (.hash .empty) .empty requests
  refine ⟨answers _, nofun, ?_, rfl, ?_, scopes⟩
  · exact keeps .leaveLoop "n" nofun
  · exact leavesRoot (.decrement "n") "n" rfl

end Session

end TextTemplate
