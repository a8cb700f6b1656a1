import TextTemplate.Node.Render

/-!
# The course of a render

`Node.traceBody` renders a body and lists the points that the render comes by, each with the loops
that are running there and with the state: before every node, at the start of every iteration, and
where a `changed` node compares its text. Leaving the list out gives back the render
(`Node.erase_traceBody`), so a statement about the points is one about `Node.renderBody`.
-/

namespace TextTemplate

/-- A loop that is running, in its iteration number `index`. -/
structure RunningLoop where
  header : LoopHeader
  /-- The loop's own drop. -/
  id : DropId
  /-- The items that the loop visits. -/
  window : Sequence
  index : Nat

/-- The item of the iteration. -/
def RunningLoop.item (loop : RunningLoop) : Data :=
  loop.window.item loop.index

/-- What a render is about to do. -/
inductive Moment
  | node (node : Node)
  /-- To render the body of the innermost loop. -/
  | iteration
  /-- To compare the text of a `changed` node with the last such text. -/
  | comparison (text : String)

/-- A point that a render comes by. -/
structure Visit where
  moment : Moment
  /-- The loops that are running, the innermost first. -/
  loops : List RunningLoop
  context : Context

/-- A rendering action with the points that it comes by, in order. -/
def Traced (α : Type) : Type :=
  Context → EStateM.Result RenderError Context α × List Visit

namespace Traced

variable {α β : Type}

/-- An action that comes by no point. -/
def lift (action : Render α) : Traced α :=
  fun context => (action context, [])

/-- Comes by a point. -/
def note (moment : Moment) (loops : List RunningLoop) : Traced Unit :=
  fun context => (.ok () context, [⟨moment, loops, context⟩])

protected def bind (action : Traced α) (next : α → Traced β) : Traced β := fun context =>
  match action context with
  | (.ok value middle, visits) => ((next value middle).1, visits ++ (next value middle).2)
  | (.error error middle, visits) => (.error error middle, visits)

instance : Monad Traced where
  pure value := lift (pure value)
  bind := Traced.bind

/-- Runs an action inside a loop, which is left however the action ends. -/
def withLoop (itemName : String) (id : DropId) (action : Traced α) : Traced α := fun context =>
  (Render.withLoop itemName id (fun context => (action context).1) context,
    (action (context.enterLoop itemName id).2).2)

/-- The action alone. -/
def erase (action : Traced α) : Render α :=
  fun context => (action context).1

/-- The points that the action comes by from a state on. -/
def visits (action : Traced α) (context : Context) : List Visit :=
  (action context).2

@[simp] theorem erase_lift (action : Render α) : (lift action).erase = action := rfl

@[simp] theorem erase_pure (value : α) : (pure value : Traced α).erase = pure value := rfl

@[simp] theorem erase_note (moment : Moment) (loops : List RunningLoop) :
    (note moment loops).erase = pure () := rfl

@[simp] theorem erase_bind (action : Traced α) (next : α → Traced β) :
    (action >>= next).erase = action.erase >>= fun value => (next value).erase := by
  funext context
  show (Traced.bind action next context).1 =
    EStateM.bind action.erase (fun value => (next value).erase) context
  unfold Traced.bind EStateM.bind erase
  split <;> simp_all

@[simp] theorem erase_withLoop (itemName : String) (id : DropId) (action : Traced α) :
    (withLoop itemName id action).erase = Render.withLoop itemName id action.erase := rfl

@[simp] theorem erase_ite {condition : Prop} [Decidable condition] (yes no : Traced α) :
    (if condition then yes else no).erase = if condition then yes.erase else no.erase := by
  split <;> rfl

end Traced

namespace LoopHeader

open Traced (lift note)

/-- The iterations of a loop, as `LoopHeader.iterate` renders them. -/
def traceIterate (header : LoopHeader) (loops : List RunningLoop) (id : DropId)
    (window : Sequence) (body : List RunningLoop → Traced String) :
    Nat → Nat → String → Traced String
  | 0, _, out => return out
  | remaining + 1, index, out => do
    lift (header.beginIteration id index (window.item index))
    let running := ⟨header, id, window, index⟩ :: loops
    note .iteration running
    let text ← body running
    match ← lift Render.takeInterrupt with
    | some .breakLoop => return out ++ text
    | _ => header.traceIterate loops id window body remaining (index + 1) (out ++ text)

/-- A loop, as `LoopHeader.render` renders it. -/
def trace (header : LoopHeader) (loops : List RunningLoop)
    (body : List RunningLoop → Traced String) (otherwise : Traced String) : Traced String := do
  let window ← lift header.window
  if window.length = 0 then otherwise
  else
    let id ← lift (addForloop window.length)
    Traced.withLoop header.itemName id
      (header.traceIterate loops id window body window.length 0 "")

theorem erase_traceIterate (header : LoopHeader) (loops : List RunningLoop) (id : DropId)
    (window : Sequence) {body : List RunningLoop → Traced String} {action : Render String}
    (same : ∀ loops, (body loops).erase = action) (remaining index : Nat) (out : String) :
    (header.traceIterate loops id window body remaining index out).erase =
      header.iterate id window action remaining index out := by
  induction remaining generalizing index out with
  | zero => rfl
  | succ remaining ih =>
    unfold traceIterate iterate
    simp only [Traced.erase_bind, Traced.erase_lift, Traced.erase_note, pure_bind, same]
    refine bind_congr fun _ => bind_congr fun text => bind_congr fun signal => ?_
    match signal with
    | some .breakLoop => rfl
    | some .continueLoop => exact ih (index + 1) (out ++ text)
    | none => exact ih (index + 1) (out ++ text)

theorem erase_trace (header : LoopHeader) (loops : List RunningLoop)
    {body : List RunningLoop → Traced String} {otherwise : Traced String} {action : Render String}
    (same : ∀ loops, (body loops).erase = action) :
    (header.trace loops body otherwise).erase = header.render action otherwise.erase := by
  unfold trace render
  simp only [Traced.erase_bind, Traced.erase_lift, Traced.erase_ite, Traced.erase_withLoop,
    erase_traceIterate header loops _ _ same]

end LoopHeader

namespace Node

open Traced (lift note)

mutual

/-- A node, as `Node.render` renders it. A node of the host comes by no point. -/
def trace (filters : FilterTable) (loops : List RunningLoop) : Node → Traced String
  | .cond negate sections otherwise =>
    traceFirst filters loops (traceOtherwise filters loops otherwise) negate sections
  | .case subject sections otherwise => do
    let subject ← lift do Render.ofDrops (subject.eval (← get).root)
    traceMatching filters loops (traceOtherwise filters loops otherwise) subject "" false sections
  | .loop header body otherwise =>
    header.trace loops (fun loops => traceBody filters loops "" body)
      (traceOtherwise filters loops otherwise)
  | .capture name body => do
    let text ← traceBody filters loops "" body
    lift (Render.assign name (.string text))
    return ""
  | .changed body => do
    let text ← traceBody filters loops "" body
    note (.comparison text) loops
    lift (Render.ifChanged text)
  | node => lift (node.render filters)

/-- A body, as `Node.renderBody` renders it. -/
def traceBody (filters : FilterTable) (loops : List RunningLoop) (out : String) :
    List Node → Traced String
  | [] => return out
  | node :: nodes => do
    note (.node node) loops
    let text ← node.trace filters loops
    if ← lift Render.isInterrupted then return out ++ text
    else traceBody filters loops (out ++ text) nodes

/-- A body that may be absent, as `Node.renderOtherwise` renders it. -/
def traceOtherwise (filters : FilterTable) (loops : List RunningLoop) :
    Option (List Node) → Traced String
  | some body => traceBody filters loops "" body
  | none => return ""

/-- Sections with conditions, as `Node.renderFirst` renders them. -/
def traceFirst (filters : FilterTable) (loops : List RunningLoop) (otherwise : Traced String)
    (negate : Bool) : List (Section Condition Node) → Traced String
  | [] => otherwise
  | ⟨condition, body⟩ :: sections => do
    let holds ← lift do Render.ofDrops (condition.eval (← get).root)
    if holds != negate then traceBody filters loops "" body
    else traceFirst filters loops otherwise false sections

/-- Sections with values, as `Node.renderMatching` renders them. -/
def traceMatching (filters : FilterTable) (loops : List RunningLoop) (otherwise : Traced String)
    (subject : Data) (out : String) (matched : Bool) :
    List (Section (List Expr) Node) → Traced String
  | [] => do
    if matched then return out
    else
      let text ← otherwise
      return out ++ text
  | ⟨values, body⟩ :: sections => do
    if ← lift do Render.ofDrops (Expr.anyEquals (← get).root subject values) then
      let text ← traceBody filters loops "" body
      if ← lift Render.isInterrupted then return out ++ text
      else traceMatching filters loops otherwise subject (out ++ text) true sections
    else traceMatching filters loops otherwise subject out matched sections

end

mutual

theorem erase_trace (filters : FilterTable) (loops : List RunningLoop) :
    (node : Node) → (node.trace filters loops).erase = node.render filters
  | .cond negate sections otherwise => by
    rw [trace, erase_traceFirst, erase_traceOtherwise]
    rfl
  | .case subject sections otherwise => by
    simp only [trace, render, Traced.erase_bind, Traced.erase_lift, bind_assoc,
      erase_traceMatching, erase_traceOtherwise]
  | .loop header body otherwise => by
    have same (loops : List RunningLoop) := erase_traceBody filters loops "" body
    rw [trace, LoopHeader.erase_trace header loops same, erase_traceOtherwise]
    rfl
  | .capture name body => by
    simp only [trace, render, Traced.erase_bind, Traced.erase_lift, Traced.erase_pure,
      erase_traceBody]
  | .changed body => by
    simp only [trace, render, Traced.erase_bind, Traced.erase_note, Traced.erase_lift, pure_bind,
      erase_traceBody]
  | .text _ | .object _ | .cycle _ | .assign .. | .increment _ | .decrement _ | .comment
  | .interrupt _ | .host .. => rfl

/-- Without its points the course of a body is its render. -/
theorem erase_traceBody (filters : FilterTable) (loops : List RunningLoop) (out : String) :
    (body : List Node) → (traceBody filters loops out body).erase = renderBody filters out body
  | [] => rfl
  | node :: nodes => by
    simp only [traceBody, renderBody, Traced.erase_bind, Traced.erase_note, Traced.erase_lift,
      Traced.erase_ite, Traced.erase_pure, pure_bind, erase_trace filters loops node,
      erase_traceBody filters loops _ nodes]

theorem erase_traceOtherwise (filters : FilterTable) (loops : List RunningLoop) :
    (otherwise : Option (List Node)) →
      (traceOtherwise filters loops otherwise).erase = renderOtherwise filters otherwise
  | some body => erase_traceBody filters loops "" body
  | none => rfl

theorem erase_traceFirst (filters : FilterTable) (loops : List RunningLoop)
    (otherwise : Traced String) (negate : Bool) :
    (sections : List (Section Condition Node)) →
      (traceFirst filters loops otherwise negate sections).erase =
        renderFirst filters otherwise.erase negate sections
  | [] => rfl
  | ⟨condition, body⟩ :: sections => by
    simp only [traceFirst, renderFirst, Traced.erase_bind, Traced.erase_lift, Traced.erase_ite,
      bind_assoc, erase_traceBody filters loops "" body,
      erase_traceFirst filters loops otherwise false sections]

theorem erase_traceMatching (filters : FilterTable) (loops : List RunningLoop)
    (otherwise : Traced String) (subject : Data) (out : String) (matched : Bool) :
    (sections : List (Section (List Expr) Node)) →
      (traceMatching filters loops otherwise subject out matched sections).erase =
        renderMatching filters otherwise.erase subject out matched sections
  | [] => by
    simp only [traceMatching, renderMatching, Traced.erase_bind, Traced.erase_ite,
      Traced.erase_pure]
  | ⟨values, body⟩ :: sections => by
    simp only [traceMatching, renderMatching, Traced.erase_bind, Traced.erase_lift,
      Traced.erase_ite, Traced.erase_pure, bind_assoc, erase_traceBody filters loops "" body,
      erase_traceMatching filters loops otherwise subject _ _ sections]

end

end Node

end TextTemplate
