import TextTemplate.Context
import TextTemplate.RenderError

/-!
Rendering actions: computations on the state of a render that may fail. A failure keeps the state
in which it was met.
-/

namespace TextTemplate

/-- A computation on the state of a render. -/
abbrev Render := EStateM RenderError Context

namespace Render

variable {α : Type}

/-- Reads drops. -/
def ofDrops (action : DropM α) : Render α := fun context =>
  match action.run context.drops with
  | some (value, drops) => .ok value { context with drops }
  | none => .error ⟨.endlessComparison, none⟩ context

/-- What a computation gives, or its error. -/
def ofExcept (result : Except RenderError α) : Render α :=
  match result with
  | .ok value => pure value
  | .error error => throw error

/-- Binds a key in the data root. -/
def assign (key : String) (data : Data) : Render Unit := fun context =>
  match context.assign key data with
  | .ok context => .ok () context
  | .error error => .error (.ofValueError error) context

/-- Changes a counter and writes a number. -/
def count (step : Context → Int64 × Context) : Render String := fun context =>
  let (n, context) := step context
  .ok (Number.decimal n) context

/-- What a register holds. -/
def register (name : String) : Render Data := do
  return (← get).register name

def setRegister (name : String) (data : Data) : Render Unit :=
  modify fun context => context.setRegister name data

/-- Whether an interrupt is pending. -/
def isInterrupted : Render Bool := do
  return (← get).interrupt.isSome

/-- Makes an interrupt pending. -/
def interrupt (interrupt : Interrupt) : Render Unit :=
  modify fun context => { context with interrupt := some interrupt }

/-- The pending interrupt, which is pending no more. -/
def takeInterrupt : Render (Option Interrupt) := do
  let context ← get
  set { context with interrupt := none }
  return context.interrupt

/-- Runs an action inside a loop. The loop is left however the action ends. -/
def withLoop (itemName : String) (id : DropId) (action : Render α) : Render α := fun context =>
  let (scope, context) := context.enterLoop itemName id
  match action context with
  | .ok value context => .ok value (context.leaveLoop scope)
  | .error error context => .error error (context.leaveLoop scope)

end Render

end TextTemplate
