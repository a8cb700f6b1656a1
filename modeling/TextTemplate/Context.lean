import TextTemplate.Drop

/-!
The state of a render: the data root, counters, registers, the loop interrupt and the drops.

Loops write their variable and `forloop` into the data root itself and put back what was there
when they end (`Context.enterLoop`, `Context.leaveLoop`).
-/

namespace TextTemplate

/-- What a template asks of the loop around it. -/
inductive Interrupt
  /-- To end. -/
  | breakLoop
  /-- To go on with the next item. -/
  | continueLoop
deriving DecidableEq, Repr

/-- Counters in environments, one for the whole render and one for each loop that is running. -/
structure Counters where
  /-- The environment of the whole render. -/
  bottom : Table Int64
  /-- The environments of the running loops, the innermost first. -/
  scopes : List (Table Int64)
deriving DecidableEq, Repr

namespace Counters

/-- No counters, outside all loops. -/
def empty : Counters := ⟨.empty, []⟩

/-- The value of a counter in the innermost environment that has it; zero if none has. -/
def value (counters : Counters) (name : String) : Int64 :=
  match counters.scopes.findSome? fun scope => scope.get? name with
  | some n => n
  | none => (counters.bottom.get? name).getD 0

/-- The scopes with a counter set in the innermost one that has it, if one has. -/
def setScoped? (name : String) (n : Int64) : List (Table Int64) → Option (List (Table Int64))
  | [] => none
  | scope :: scopes =>
    if scope.contains name then some (scope.set name n :: scopes)
    else (setScoped? name n scopes).map (scope :: ·)

/-- The counter set in the innermost environment that has it, or in that of the whole render. -/
def set (counters : Counters) (name : String) (n : Int64) : Counters :=
  match setScoped? name n counters.scopes with
  | some scopes => { counters with scopes }
  | none => { counters with bottom := counters.bottom.set name n }

/-- A further environment. -/
def push (counters : Counters) : Counters :=
  { counters with scopes := .empty :: counters.scopes }

/-- Without the innermost environment of a loop. -/
def pop (counters : Counters) : Counters :=
  { counters with scopes := counters.scopes.tail }

end Counters

/-- The state of a render. -/
structure Context where
  /-- The data that the template reads and writes. -/
  root : Data
  counters : Counters
  /-- What tags keep under names of their own. -/
  registers : Table Data
  /-- What was asked of the loop around the place being rendered. -/
  interrupt : Option Interrupt
  drops : DropStore

/-- What a loop puts back when it ends. -/
structure LoopScope where
  /-- The name that the loop binds its items to. -/
  itemName : String
  /-- What that name was bound to. -/
  savedItem : Option Data
  /-- What `forloop` was bound to. -/
  savedForloop : Option Data

namespace Context

/-- The state in which a render begins. -/
def start (root : Data) (drops : DropStore) : Context :=
  ⟨root, .empty, .empty, none, drops⟩

/-- The name under which loops bind their own drop, in the data root. -/
def forloopKey : String := "forloop"

/-- The name of the register that holds the drops of the running loops, the innermost last. -/
def forRegister : String := "for"

/-- What a register holds; nil if it was never set. -/
def register (context : Context) (name : String) : Data :=
  (context.registers.get? name).getD .nil

def setRegister (context : Context) (name : String) (data : Data) : Context :=
  { context with registers := context.registers.set name data }

/-- Binds a key in the data root. Fails if the root is no hash. -/
def assign (context : Context) (key : String) (data : Data) : Except ValueError Context :=
  match context.root.set key data with
  | .ok root => .ok { context with root }
  | .error error => .error error

/-- Adds one to a counter; also the value it had before. -/
def increment (context : Context) (name : String) : Int64 × Context :=
  let n := context.counters.value name
  (n, { context with counters := context.counters.set name (n + 1) })

/-- Takes one from a counter; also the value it has then. -/
def decrement (context : Context) (name : String) : Int64 × Context :=
  let n := context.counters.value name - 1
  (n, { context with counters := context.counters.set name n })

/-- The drop of the innermost running loop. -/
def currentForloop (context : Context) : Option DropId :=
  match context.register forRegister with
  | .array stack =>
    match stack.getLast? with
    | some (.drop id) => some id
    | _ => none
  | _ => none

/-- The register of loops with one more. What is no array gives way to a new array. -/
def pushForloop (id : DropId) : Data → Data
  | .array stack => .array (stack ++ [.drop id])
  | _ => .array [.drop id]

/-- The register of loops without the innermost one. -/
def popForloop : Data → Data
  | .array stack => .array stack.dropLast
  | other => other

/-- Enters a loop: remembers the bindings that it will hide, and makes it the innermost one. -/
def enterLoop (context : Context) (itemName : String) (id : DropId) : LoopScope × Context :=
  let scope :=
    ⟨itemName, context.root.binding? itemName, context.root.binding? forloopKey⟩
  let context := context.setRegister forRegister (pushForloop id (context.register forRegister))
  (scope, { context with counters := context.counters.push })

/-- The data with the binding of a key as it was. -/
def restore (root : Data) (key : String) : Option Data → Data
  | some data => (root.set key data).toOption.getD root
  | none => root.erase key

/-- Leaves a loop: the loop around it is the innermost one again, and the bindings are as they
were. -/
def leaveLoop (context : Context) (scope : LoopScope) : Context :=
  let context := { context with counters := context.counters.pop }
  let context := context.setRegister forRegister (popForloop (context.register forRegister))
  let root := restore context.root scope.itemName scope.savedItem
  { context with root := restore root forloopKey scope.savedForloop }

end Context

end TextTemplate
