import TextTemplate.Condition
import TextTemplate.Cycle
import TextTemplate.Loop
import TextTemplate.Render.Keeps

/-!
The nodes of a compiled template. A body is a list of nodes.
-/

namespace TextTemplate

/-- A body with what decides whether it is rendered. -/
structure Section (γ ν : Type) where
  guard : γ
  body : List ν

/-- What a node of the host does around its body. It may do to the state what a host can do, which
can bind keys of the data root but cannot put something else in the place of a hash. -/
structure HostRun where
  around : Render String → Render String
  keepsHash : ∀ {body : Render String}, body.KeepsHash → (around body).KeepsHash

/-- What a node of the host does that has no body. -/
def HostRun.alone (action : Render String) (keeps : action.KeepsHash) : HostRun :=
  ⟨fun _ => action, fun _ => keeps⟩

/-- A node. -/
inductive Node
  /-- Literal text. -/
  | text (text : String)
  /-- The text of a value. -/
  | object (pipeline : Pipeline)
  /-- The first section whose condition holds, or the last body. With `negate` the first condition
  has to fail. -/
  | cond (negate : Bool) (sections : List (Section Condition Node))
    (otherwise : Option (List Node))
  /-- Every section that has a value equal to the subject, or the last body if none has. -/
  | case (subject : Expr) (sections : List (Section (List Expr) Node))
    (otherwise : Option (List Node))
  /-- The first body for every item of the window, or the second one for an empty window. -/
  | loop (header : LoopHeader) (body : List Node) (otherwise : Option (List Node))
  | cycle (cycle : Cycle)
  /-- Binds a value in the data root. -/
  | assign (name : String) (pipeline : Pipeline)
  /-- Binds the text of the body in the data root. -/
  | capture (name : String) (body : List Node)
  | increment (name : String)
  | decrement (name : String)
  /-- The text of the body, if it is not the last one that such a node rendered. -/
  | changed (body : List Node)
  | comment
  | interrupt (interrupt : Interrupt)
  /-- A node of the host, which may render its body. -/
  | host (run : HostRun) (body : List Node)

end TextTemplate
