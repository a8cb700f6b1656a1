import TextTemplate.Node

/-!
Rendering nodes.

A body is rendered node by node. After each node it stops if an interrupt is pending; the loop
around it takes the interrupt. Text that was rendered before counts.
-/

namespace TextTemplate

/-- The register with the last text of a `changed` node. -/
def changedRegister : String := "ifchanged"

/-- The text, unless the last such text was the same. -/
def Render.ifChanged (text : String) : Render String := do
  let same :=
    match ← Render.register changedRegister with
    | .string last => last == text
    | _ => false
  if same then return ""
  else
    Render.setRegister changedRegister (.string text)
    return text

/-- Whether one of the expressions has a value equal to `subject`. -/
def Expr.anyEquals (root subject : Data) : List Expr → DropM Bool
  | [] => return false
  | expr :: exprs => do
    let value ← expr.eval root
    if ← DropM.same value subject then return true
    else Expr.anyEquals root subject exprs

namespace Node

mutual

/-- The text of a node. -/
def render (filters : FilterTable) : Node → Render String
  | .text literal => return literal
  | .object pipeline => do return (← pipeline.eval filters).display
  | .cond negate sections otherwise =>
    renderFirst filters (renderOtherwise filters otherwise) negate sections
  | .case subject sections otherwise => do
    let subject ← Render.ofDrops (subject.eval (← get).root)
    renderMatching filters (renderOtherwise filters otherwise) subject "" false sections
  | .loop header body otherwise =>
    header.render (renderBody filters "" body) (renderOtherwise filters otherwise)
  | .cycle rotation => rotation.render
  | .assign name pipeline => do
    Render.assign name (← pipeline.eval filters)
    return ""
  | .capture name body => do
    let text ← renderBody filters "" body
    Render.assign name (.string text)
    return ""
  | .increment name => Render.count fun context => context.increment name
  | .decrement name => Render.count fun context => context.decrement name
  | .changed body => do Render.ifChanged (← renderBody filters "" body)
  | .comment => return ""
  | .interrupt signal => do
    Render.interrupt signal
    return ""
  | .host run body => run.around (renderBody filters "" body)

/-- The text `out` with the text of the nodes after it. -/
def renderBody (filters : FilterTable) (out : String) : List Node → Render String
  | [] => return out
  | node :: nodes => do
    let text ← node.render filters
    if ← Render.isInterrupted then return out ++ text
    else renderBody filters (out ++ text) nodes

/-- The text of a body that may be absent. -/
def renderOtherwise (filters : FilterTable) : Option (List Node) → Render String
  | some body => renderBody filters "" body
  | none => return ""

/-- The text of the first section whose condition holds, or fails if `negate` is set, the
conditions after the first being never negated. -/
def renderFirst (filters : FilterTable) (otherwise : Render String) (negate : Bool) :
    List (Section Condition Node) → Render String
  | [] => otherwise
  | ⟨condition, body⟩ :: sections => do
    let holds ← Render.ofDrops (condition.eval (← get).root)
    if holds != negate then renderBody filters "" body
    else renderFirst filters otherwise false sections

/-- The text `out` with the texts of the sections that have a value equal to `subject`. An
interrupt ends the search; `matched` tells whether a section before had such a value. -/
def renderMatching (filters : FilterTable) (otherwise : Render String) (subject : Data)
    (out : String) (matched : Bool) : List (Section (List Expr) Node) → Render String
  | [] => if matched then return out else return out ++ (← otherwise)
  | ⟨values, body⟩ :: sections => do
    if ← Render.ofDrops (Expr.anyEquals (← get).root subject values) then
      let text ← renderBody filters "" body
      if ← Render.isInterrupted then return out ++ text
      else renderMatching filters otherwise subject (out ++ text) true sections
    else renderMatching filters otherwise subject out matched sections

end

end Node

end TextTemplate
