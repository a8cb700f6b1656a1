import TextTemplate.Node.Render

/-!
# Rendering with another way of reading drops

The functions that render nodes read drops through `DropM.read`. Here the same functions take the
way of reading as a parameter; what reads no drop is used as it is. With `DropM.read` they are the
functions they were made from (`Node.renderBodyBy_read`, in `TextTemplate.Proofs.Regime`).
-/

namespace TextTemplate

/-- A way of reading a key of a drop. -/
abbrev Reader := DropId → String → DropM Data

namespace Data

/-- The member called `key`. -/
def memberBy (read : Reader) (data : Data) (key : String) : DropM Data :=
  match data with
  | drop id => read id key
  | other => other.member key

/-- The member that a computed key names. -/
def indexBy (read : Reader) (data key : Data) : DropM Data :=
  match key with
  | int n =>
    match data with
    | array items => return (array items).itemAt n.toInt
    | _ => data.memberBy read (Number.decimal n)
  | string name => data.memberBy read name
  | _ => return nil

end Data

mutual

/-- The value of an expression. -/
def Expr.evalBy (read : Reader) (root : Data) : Expr → DropM Data
  | .lookup steps => Step.walkBy read root root steps
  | literal => literal.eval root

/-- The value at the end of the steps from `data` on. -/
def Step.walkBy (read : Reader) (root data : Data) : List Step → DropM Data
  | [] => return data
  | .key name :: rest => do
    let data ← data.memberBy read name
    Step.walkBy read root data rest
  | .index key :: rest => do
    let key ← key.evalBy read root
    let data ← data.indexBy read key
    Step.walkBy read root data rest

end

namespace Expr

/-- The values of expressions, one after the other. -/
def evalAllBy (read : Reader) (root : Data) : List Expr → DropM (List Data)
  | [] => return []
  | expr :: exprs => do
    let value ← expr.evalBy read root
    return value :: (← evalAllBy read root exprs)

/-- Whether one of the expressions has a value equal to `subject`. -/
def anyEqualsBy (read : Reader) (root subject : Data) : List Expr → DropM Bool
  | [] => return false
  | expr :: exprs => do
    let value ← expr.evalBy read root
    if ← DropM.same value subject then return true
    else anyEqualsBy read root subject exprs

end Expr

/-- Whether a condition holds. -/
def Condition.evalBy (read : Reader) (root : Data) : Condition → DropM Bool
  | truthy expr => do return (← expr.evalBy read root).isTruthy
  | compare left comparison right => do
    let left ← left.evalBy read root
    let right ← right.evalBy read root
    comparison.test left right
  | and left right => do
    if ← left.evalBy read root then right.evalBy read root else return false
  | or left right => do
    if ← left.evalBy read root then return true else right.evalBy read root

namespace Pipeline

/-- Puts a value through filters. -/
def applyAllBy (read : Reader) (filters : FilterTable) (root : Data) (value : Data) :
    List FilterCall → Render Data
  | [] => return value
  | call :: calls =>
    match filters.get? call.name with
    | none => throw ((RenderError.unknownFilter call.name).orSpan call.span)
    | some filter => do
      let args ← Render.ofDrops (Expr.evalAllBy read root call.args)
      match filter value args with
      | .ok value => applyAllBy read filters root value calls
      | .error error => throw (error.orSpan call.span)

/-- The value of a pipeline. -/
def evalBy (read : Reader) (filters : FilterTable) (pipeline : Pipeline) : Render Data := do
  let root := (← get).root
  let value ← Render.ofDrops (pipeline.source.evalBy read root)
  applyAllBy read filters root value pipeline.calls

end Pipeline

/-- Writes the next value of a rotation. -/
def Cycle.renderBy (read : Reader) (cycle : Cycle) : Render String := do
  let (register, key) ←
    match cycle.group with
    | some group => do
      let name ← Render.ofDrops (group.evalBy read (← get).root)
      pure (groupRegister, name.display)
    | none => pure (siteRegister, cycle.key)
  let place ← advance register key cycle.values.length
  let value ← Render.ofDrops ((cycle.values.getD place .nil).evalBy read (← get).root)
  return value.display

namespace LoopHeader

/-- The natural sequence of the source. -/
def naturalBy (read : Reader) (header : LoopHeader) (root : Data) : Render Sequence := do
  match header.source with
  | .range first last =>
    let first ← Render.ofExcept (boundOf (← Render.ofDrops (first.evalBy read root)))
    let last ← Render.ofExcept (boundOf (← Render.ofDrops (last.evalBy read root)))
    return .ofRange first last
  | .collection expr => return .ofData (← Render.ofDrops (expr.evalBy read root))

/-- The value of a modifier that may be absent. -/
def modifierBy (read : Reader) (name : String) (expr : Option Expr) (root : Data) :
    Render (Option Nat) := do
  match expr with
  | none => return none
  | some expr => Render.ofExcept (modifierOf name (← Render.ofDrops (expr.evalBy read root)))

/-- The items that the loop visits. -/
def windowBy (read : Reader) (header : LoopHeader) : Render Sequence := do
  let root := (← get).root
  let natural ← header.naturalBy read root
  let offset ← modifierBy read "offset" header.offset root
  let limit ← modifierBy read "limit" header.limit root
  let window := natural.cut (offset.getD 0) limit
  return if header.reversed then window.reverse else window

/-- Renders a loop with its body and what it renders for an empty window. -/
def renderBy (read : Reader) (header : LoopHeader) (body otherwise : Render String) :
    Render String := do
  let window ← header.windowBy read
  if window.length = 0 then otherwise
  else
    let id ← addForloop window.length
    Render.withLoop header.itemName id (header.iterate id window body window.length 0 "")

end LoopHeader

namespace Node

mutual

/-- The text of a node. -/
def renderBy (read : Reader) (filters : FilterTable) : Node → Render String
  | .object pipeline => do return (← pipeline.evalBy read filters).display
  | .cond negate sections otherwise =>
    renderFirstBy read filters (renderOtherwiseBy read filters otherwise) negate sections
  | .case subject sections otherwise => do
    let subject ← Render.ofDrops (subject.evalBy read (← get).root)
    renderMatchingBy read filters (renderOtherwiseBy read filters otherwise) subject "" false
      sections
  | .loop header body otherwise =>
    header.renderBy read (renderBodyBy read filters "" body)
      (renderOtherwiseBy read filters otherwise)
  | .cycle rotation => rotation.renderBy read
  | .assign name pipeline => do
    Render.assign name (← pipeline.evalBy read filters)
    return ""
  | .capture name body => do
    let text ← renderBodyBy read filters "" body
    Render.assign name (.string text)
    return ""
  | .changed body => do Render.ifChanged (← renderBodyBy read filters "" body)
  | .host run body => run.around (renderBodyBy read filters "" body)
  | node => node.render filters

/-- The text `out` with the text of the nodes after it. -/
def renderBodyBy (read : Reader) (filters : FilterTable) (out : String) :
    List Node → Render String
  | [] => return out
  | node :: nodes => do
    let text ← node.renderBy read filters
    if ← Render.isInterrupted then return out ++ text
    else renderBodyBy read filters (out ++ text) nodes

/-- The text of a body that may be absent. -/
def renderOtherwiseBy (read : Reader) (filters : FilterTable) :
    Option (List Node) → Render String
  | some body => renderBodyBy read filters "" body
  | none => return ""

/-- The text of the first section whose condition holds. -/
def renderFirstBy (read : Reader) (filters : FilterTable) (otherwise : Render String)
    (negate : Bool) : List (Section Condition Node) → Render String
  | [] => otherwise
  | ⟨condition, body⟩ :: sections => do
    let holds ← Render.ofDrops (condition.evalBy read (← get).root)
    if holds != negate then renderBodyBy read filters "" body
    else renderFirstBy read filters otherwise false sections

/-- The text `out` with the texts of the sections that have a value equal to `subject`. -/
def renderMatchingBy (read : Reader) (filters : FilterTable) (otherwise : Render String)
    (subject : Data) (out : String) (matched : Bool) :
    List (Section (List Expr) Node) → Render String
  | [] => if matched then return out else return out ++ (← otherwise)
  | ⟨values, body⟩ :: sections => do
    if ← Render.ofDrops (Expr.anyEqualsBy read (← get).root subject values) then
      let text ← renderBodyBy read filters "" body
      if ← Render.isInterrupted then return out ++ text
      else renderMatchingBy read filters otherwise subject (out ++ text) true sections
    else renderMatchingBy read filters otherwise subject out matched sections

end

end Node

end TextTemplate
