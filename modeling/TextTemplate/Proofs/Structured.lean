import TextTemplate.Node.Render

/-!
# Structured `break` and `continue`

A second way to render, in which no interrupt is ever pending: `break` and `continue` cut the
sequence of nodes short like an exception, and an outcome says which of them did, next to the text
rendered so far. Only a loop with items catches them. `Node.performBody` is the counterpart of
`Node.renderBody`.
-/

namespace TextTemplate

/-- What rendering without a failure comes to. -/
structure Outcome where
  text : String
  /-- What cut the nodes short, if something did and no loop has caught it. -/
  signal : Option Interrupt
deriving DecidableEq, Repr

namespace LoopHeader

/-- The last `remaining` iterations after `out`, the first of them being number `index`. They catch
the signals of the body. -/
def performIterations (header : LoopHeader) (id : DropId) (window : Sequence)
    (body : Render Outcome) : Nat → Nat → String → Render Outcome
  | 0, _, out => return ⟨out, none⟩
  | remaining + 1, index, out => do
    header.beginIteration id index (window.item index)
    let outcome ← body
    match outcome.signal with
    | some .breakLoop => return ⟨out ++ outcome.text, none⟩
    | some .continueLoop | none =>
      header.performIterations id window body remaining (index + 1) (out ++ outcome.text)

/-- A loop with its body and what it renders for an empty window, whose signals it passes on. -/
def perform (header : LoopHeader) (body otherwise : Render Outcome) : Render Outcome := do
  let window ← header.window
  if window.length = 0 then otherwise
  else
    let id ← addForloop window.length
    Render.withLoop header.itemName id (header.performIterations id window body window.length 0 "")

end LoopHeader

namespace Node

mutual

/-- The outcome of a node. -/
def perform (filters : FilterTable) : Node → Render Outcome
  | .cond negate sections otherwise =>
    performFirst filters (performOtherwise filters otherwise) negate sections
  | .case subject sections otherwise => do
    let subject ← Render.ofDrops (subject.eval (← get).root)
    performMatching filters (performOtherwise filters otherwise) subject "" false sections
  | .loop header body otherwise =>
    header.perform (performBody filters "" body) (performOtherwise filters otherwise)
  | .capture name body => do
    let outcome ← performBody filters "" body
    Render.assign name (.string outcome.text)
    return ⟨"", outcome.signal⟩
  | .changed body => do
    let outcome ← performBody filters "" body
    let text ← Render.ifChanged outcome.text
    return ⟨text, outcome.signal⟩
  | .interrupt signal => return ⟨"", some signal⟩
  | node => do
    let text ← node.render filters
    return ⟨text, none⟩

/-- The outcome of the nodes after the text `out`. A signal cuts them short. -/
def performBody (filters : FilterTable) (out : String) : List Node → Render Outcome
  | [] => return ⟨out, none⟩
  | node :: nodes => do
    let outcome ← node.perform filters
    match outcome.signal with
    | some signal => return ⟨out ++ outcome.text, some signal⟩
    | none => performBody filters (out ++ outcome.text) nodes

/-- The outcome of a body that may be absent. -/
def performOtherwise (filters : FilterTable) : Option (List Node) → Render Outcome
  | some body => performBody filters "" body
  | none => return ⟨"", none⟩

/-- The outcome of the first section whose condition holds, or fails if `negate` is set, the
conditions after the first being never negated. -/
def performFirst (filters : FilterTable) (otherwise : Render Outcome) (negate : Bool) :
    List (Section Condition Node) → Render Outcome
  | [] => otherwise
  | ⟨condition, body⟩ :: sections => do
    let holds ← Render.ofDrops (condition.eval (← get).root)
    if holds != negate then performBody filters "" body
    else performFirst filters otherwise false sections

/-- The outcome of the sections that have a value equal to `subject`. After a signal no section and
no last body is looked at. -/
def performMatching (filters : FilterTable) (otherwise : Render Outcome) (subject : Data)
    (out : String) (matched : Bool) : List (Section (List Expr) Node) → Render Outcome
  | [] =>
    if matched then return ⟨out, none⟩
    else do
      let outcome ← otherwise
      return ⟨out ++ outcome.text, outcome.signal⟩
  | ⟨values, body⟩ :: sections => do
    if ← Render.ofDrops (Expr.anyEquals (← get).root subject values) then
      let outcome ← performBody filters "" body
      match outcome.signal with
      | some signal => return ⟨out ++ outcome.text, some signal⟩
      | none => performMatching filters otherwise subject (out ++ outcome.text) true sections
    else performMatching filters otherwise subject out matched sections

end

end Node

end TextTemplate
