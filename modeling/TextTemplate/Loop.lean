import TextTemplate.Expr.Eval
import TextTemplate.Expr.Parser
import TextTemplate.Render

/-!
Loops.

```text
loop     := identifier "in" source modifier*
source   := "(" expression ".." expression ")" | expression
modifier := "reversed" | "limit" ":" expression | "offset" ":" expression
```

A loop visits a window of the natural sequence of its source: `offset` skips items at the front,
`limit` caps their number, and `reversed` turns the window around. The items of a range are
computed one at a time. A loop whose window is empty renders its other body instead.
-/

namespace TextTemplate

/-- Where the items of a loop come from. -/
inductive LoopSource
  /-- The integers from one bound to the other, both among them. -/
  | range (first last : Expr)
  /-- The items of a value. -/
  | collection (expr : Expr)

/-- What stands in the opening tag of a loop. -/
structure LoopHeader where
  /-- The name that the items are bound to. -/
  itemName : String
  source : LoopSource
  reversed : Bool
  offset : Option Expr
  limit : Option Expr

/-- A finite sequence of values that are computed on demand. -/
structure Sequence where
  length : Nat
  /-- The item at a place before `length`. -/
  item : Nat → Data

namespace Sequence

/-- The items of a list. -/
def ofList (items : List Data) : Sequence :=
  let array := items.toArray
  ⟨array.size, fun place => array.getD place .nil⟩

/-- The most items that a range can have. -/
def maxLength : Nat := UInt64.size - 1

/-- The integers from `first` to `last`. -/
def ofRange (first last : Int64) : Sequence where
  length := min (last.toInt - first.toInt + 1).toNat maxLength
  item place :=
    match Number.ofInt? (first.toInt + place) with
    | some n => .int n
    | none => .nil

/-- The natural sequence of a value: the items of an array, the entries of a hash as pairs in the
order of their keys, a string once. Other values have no items. -/
def ofData : Data → Sequence
  | .array items => ofList items
  | .hash entries => ofList (entries.entries.map fun (key, value) => .array [.string key, value])
  | .string text => ofList [.string text]
  | _ => ofList []

/-- The items after the first `offset`, and of these at most `limit`. -/
def cut (sequence : Sequence) (offset : Nat) (limit : Option Nat) : Sequence :=
  let first := min offset sequence.length
  let rest := sequence.length - first
  ⟨min (limit.getD rest) rest, fun place => sequence.item (first + place)⟩

/-- The items from the last to the first. -/
def reverse (sequence : Sequence) : Sequence :=
  ⟨sequence.length, fun place => sequence.item (sequence.length - 1 - place)⟩

end Sequence

namespace LoopHeader

/-- Reads a source. -/
def parseSource : Parser LoopSource := do
  if (← Parser.take? .openRound).isSome then
    let first ← Expr.parse
    discard (Parser.expect .range)
    let last ← Expr.parse
    discard (Parser.expect .closeRound)
    return .range first last
  else return .collection (← Expr.parse)

/-- Reads a modifier's value, which follows its name and a colon. -/
def parseValue : Parser Expr := do
  discard Parser.consume
  discard Parser.consume
  Expr.parse

/-- Reads modifiers up to the end; of several with one name the last counts. Each takes a token,
so the tokens left bound the recursion. -/
def parseModifiers (header : LoopHeader) : Nat → Parser LoopHeader
  | 0 => return header
  | fuel + 1 => do
    let cursor ← get
    if cursor.isAtEnd then return header
    else if (← Parser.takeWord? "reversed").isSome then
      parseModifiers { header with reversed := true } fuel
    else if cursor.isAtWord "offset" && cursor.looksAt .colon 1 then
      let value ← parseValue
      parseModifiers { header with offset := some value } fuel
    else if cursor.isAtWord "limit" && cursor.looksAt .colon 1 then
      let value ← parseValue
      parseModifiers { header with limit := some value } fuel
    else Parser.failHere ("unknown `for` modifier `" ++ cursor.current.text ++ "`")

/-- Reads what stands in the opening tag. -/
def parse : Parser LoopHeader := do
  let name ← Parser.expect .identifier
  if (← Parser.takeWord? "in").isSome then
    let source ← parseSource
    parseModifiers ⟨name.text, source, false, none, none⟩ (← get).later.length
  else Parser.failHere "expected `in` after the loop variable"

/-- The bound of a range. -/
def boundOf (data : Data) : Except RenderError Int64 :=
  match data.toInteger? with
  | some n => .ok n
  | none =>
    .error (.badArgument "for" ("range bounds must be integers, got " ++ data.typeName))

/-- The number that a modifier gives: none for nil, zero for a negative one. -/
def modifierOf (name : String) (data : Data) : Except RenderError (Option Nat) :=
  match data with
  | .nil => .ok none
  | _ =>
    match data.toInteger? with
    | some n => .ok (some n.toInt.toNat)
    | none =>
      .error (.badArgument "for" ("`" ++ name ++ "` must be a number, got " ++ data.typeName))

/-- The natural sequence of the source. -/
def natural (header : LoopHeader) (root : Data) : Render Sequence := do
  match header.source with
  | .range first last =>
    let first ← Render.ofExcept (boundOf (← Render.ofDrops (first.eval root)))
    let last ← Render.ofExcept (boundOf (← Render.ofDrops (last.eval root)))
    return .ofRange first last
  | .collection expr => return .ofData (← Render.ofDrops (expr.eval root))

/-- The value of a modifier that may be absent. -/
def modifier (name : String) (expr : Option Expr) (root : Data) : Render (Option Nat) := do
  match expr with
  | none => return none
  | some expr => Render.ofExcept (modifierOf name (← Render.ofDrops (expr.eval root)))

/-- The items that the loop visits, fixed when it is entered. -/
def window (header : LoopHeader) : Render Sequence := do
  let root := (← get).root
  let natural ← header.natural root
  let offset ← modifier "offset" header.offset root
  let limit ← modifier "limit" header.limit root
  let window := natural.cut (offset.getD 0) limit
  return if header.reversed then window.reverse else window

/-- A new drop for a loop with so many iterations, inside the innermost running loop. -/
def addForloop (length : Nat) : Render DropId := do
  let context ← get
  let (id, drops) := context.drops.add (.loop ⟨length, 0, context.currentForloop⟩)
  set { context with drops }
  return id

/-- Begins an iteration: the loop's drop tells its number, and the data root has the item and the
drop. -/
def beginIteration (header : LoopHeader) (id : DropId) (index : Nat) (item : Data) :
    Render Unit := do
  modify fun context => { context with drops := context.drops.setLoopIndex id index }
  Render.assign header.itemName item
  Render.assign Context.forloopKey (.drop id)

/-- Renders the last `remaining` iterations after `out`, the first of them being number `index`. -/
def iterate (header : LoopHeader) (id : DropId) (window : Sequence) (body : Render String) :
    Nat → Nat → String → Render String
  | 0, _, out => return out
  | remaining + 1, index, out => do
    header.beginIteration id index (window.item index)
    let text ← body
    match ← Render.takeInterrupt with
    | some .breakLoop => return out ++ text
    | _ => header.iterate id window body remaining (index + 1) (out ++ text)

/-- Renders a loop with its body and what it renders for an empty window. -/
def render (header : LoopHeader) (body otherwise : Render String) : Render String := do
  let window ← header.window
  if window.length = 0 then otherwise
  else
    let id ← addForloop window.length
    Render.withLoop header.itemName id (header.iterate id window body window.length 0 "")

end LoopHeader

end TextTemplate
