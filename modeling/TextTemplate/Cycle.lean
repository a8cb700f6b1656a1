import TextTemplate.Pipeline

/-!
Cycles: rotations over values.

```text
cycle := ( expression ":" )? expression ( "," expression )*
```

Cycles with a group rotate together if the texts of their groups are the same; cycles without one
if the texts of their value expressions, put together, are. The two kinds keep their places in
registers of their own.
-/

namespace TextTemplate

/-- A rotation over one or more values. -/
structure Cycle where
  group : Option Expr
  first : Expr
  others : List Expr

namespace Cycle

/-- The register of the cycles without a group. -/
def siteRegister : String := "cycle"

/-- The register of the cycles with a group. -/
def groupRegister : String := "cycle:group"

/-- The value expressions, in order. -/
def values (cycle : Cycle) : List Expr :=
  cycle.first :: cycle.others

/-- The name of a cycle without a group. -/
def key (cycle : Cycle) : String :=
  String.join (cycle.values.map Expr.display)

/-- Reads what stands in the tag whose markup is at `span`. -/
def parse (span : Span) : Parser Cycle := do
  if (← get).isAtEnd then throw (.malformedAt "`cycle` needs at least one value" span)
  let first ← Expr.parse
  let cycle ←
    if (← Parser.take? .colon).isSome then
      let value ← Expr.parse
      pure ⟨some first, value, ← Pipeline.parseMore (← get).later.length⟩
    else pure ⟨none, first, ← Pipeline.parseMore (← get).later.length⟩
  Parser.expectEnd
  return cycle

/-- The place of a rotation of `count` values that a register remembers under `key`, and the
register with the next place. What is no hash gives way to a new hash. -/
def turn (register : Data) (key : String) (count : Nat) : Nat × Data :=
  match register with
  | .hash places =>
    let stored := (places.get? key).bind Data.toInteger?
    let place := ((stored.getD 0).toInt.toNat) % count
    (place, .hash (places.set key (.ofNat ((place + 1) % count))))
  | _ => (0, .hash (Table.empty.set key (.ofNat (1 % count))))

/-- Takes the next place of the rotation. -/
def advance (register key : String) (count : Nat) : Render Nat := do
  let (place, data) := turn (← Render.register register) key count
  Render.setRegister register data
  return place

/-- Writes the next value of the rotation. -/
def render (cycle : Cycle) : Render String := do
  let (register, key) ←
    match cycle.group with
    | some group => do
      let name ← Render.ofDrops (group.eval (← get).root)
      pure (groupRegister, name.display)
    | none => pure (siteRegister, cycle.key)
  let place ← advance register key cycle.values.length
  let value ← Render.ofDrops ((cycle.values.getD place .nil).eval (← get).root)
  return value.display

end Cycle

end TextTemplate
