import TextTemplate.Expr.Eval
import TextTemplate.Expr.Parser

/-!
Conditions: comparisons of expressions, joined by `and` and `or`.

```text
condition := leaf ( ( "and" | "or" ) condition )?
leaf      := expression ( comparison expression )?
```

Both words have the same precedence and associate to the right. The right side of a joint is not
looked at if the left side decides it.
-/

namespace TextTemplate

/-- The comparison operators. -/
inductive Comparison
  | eq
  | ne
  | lt
  | gt
  | le
  | ge
  | contains
deriving DecidableEq, Repr

namespace Comparison

/-- The operator that a text writes. -/
def ofText? : String → Option Comparison
  | "==" => some eq
  | "!=" | "<>" => some ne
  | "<" => some lt
  | ">" => some gt
  | "<=" => some le
  | ">=" => some ge
  | "contains" => some contains
  | _ => none

/-- Whether an order between two values is one that the operator asks for. -/
def holdsFor (comparison : Comparison) (order : Option Ordering) : Bool :=
  match comparison, order with
  | lt, some .lt | gt, some .gt => true
  | le, some .lt | le, some .eq => true
  | ge, some .gt | ge, some .eq => true
  | _, _ => false

/-- Whether the operator holds between two values. Without an order no order holds. -/
def test (comparison : Comparison) (left right : Data) : DropM Bool :=
  match comparison with
  | eq => DropM.same left right
  | ne => do return !(← DropM.same left right)
  | contains => left.containsData right
  | _ => return comparison.holdsFor (left.compare? right)

end Comparison

/-- A condition. -/
inductive Condition
  /-- The value is truthy. -/
  | truthy (expr : Expr)
  /-- The operator holds between the values. -/
  | compare (left : Expr) (comparison : Comparison) (right : Expr)
  | and (left right : Condition)
  | or (left right : Condition)

namespace Condition

/-- Whether a condition holds. -/
def eval (root : Data) : Condition → DropM Bool
  | truthy expr => do return (← expr.eval root).isTruthy
  | compare left comparison right => do
    let left ← left.eval root
    let right ← right.eval root
    comparison.test left right
  | and left right => do
    if ← left.eval root then right.eval root else return false
  | or left right => do
    if ← left.eval root then return true else right.eval root

/-- Reads a condition without a joint. -/
def parseLeaf : Parser Condition := do
  let left ← Expr.parse
  match ← Parser.take? .comparison with
  | none => return truthy left
  | some token =>
    match Comparison.ofText? token.text with
    | none => Parser.failHere ("unknown comparison `" ++ token.text ++ "`")
    | some comparison =>
      let right ← Expr.parse
      return compare left comparison right

/-- Reads leaves and the joints between them. Each joint takes a token, so the tokens left bound
the recursion. -/
def parseChain : Nat → Parser Condition
  | 0 => parseLeaf
  | fuel + 1 => do
    let leaf ← parseLeaf
    if (← Parser.takeWord? "and").isSome then
      return and leaf (← parseChain fuel)
    else if (← Parser.takeWord? "or").isSome then
      return or leaf (← parseChain fuel)
    else return leaf

/-- Reads a condition, which takes up all tokens. -/
def parse : Parser Condition := do
  let cursor ← get
  if cursor.isAtEnd then Parser.failHere "expected a condition"
  else
    let condition ← parseChain cursor.later.length
    Parser.expectEnd
    return condition

end Condition

end TextTemplate
