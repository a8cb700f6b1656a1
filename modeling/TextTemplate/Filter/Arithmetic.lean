import TextTemplate.Filter

/-!
Filters that calculate.

Nil counts as zero, and a string as the number that it writes. Two integers give an integer, and an
error if it does not fit; if one of the numbers is a float, both are.
-/

namespace TextTemplate.Filter

/-- A number to calculate with. -/
inductive Numeral
  | int (n : Int64)
  | float (x : Float)

namespace Numeral

/-- The number as a float. -/
def toFloat : Numeral → Float
  | int n => n.toFloat
  | float x => x

end Numeral

/-- The number that a value is or writes, and the error for other values. -/
def numeralOf (name : String) : Data → Except RenderError Numeral
  | .nil => .ok (.int 0)
  | .int n => .ok (.int n)
  | .float x => .ok (.float x)
  | .string text =>
    let cs := Text.trim text.toList
    match Number.read? cs, Number.readFloat? cs with
    | some n, _ => .ok (.int n)
    | none, some x => .ok (.float x)
    | none, none => .error (.badArgument name ("`" ++ String.ofList cs ++ "` is not a number"))
  | other => .error (.wrongType name "a number" other.typeName)

/-- A filter that joins two numbers, `exact` being the operation on integers. -/
def arithmetic (name : String) (exact : Int → Int → Int) (rounded : Float → Float → Float) :
    Filter :=
  unary name fun input arg => do
    let left ← numeralOf name input
    let right ← numeralOf name arg
    match left, right with
    | .int a, .int b =>
      match Number.ofInt? (exact a.toInt b.toInt) with
      | some n => return .int n
      | none => throw (.badArgument name "integer overflow")
    | _, _ => return .float (rounded left.toFloat right.toFloat)

def plus : Filter := arithmetic "plus" (· + ·) (· + ·)

def minus : Filter := arithmetic "minus" (· - ·) (· - ·)

def times : Filter := arithmetic "times" (· * ·) (· * ·)

end TextTemplate.Filter
