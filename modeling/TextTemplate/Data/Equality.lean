import TextTemplate.Data

/-!
Equality of values, up to what equality of drops means.

Values of different types differ, integers and floats among them. Arrays are compared item by item
if they have the same length, in their order and up to the first item that differs or has no
answer. Hashes are compared if they have the same size: every value of the left one with the value
that the right one binds to the same key. The comparison of two drops is a parameter, and may have
no answer.

No order of a hash's entries is fixed, so the values of two hashes may be compared in any order up
to the first key that is missing or whose values differ. Where some shared key has values without
an answer, there is an order that comes to it first; so the hashes have an answer only if the
values of all shared keys have.
-/

namespace TextTemplate.Data

variable (sameDrop : DropId → DropId → Option Bool)

mutual

/-- Whether two values are equal, drops being compared by `sameDrop`. -/
def same? : Data → Data → Option Bool
  | .nil, .nil => some true
  | .bool a, .bool b => some (a == b)
  | .int a, .int b => some (a == b)
  | .float a, .float b => some (a == b)
  | .string a, .string b => some (a == b)
  | .array xs, .array ys => if xs.length = ys.length then sameItems? xs ys else some false
  | .hash ⟨names, _, values⟩, .hash right =>
    if names.length = right.size then sameValues? values right else some false
  | .drop a, .drop b => sameDrop a b
  | _, _ => some false

/-- Whether the items at equal places are equal. -/
def sameItems? : List Data → List Data → Option Bool
  | x :: xs, y :: ys =>
    match same? x y with
    | some true => sameItems? xs ys
    | other => other
  | _, _ => some true

/-- Whether a table binds all these names to equal values, in whatever order they are compared. -/
def sameValues? : {names : List String} → Table.Values Data names → Table Data → Option Bool
  | [], .nil, _ => some true
  | name :: _, .cons x rest, right =>
    let here := match right.get? name with
      | some y => same? x y
      | none => some false
    here.bind fun here => (sameValues? rest right).map (here && ·)

end

/-- Whether two tables bind the same keys to equal values. -/
def sameTable? (left right : Table Data) : Option Bool :=
  same? sameDrop (.hash left) (.hash right)

end TextTemplate.Data
