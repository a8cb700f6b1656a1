import TextTemplate.Filter

/-!
Filters on collections, and the filter that fills in for blank values.
-/

namespace TextTemplate.Filter

/-- The number of characters, items or entries; zero for scalars other than strings. A hash is
asked for its member of that name first. -/
def size : Filter :=
  nullary "size" fun input =>
    return match input with
      | .string text => .ofNat text.length
      | .array items => .ofNat items.length
      | .hash entries => (entries.get? "size").getD (.ofNat entries.size)
      | _ => .int 0

/-- The first item of an array; nil for an empty one and for other values. -/
def first : Filter :=
  nullary "first" fun input => return (input.array?.getD []).headD .nil

/-- The last item of an array; nil for an empty one and for other values. -/
def last : Filter :=
  nullary "last" fun input => return (input.array?.getD []).getLastD .nil

/-- The texts of the items with the argument, or a space, between them. -/
def join : Filter := fun input args => do
  checkArity "join" args 0 1
  let separator ←
    match args with
    | [] => pure " "
    | arg :: _ => textOf "join" arg
  let items ← itemsOf "join" input
  return .string (separator.intercalate (items.map Data.display))

/-- The items in reverse order. -/
def reverse : Filter :=
  nullary "reverse" fun input => do
    let items ← itemsOf "reverse" input
    return .array items.reverse

/-- Whether a value is nil, false, an empty string or an empty array. -/
def isBlank : Data → Bool
  | .nil | .bool false => true
  | .string text => text.isEmpty
  | .array items => items.isEmpty
  | _ => false

/-- The input, or the argument if the input is blank. -/
def default : Filter :=
  unary "default" fun input arg => return if isBlank input then arg else input

end TextTemplate.Filter
