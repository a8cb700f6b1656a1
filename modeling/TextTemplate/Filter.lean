import TextTemplate.Data
import TextTemplate.RenderError

/-!
Filters: functions from an input and arguments to a value, looked up by name when a template is
rendered. A filter reads no drop.
-/

namespace TextTemplate

/-- A filter: the input, the arguments, and the value or an error without a place. -/
abbrev Filter := Data → List Data → Except RenderError Data

/-- Filters by name. -/
abbrev FilterTable := Table Filter

namespace Filter

/-- Whether a number of arguments is from `least` to `most`, and the error if not. -/
def checkArity (name : String) (args : List Data) (least most : Nat) : Except RenderError Unit :=
  if least ≤ args.length ∧ args.length ≤ most then .ok ()
  else
    let expected :=
      if least = most then toString least else toString least ++ " to " ++ toString most
    .error (.wrongCount name expected args.length)

/-- The text of a scalar, and the error for other values. -/
def textOf (name : String) (data : Data) : Except RenderError String :=
  match data.coerceString? with
  | some text => .ok text
  | none => .error (.wrongType name "a string" data.typeName)

/-- The items of an array, and the error for other values. -/
def itemsOf (name : String) (data : Data) : Except RenderError (List Data) :=
  match data.array? with
  | some items => .ok items
  | none => .error (.wrongType name "an array" data.typeName)

/-- A filter without arguments. -/
def nullary (name : String) (apply : Data → Except RenderError Data) : Filter :=
  fun input args => do
    checkArity name args 0 0
    apply input

/-- A filter with one argument. -/
def unary (name : String) (apply : Data → Data → Except RenderError Data) : Filter :=
  fun input args => do
    checkArity name args 1 1
    apply input (args.headD .nil)

end Filter

end TextTemplate
