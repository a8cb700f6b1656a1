import TextTemplate.Filter
import TextTemplate.Text.LetterCase
import TextTemplate.Text.Search

/-!
Filters on texts. The input is the text of a scalar.
-/

namespace TextTemplate.Filter

/-- A filter that changes the characters of a text. -/
def mapText (name : String) (change : List Char → List Char) : Filter :=
  nullary name fun input => do
    let text ← textOf name input
    return .string (String.ofList (change text.toList))

/-- The input followed by the argument. -/
def append : Filter :=
  unary "append" fun input arg => do
    let text ← textOf "append" input
    let tail ← textOf "append" arg
    return .string (text ++ tail)

/-- The argument followed by the input. -/
def prepend : Filter :=
  unary "prepend" fun input arg => do
    let head ← textOf "prepend" arg
    let text ← textOf "prepend" input
    return .string (head ++ text)

/-- The text in upper case. -/
def upcase : Filter := mapText "upcase" Text.upper

/-- The text in lower case. -/
def downcase : Filter := mapText "downcase" Text.lower

/-- The text with its first character in upper case. -/
def capitalize : Filter := mapText "capitalize" Text.capitalize

/-- The text without the blanks at its ends. -/
def strip : Filter := mapText "strip" Text.trim

/-- The text with each occurrence of the first argument replaced by the second, or removed. -/
def replace : Filter := fun input args => do
  checkArity "replace" args 1 2
  let text ← textOf "replace" input
  let pattern ← textOf "replace" (args.headD .nil)
  let replacement ← textOf "replace" (args.getD 1 .nil)
  return .string
    (String.ofList (Text.replaceAll pattern.toList replacement.toList text.toList))

end TextTemplate.Filter
