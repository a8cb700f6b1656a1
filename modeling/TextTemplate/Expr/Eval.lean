import TextTemplate.Data.Access
import TextTemplate.Expr

/-!
Evaluating expressions against a data root. Evaluation never fails: every step that leads nowhere
gives nil.
-/

namespace TextTemplate

mutual

/-- The value of an expression. -/
def Expr.eval (root : Data) : Expr → DropM Data
  | .nil => return .nil
  | .bool b => return .bool b
  | .int n => return .int n
  | .float x => return .float x
  | .string text => return .string text
  | .lookup steps => Step.walk root root steps

/-- The value at the end of the steps from `data` on. Computed keys are looked up from the root. -/
def Step.walk (root data : Data) : List Step → DropM Data
  | [] => return data
  | .key name :: rest => do
    let data ← data.member name
    Step.walk root data rest
  | .index key :: rest => do
    let key ← key.eval root
    let data ← data.index key
    Step.walk root data rest

end

/-- The values of expressions, one after the other. -/
def Expr.evalAll (root : Data) : List Expr → DropM (List Data)
  | [] => return []
  | expr :: exprs => do
    let value ← expr.eval root
    return value :: (← Expr.evalAll root exprs)

end TextTemplate
