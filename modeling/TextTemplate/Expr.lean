import TextTemplate.Number.Shortest

/-!
Expressions: literals, and lookups that walk from the data root along keys and computed indices.

`Expr.display` writes an expression close to how it was written in the template.
-/

namespace TextTemplate

mutual

/-- An expression. -/
inductive Expr
  | nil
  | bool (b : Bool)
  | int (n : Int64)
  | float (x : Float)
  | string (text : String)
  /-- A path from the data root, with at least one step. -/
  | lookup (steps : List Step)

/-- One step of a lookup. -/
inductive Step
  /-- A member by its name. -/
  | key (name : String)
  /-- A member whose key is computed, itself from the data root. -/
  | index (key : Expr)

end

mutual

/-- The text of an expression. A string stands between double quotes if it holds a single one. -/
def Expr.display : Expr → String
  | .nil => "nil"
  | .bool b => if b then "true" else "false"
  | .int n => Number.decimal n
  | .float x => Number.floatText x
  | .string text =>
    if text.toList.contains '\'' then "\"" ++ text ++ "\"" else "'" ++ text ++ "'"
  | .lookup steps => Step.displayFrom true steps

/-- The text of steps; the first step of a lookup has no dot before its key. -/
def Step.displayFrom (first : Bool) : List Step → String
  | [] => ""
  | .key name :: rest => (if first then name else "." ++ name) ++ Step.displayFrom false rest
  | .index key :: rest => "[" ++ key.display ++ "]" ++ Step.displayFrom false rest

end

/-- The text of a lookup. -/
def Step.displayPath (steps : List Step) : String :=
  (Expr.lookup steps).display

/-- The expression that a path stands for. The names of the constants are no keys when they stand
alone. -/
def Expr.ofPath : List Step → Expr
  | [.key "nil"] | [.key "null"] => .nil
  | [.key "true"] => .bool true
  | [.key "false"] => .bool false
  | steps => .lookup steps

end TextTemplate
