import TextTemplate.Expr.Eval
import TextTemplate.Expr.Parser
import TextTemplate.Filter
import TextTemplate.Render

/-!
Pipelines: an expression whose value goes through filters.

```text
pipeline := expression ( "|" identifier ( ":" expression ( "," expression )* )? )*
```

Filters are looked up when the pipeline is evaluated, each before its arguments are.
-/

namespace TextTemplate

/-- One application of a filter. The span is that of the name in the source. -/
structure FilterCall where
  name : String
  args : List Expr
  span : Span

/-- An expression and the filters that its value goes through, in order. -/
structure Pipeline where
  source : Expr
  calls : List FilterCall

namespace Pipeline

/-- Reads the expressions that follow, each after a comma. The tokens left bound the recursion. -/
def parseMore : Nat → Parser (List Expr)
  | 0 => return []
  | fuel + 1 => do
    if (← Parser.take? .comma).isSome then
      let expr ← Expr.parse
      return expr :: (← parseMore fuel)
    else return []

/-- Reads one expression or several with commas between them. -/
def parseList : Parser (List Expr) := do
  let expr ← Expr.parse
  return expr :: (← parseMore (← get).later.length)

/-- Reads a filter's name and its arguments. -/
def parseCall : Parser FilterCall := do
  let span := (← get).span
  let name ← Parser.expect .identifier
  if (← Parser.take? .colon).isSome then
    return ⟨name.text, ← parseList, span⟩
  else return ⟨name.text, [], span⟩

/-- Reads the filters that follow, each after a bar. The tokens left bound the recursion. -/
def parseCalls : Nat → Parser (List FilterCall)
  | 0 => return []
  | fuel + 1 => do
    if (← Parser.take? .pipe).isSome then
      let call ← parseCall
      return call :: (← parseCalls fuel)
    else return []

/-- Reads a pipeline. -/
def parse : Parser Pipeline := do
  let source ← Expr.parse
  return ⟨source, ← parseCalls (← get).later.length⟩

/-- Puts a value through filters. Errors without a place are at the filter's name. -/
def applyAll (filters : FilterTable) (root : Data) (value : Data) :
    List FilterCall → Render Data
  | [] => return value
  | call :: calls =>
    match filters.get? call.name with
    | none => throw ((RenderError.unknownFilter call.name).orSpan call.span)
    | some filter => do
      let args ← Render.ofDrops (Expr.evalAll root call.args)
      match filter value args with
      | .ok value => applyAll filters root value calls
      | .error error => throw (error.orSpan call.span)

/-- The value of a pipeline. -/
def eval (filters : FilterTable) (pipeline : Pipeline) : Render Data := do
  let root := (← get).root
  let value ← Render.ofDrops (pipeline.source.eval root)
  applyAll filters root value pipeline.calls

end Pipeline

end TextTemplate
