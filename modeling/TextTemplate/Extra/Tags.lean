import TextTemplate.TagRule
import TextTemplate.Text.LetterCase

/-!
Further tags, which a configuration may add.
-/

namespace TextTemplate.HostRule

open Render (KeepsHash keeps_bind keeps_pure keeps_get keeps_throw keeps_register)

/-- The value of an expression at the time of rendering. -/
def evalNow (expr : Expr) : Render Data := do
  Render.ofDrops (expr.eval (← get).root)

theorem keeps_evalNow (expr : Expr) : KeepsHash (evalNow expr) :=
  keeps_bind keeps_get fun _ => (Render.keeps_reads_ofDrops _).mono Context.Reads.staysHash

/-- The text of a value in upper case. -/
def writeUpper (expr : Expr) : Render String := do
  let value ← evalNow expr
  return String.ofList (Text.upper value.display.toList)

/-- Writes the text of a value in upper case. -/
def shout : HostRule := do
  let expr ← Expr.parse
  Parser.expectEnd
  return .inline (writeUpper expr) (keeps_bind (keeps_evalNow expr) fun _ => keeps_pure _)

/-- The text of an action done so many times. -/
def times (action : Render String) : Nat → String → Render String
  | 0, out => return out
  | count + 1, out => do
    let text ← action
    times action count (out ++ text)

theorem keeps_times {action : Render String} (keeps : action.KeepsHash) (count : Nat)
    (out : String) : KeepsHash (times action count out) := by
  induction count generalizing out with
  | zero => exact keeps_pure out
  | succ count ih => exact keeps_bind keeps fun _ => ih _

/-- The text of an action done as many times as a value says. -/
def timesValue (expr : Expr) (action : Render String) : Render String := do
  let value ← evalNow expr
  match value.toInteger? with
  | some count => times action count.toInt.toNat ""
  | none => throw (.badArgument "repeat" "count must be an integer")

theorem keeps_timesValue (expr : Expr) {action : Render String} (keeps : action.KeepsHash) :
    KeepsHash (timesValue expr action) := by
  refine keeps_bind (keeps_evalNow expr) fun value => ?_
  split
  · exact keeps_times keeps _ ""
  · exact keeps_throw _

/-- Renders its body as many times as a value says. An interrupt does not end it. -/
def repeatBody : HostRule := do
  let expr ← Expr.parse
  Parser.expectEnd
  return .block ⟨timesValue expr, keeps_timesValue expr⟩

/-- Puts a value into a register. -/
def writeRegister (name : String) (expr : Expr) : Render String := do
  Render.setRegister name (← evalNow expr)
  return ""

theorem keeps_writeRegister (name : String) (expr : Expr) :
    KeepsHash (writeRegister name expr) := by
  refine keeps_bind (keeps_evalNow expr) fun value => ?_
  refine keeps_bind (fun context entries isHash => ?_) fun _ => keeps_pure ""
  exact ⟨entries, isHash⟩

/-- Puts a value into a register. -/
def poke : HostRule := do
  let register ← Parser.expect .string
  let expr ← Expr.parse
  Parser.expectEnd
  return .inline (writeRegister register.unquoted expr) (keeps_writeRegister _ expr)

/-- The type and the text of what a register holds. -/
def showRegister (name : String) : Render String := do
  let data ← Render.register name
  return data.typeName ++ ":" ++ data.display

/-- Writes the type and the text of what a register holds. -/
def peek : HostRule := do
  let register ← Parser.expect .string
  Parser.expectEnd
  return .inline (showRegister register.unquoted)
    (keeps_bind (keeps_register _) fun _ => keeps_pure _)

/-- The further tags by name. -/
def extra : TagTable :=
  Table.ofList [
    ("shout", .host shout),
    ("repeat", .host repeatBody),
    ("poke", .host poke),
    ("peek", .host peek)]

end TextTemplate.HostRule
