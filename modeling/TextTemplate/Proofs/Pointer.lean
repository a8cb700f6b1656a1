import TextTemplate.Condition
import TextTemplate.Pipeline
import TextTemplate.Proofs.Procedure

/-!
# Parsers on an index into the tokens

A cursor stands on a token by the way it is built, and its parsers have an answer where the bound on
their recursion is met. Here are the same actions and parsers on nothing but an index into a list of
tokens. An index may lie outside of the list, and then an action that reads a token there has no
outcome. Nor has a parser that goes through more than `calls` calls, one on top of the other.
-/

namespace TextTemplate

/-- An index into a list of tokens of markup that begins at byte `base` of the source. -/
structure Pointer where
  tokens : List Token
  base : Nat
  position : Nat

namespace Pointer

open Procedure

/-- The first of the tokens, which get an end token if the last one is none. -/
def ofTokens (tokens : List Token) (base : Nat) : Pointer :=
  ⟨Cursor.closeTokens tokens, base, 0⟩

/-- Moves to a position, or to the last token if the position lies behind it. -/
def jump (position : Nat) : Procedure Pointer Unit :=
  modify fun pointer => { pointer with position := min position (pointer.tokens.length - 1) }

/-- The current token. -/
def current : Procedure Pointer Token := fun pointer =>
  match pointer.tokens[pointer.position]? with
  | some token => some (.ok token, pointer)
  | none => none

/-- The span of the current token in the source. -/
def span : Procedure Pointer Span := do
  let token ← current
  return token.span.shift (← get).base

/-- Whether the token `distance` places ahead is of this kind. Outside of the list no token is. -/
def looksAt (kind : TokenKind) (distance : Cursor.Distance) : Procedure Pointer Bool := do
  let pointer ← get
  match pointer.tokens[pointer.position + distance.val]? with
  | some token => return token.kind == kind
  | none => return false

/-- Whether the current token is of this kind. -/
def isAt (kind : TokenKind) : Procedure Pointer Bool :=
  looksAt kind ⟨0, by decide⟩

/-- Whether the current token is the identifier `text`. -/
def isAtWord (text : String) : Procedure Pointer Bool := do
  let token ← current
  return token.kind == .identifier && token.text == text

/-- Takes the current token, and keeps an end token. -/
def consume : Procedure Pointer Token := do
  let token ← current
  if token.kind = .endOfMarkup then return token
  else
    modify fun pointer => { pointer with position := pointer.position + 1 }
    return token

/-- The error for a current token of another kind than the one required. -/
def unexpected (expected : TokenKind) : Procedure Pointer ParseError := do
  let found ← current
  return ⟨.unexpectedToken expected found.kind found.text, some (← span)⟩

/-- Takes the current token, which has to be of this kind. -/
def expect (kind : TokenKind) : Procedure Pointer Token := do
  if ← isAt kind then consume else throw (← unexpected kind)

/-- Takes the current token if it is of this kind. -/
def take? (kind : TokenKind) : Procedure Pointer (Option Token) := do
  if ← isAt kind then
    let token ← consume
    return some token
  else return none

/-- Takes the current token if it is the identifier `text`. -/
def takeWord? (text : String) : Procedure Pointer (Option Token) := do
  if ← isAtWord text then
    let token ← consume
    return some token
  else return none

/-- Requires that the current token is an end token. -/
def expectEnd : Procedure Pointer Unit :=
  discard (expect .endOfMarkup)

/-- Fails with a message about the current token. -/
def failHere {α : Type} (message : String) : Procedure Pointer α := do
  throw (.malformedAt message (← span))

/-- Takes the current token, a number with the text `text` that is read as this, if it is. -/
def number {α : Type} (value : Option α) (text : String) (span : Span) : Procedure Pointer α := do
  discard consume
  match value with
  | some value => return value
  | none => throw ⟨.invalidNumber text, some span⟩

/-- Reads the keys after a dot. -/
def keys : Procedure Pointer (List Step) := do
  let token ← current
  match token.kind with
  | .identifier | .integer =>
    discard consume
    return [.key token.text]
  | .float =>
    discard consume
    return (Text.splitOn '.' token.text.toList).map fun part => .key (String.ofList part)
  | _ => throw (← unexpected .identifier)

mutual

/-- Reads an expression. -/
def expr : Nat → Procedure Pointer Expr
  | 0 => noOutcome
  | calls + 1 => do
    let token ← current
    let span ← span
    match token.kind with
    | .endOfMarkup => return .nil
    | .string =>
      discard consume
      return .string token.unquoted
    | .integer => return .int (← number (Number.read? token.text.toList) token.text span)
    | .float => return .float (← number (Number.readFloat? token.text.toList) token.text span)
    | _ => return .ofPath (← path calls)

/-- Reads a lookup. -/
def path : Nat → Procedure Pointer (List Step)
  | 0 => noOutcome
  | calls + 1 => do
    if ← isAt .openSquare then
      let step ← index calls
      return step :: (← steps calls)
    else
      let head ← expect .identifier
      return .key head.text :: (← steps calls)

/-- Reads the steps after the head of a lookup. -/
def steps : Nat → Procedure Pointer (List Step)
  | 0 => noOutcome
  | calls + 1 => do
    if (← take? .dot).isSome then
      let keys ← keys
      return keys ++ (← steps calls)
    else if ← isAt .openSquare then
      let step ← index calls
      return step :: (← steps calls)
    else return []

/-- Reads a computed index. -/
def index : Nat → Procedure Pointer Step
  | 0 => noOutcome
  | calls + 1 => do
    discard (expect .openSquare)
    let key ← expr calls
    discard (expect .closeSquare)
    return .index key

end

/-- Reads the expressions that follow, each after a comma. -/
def more : Nat → Procedure Pointer (List Expr)
  | 0 => noOutcome
  | calls + 1 => do
    if (← take? .comma).isSome then
      let value ← expr calls
      return value :: (← more calls)
    else return []

/-- Reads one expression or several with commas between them. -/
def list (calls : Nat) : Procedure Pointer (List Expr) := do
  let value ← expr calls
  return value :: (← more calls)

/-- Reads a filter's name and its arguments. -/
def filter (calls : Nat) : Procedure Pointer FilterCall := do
  let span ← span
  let name ← expect .identifier
  if (← take? .colon).isSome then return ⟨name.text, ← list calls, span⟩
  else return ⟨name.text, [], span⟩

/-- Reads the filters that follow, each after a bar. -/
def filters : Nat → Procedure Pointer (List FilterCall)
  | 0 => noOutcome
  | calls + 1 => do
    if (← take? .pipe).isSome then
      let first ← filter calls
      return first :: (← filters calls)
    else return []

/-- Reads a pipeline. -/
def pipeline (calls : Nat) : Procedure Pointer Pipeline := do
  let source ← expr calls
  return ⟨source, ← filters calls⟩

/-- Reads a condition without a joint. -/
def leaf (calls : Nat) : Procedure Pointer Condition := do
  let left ← expr calls
  match ← take? .comparison with
  | none => return .truthy left
  | some token =>
    match Comparison.ofText? token.text with
    | none => failHere ("unknown comparison `" ++ token.text ++ "`")
    | some comparison =>
      let right ← expr calls
      return .compare left comparison right

/-- Reads leaves and the joints between them. -/
def chain : Nat → Procedure Pointer Condition
  | 0 => noOutcome
  | calls + 1 => do
    let leaf ← leaf calls
    if (← takeWord? "and").isSome then return .and leaf (← chain calls)
    else if (← takeWord? "or").isSome then return .or leaf (← chain calls)
    else return leaf

/-- Reads a condition, which takes up all tokens. -/
def condition (calls : Nat) : Procedure Pointer Condition := do
  if ← isAt .endOfMarkup then failHere "expected a condition"
  else
    let condition ← chain calls
    expectEnd
    return condition

end Pointer

end TextTemplate
