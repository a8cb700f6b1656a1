import TextTemplate.Cursor
import TextTemplate.Expr
import TextTemplate.Text.Search

/-!
Reading expressions.

```text
expression := end of markup | string | integer | float | path
path       := head ( "." key | "[" expression "]" )*
head       := identifier | "[" expression "]"
key        := identifier | integer | float
```

At the end of markup the expression is nil, and nothing is taken. A float as a key stands for two
integers, since the lexer takes the dot between them for a decimal point.
-/

namespace TextTemplate

namespace Expr

/-- A number read by `read` from the text of a token of this kind. -/
def parseNumber {α : Type} (kind : TokenKind) (read : List Char → Option α) : Parser α := do
  let span := (← get).span
  let token ← Parser.expect kind
  match read token.text.toList with
  | some value => return value
  | none => throw ⟨.invalidNumber token.text, some span⟩

/-- The keys that follow a dot. -/
def parseKeys : Parser (List Step) := do
  let cursor ← get
  match cursor.current.kind with
  | .identifier | .integer =>
    let token ← Parser.consume
    return [.key token.text]
  | .float =>
    let token ← Parser.consume
    return (Text.splitOn '.' token.text.toList).map fun part => .key (String.ofList part)
  | _ => throw (cursor.unexpected .identifier)

/-- A computed index: what `key` reads, between brackets. -/
def parseIndex (key : Parser Expr) : Parser Step := do
  discard (Parser.expect .openSquare)
  let key ← key
  discard (Parser.expect .closeSquare)
  return .index key

mutual

/-- An expression. Each level of brackets and each step of a lookup takes a token, so the tokens
left bound the recursion. -/
def parseWith : Nat → Parser Expr
  | 0 => do throw ((← get).unexpected .identifier)
  | fuel + 1 => do
    match (← get).current.kind with
    | .endOfMarkup => return .nil
    | .string =>
      let token ← Parser.consume
      return .string token.unquoted
    | .integer => return .int (← parseNumber .integer Number.read?)
    | .float => return .float (← parseNumber .float Number.readFloat?)
    | _ => return .ofPath (← parsePathWith fuel)

/-- A lookup. -/
def parsePathWith : Nat → Parser (List Step)
  | 0 => do throw ((← get).unexpected .identifier)
  | fuel + 1 => do
    if (← get).isAt .openSquare then
      let step ← parseIndex (parseWith fuel)
      return step :: (← parseStepsWith fuel)
    else
      let head ← Parser.expect .identifier
      return .key head.text :: (← parseStepsWith fuel)

/-- The steps after the head of a lookup. -/
def parseStepsWith : Nat → Parser (List Step)
  | 0 => return []
  | fuel + 1 => do
    if (← Parser.take? .dot).isSome then
      let keys ← parseKeys
      return keys ++ (← parseStepsWith fuel)
    else if (← get).isAt .openSquare then
      let step ← parseIndex (parseWith fuel)
      return step :: (← parseStepsWith fuel)
    else return []

end

/-- A bound on the recursion from this place: twice the tokens from the current one on. -/
def fuelOf (cursor : Cursor) : Nat :=
  2 * (cursor.later.length + 1)

/-- Reads an expression. -/
def parse : Parser Expr := do
  parseWith (fuelOf (← get))

/-- Reads a lookup, which begins at an identifier or an opening bracket. -/
def parsePath : Parser (List Step) := do
  parsePathWith (fuelOf (← get))

end Expr

end TextTemplate
