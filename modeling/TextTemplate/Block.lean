import TextTemplate.TagRule

/-!
Blocks while they are being read.

A block is open from its opening tag to its end tag. It consists of sections, each with a body;
keywords such as `else` end one section and begin the next. `BlockForm` says which section of
which block is being read and what was read before it; `BlockForm.resume` goes on to the next
section and `BlockForm.close` makes the node.
-/

namespace TextTemplate

/-- What may end the body being read. -/
inductive BodyEnd
  /-- The end of the source, for the body of a template. -/
  | document
  /-- The end tag of the block or one of its keywords. The span is that of the tag that began the
  section. -/
  | block (tag : String) (keywords : List String) (openedAt : Span)
deriving DecidableEq, Repr

/-- Whether a tag without a rule, or the end of the source, ends the body, and the error if it
does not. -/
def BodyEnd.check (bodyEnd : BodyEnd) (found : Option TagHead) : Except ParseError Unit :=
  match bodyEnd, found with
  | document, none => .ok ()
  | block tag _ openedAt, none => .error ⟨.unterminatedTag tag, some openedAt⟩
  | document, some found => .error ⟨.unknownTag found.name, some found.span⟩
  | block tag keywords _, some found =>
    if found.name = TagHead.endName tag ∨ found.name ∈ keywords then .ok ()
    else .error ⟨.unknownTag found.name, some found.span⟩

/-- Reads the markup of a tag. -/
def TagHead.read {α : Type} (tag : TagHead) (mode : LexMode) (parser : Parser α) :
    Except ParseError α := do
  let cursor ← Cursor.ofMarkup mode tag.markup tag.offset
  parser.result cursor

/-- A block with the section that is being read. -/
inductive BlockForm
  /-- The section of a condition, after others. -/
  | cond (negate : Bool) (done : List (Section Condition Node)) (condition : Condition)
  /-- The last section of conditions. -/
  | condElse (negate : Bool) (done : List (Section Condition Node))
  /-- What stands before the first section of a case. It is dropped. -/
  | caseHead (subject : Expr)
  /-- The section of some values, after others. -/
  | caseWhen (subject : Expr) (done : List (Section (List Expr) Node)) (values : List Expr)
  /-- The last section of a case. -/
  | caseElse (subject : Expr) (done : List (Section (List Expr) Node))
  | loop (header : LoopHeader)
  /-- What a loop renders for an empty window, after its body. -/
  | loopElse (header : LoopHeader) (body : List Node)
  | capture (name : String)
  | changed
  | host (run : HostRun)

namespace BlockForm

/-- The keywords that end a section of the block. -/
def keywords : BlockForm → List String
  | cond .. | condElse .. => ["elsif", "else"]
  | caseHead .. | caseWhen .. | caseElse .. => ["when", "else"]
  | loop .. | loopElse .. => ["else"]
  | capture _ | changed | host _ => []

/-- Reads further values, each after a comma or the word `or`. The tokens left bound the
recursion. -/
def parseAlternatives : Nat → Parser (List Expr)
  | 0 => return []
  | fuel + 1 => do
    let taken ← Parser.take? .comma
    let taken ← if taken.isSome then pure taken else Parser.takeWord? "or"
    if taken.isSome then
      let value ← Expr.parse
      return value :: (← parseAlternatives fuel)
    else return []

/-- Reads the values of a section of a case, whose tag has its markup at `span`. -/
def parseValues (span : Span) : Parser (List Expr) := do
  if (← get).isAtEnd then throw (.malformedAt "`when` needs a value" span)
  let value ← Expr.parse
  let values ← parseAlternatives (← get).later.length
  Parser.expectEnd
  return value :: values

/-- The block called `name` with its next section, which `tag` begins, after a section with the
body `body`. Nothing goes on after the last section. -/
def resume (form : BlockForm) (mode : LexMode) (name : String) (body : List Node)
    (tag : TagHead) : Except ParseError BlockForm :=
  match form with
  | cond negate done condition =>
    let done := done ++ [⟨condition, body⟩]
    if tag.name = "elsif" then do return cond negate done (← tag.read mode Condition.parse)
    else .ok (condElse negate done)
  | caseHead subject =>
    if tag.name = "when" then do
      return caseWhen subject [] (← tag.read mode (parseValues tag.span))
    else .ok (caseElse subject [])
  | caseWhen subject done values =>
    let done := done ++ [⟨values, body⟩]
    if tag.name = "when" then do
      return caseWhen subject done (← tag.read mode (parseValues tag.span))
    else .ok (caseElse subject done)
  | loop header => .ok (loopElse header body)
  | condElse .. => misplaced name
  | caseElse .. => misplaced "case"
  | loopElse .. => .error (.malformedAt "duplicate `else` in `for`" tag.span)
  | capture _ | changed | host _ => .error ⟨.unknownTag tag.name, some tag.span⟩
where
  /-- The error for a keyword after the last section. -/
  misplaced (block : String) : Except ParseError BlockForm :=
    .error (.malformedAt ("`" ++ tag.name ++ "` after `else` in `" ++ block ++ "`") tag.span)

/-- The node of a block whose last section has the body `body`. -/
def close (form : BlockForm) (body : List Node) : Node :=
  match form with
  | cond negate done condition => .cond negate (done ++ [⟨condition, body⟩]) none
  | condElse negate done => .cond negate done (some body)
  | caseHead subject => .case subject [] none
  | caseWhen subject done values => .case subject (done ++ [⟨values, body⟩]) none
  | caseElse subject done => .case subject done (some body)
  | loop header => .loop header body none
  | loopElse header first => .loop header first (some body)
  | capture name => .capture name body
  | changed => .changed body
  | host run => .host run body

end BlockForm

/-- What a tag with a rule begins. -/
inductive Opened
  /-- Nothing: the tag is a node of its own. -/
  | node (node : Node)
  | block (form : BlockForm)
  /-- A text that is not read as a template, and that is kept as literal text or left out. -/
  | verbatim (keep : Bool)

namespace TagRule

/-- Reads the name to bind, an identifier or a string, up to the end. -/
def parseTarget (tag : String) : Parser String := do
  match ← Parser.take? .string with
  | some token =>
    Parser.expectEnd
    return token.unquoted
  | none =>
    match ← Parser.take? .identifier with
    | some token =>
      Parser.expectEnd
      return token.text
    | none => Parser.failHere ("`" ++ tag ++ "` needs a variable name")

/-- Reads something that takes up all tokens. -/
def parseWhole {α : Type} (parser : Parser α) : Parser α := do
  let value ← parser
  Parser.expectEnd
  return value

/-- Reads an assignment: a target and a pipeline, on the two sides of the first equals sign. -/
def readAssign (mode : LexMode) (tag : TagHead) : Except ParseError Node :=
  let cs := tag.markup.toList
  let target := cs.takeWhile (· != '=')
  match cs.dropWhile (· != '=') with
  | [] => .error (.malformedAt "expected `name = value` in `assign`" tag.span)
  | _ :: value => do
    let targetTag := { tag with markup := String.ofList target }
    let offset := tag.offset + Text.byteSize target + 1
    let valueTag := { tag with markup := String.ofList value, offset }
    let name ← targetTag.read mode (parseTarget tag.name)
    let pipeline ← valueTag.read mode (parseWhole Pipeline.parse)
    return .assign name pipeline

/-- What a tag with this rule begins. -/
def read (rule : TagRule) (mode : LexMode) (tag : TagHead) : Except ParseError Opened :=
  match rule with
  | cond negate => do return .block (.cond negate [] (← tag.read mode Condition.parse))
  | case => do return .block (.caseHead (← tag.read mode (parseWhole Expr.parse)))
  | loop => do return .block (.loop (← tag.read mode LoopHeader.parse))
  | cycle => do return .node (.cycle (← tag.read mode (Cycle.parse tag.span)))
  | assign => do return .node (← readAssign mode tag)
  | capture => do return .block (.capture (← tag.read mode (parseTarget tag.name)))
  | increment => do return .node (.increment (← counterName))
  | decrement => do return .node (.decrement (← counterName))
  | changed => .ok (.block .changed)
  | comment => .ok (.verbatim false)
  | raw => .ok (.verbatim true)
  | interrupt signal =>
    if tag.markup.toList.all Text.isBlank then .ok (.node (.interrupt signal))
    else .error (.malformedAt ("`" ++ tag.name ++ "` takes no arguments") tag.span)
  | host rule => do
    match ← tag.read mode rule with
    | .inline action keeps => return .node (.host (.alone action keeps) [])
    | .block run => return .block (.host run)
where
  /-- Reads the name of a counter. -/
  counterName : Except ParseError String := do
    let token ← tag.read mode (parseWhole (Parser.expect .identifier))
    return token.text

end TagRule

end TextTemplate
