import TextTemplate.Block
import TextTemplate.Fragment.Scan

/-!
Compiling: from fragments to nodes.

The compiler takes one fragment at a time. Its state holds the blocks that are open, the innermost
first, and the nodes of the section being read. A tag with a rule begins something; a tag without
one has to end the body being read. At the end of the source no block may be open.
-/

namespace TextTemplate

/-- A block that is open. -/
structure OpenBlock where
  /-- The name of its tag. -/
  tag : String
  /-- The span of the tag that began the section being read. -/
  openedAt : Span
  form : BlockForm
  /-- The nodes before the block in the body around it, the last first. -/
  before : List Node

/-- A text that is being passed over up to an end tag. -/
structure Verbatim where
  /-- The name of the tag before it. -/
  tag : String
  openedAt : Span
  /-- Whether the text becomes a node. -/
  keep : Bool
  /-- The text so far. -/
  text : String

/-- The state of the compiler. -/
structure Compiler where
  /-- The nodes of the section being read, the last first. -/
  nodes : List Node
  /-- The open blocks, the innermost first. -/
  blocks : List OpenBlock
  /-- The text being passed over, if that is so. -/
  verbatim : Option Verbatim

namespace Compiler

/-- The state before the first fragment. -/
def start : Compiler := ⟨[], [], none⟩

/-- The body of the section being read. -/
def body (compiler : Compiler) : List Node :=
  compiler.nodes.reverse

/-- What may end the body being read. -/
def bodyEnd (compiler : Compiler) : BodyEnd :=
  match compiler.blocks with
  | [] => .document
  | block :: _ => .block block.tag block.form.keywords block.openedAt

/-- With one more node. -/
def push (compiler : Compiler) (node : Node) : Compiler :=
  { compiler with nodes := node :: compiler.nodes }

/-- Begins what a tag with a rule begins. -/
def openTag (compiler : Compiler) (tag : TagHead) : Opened → Compiler
  | .node node => compiler.push node
  | .block form =>
    { compiler with
      nodes := []
      blocks := ⟨tag.name, tag.span, form, compiler.nodes⟩ :: compiler.blocks }
  | .verbatim keep => { compiler with verbatim := some ⟨tag.name, tag.span, keep, ""⟩ }

/-- Ends the body being read at a tag without a rule: the block is closed, or goes on with its
next section. -/
def endBody (compiler : Compiler) (mode : LexMode) (tag : TagHead) :
    Except ParseError Compiler := do
  compiler.bodyEnd.check (some tag)
  match compiler.blocks with
  | [] => return compiler
  | block :: blocks =>
    if tag.name = TagHead.endName block.tag then
      return ⟨block.form.close compiler.body :: block.before, blocks, compiler.verbatim⟩
    else
      let form ← block.form.resume mode block.tag compiler.body tag
      let block := { block with openedAt := tag.span, form }
      return ⟨[], block :: blocks, compiler.verbatim⟩

/-- Passes over a fragment of a text that is not read as a template. -/
def passOver (compiler : Compiler) (verbatim : Verbatim) (fragment : Fragment) : Compiler :=
  if fragment.closes verbatim.tag then
    { compiler with verbatim := none }.push
      (if verbatim.keep then .text verbatim.text else .comment)
  else
    let text := if verbatim.keep then verbatim.text ++ fragment.sourceText else ""
    { compiler with verbatim := some { verbatim with text } }

/-- Reads an object. -/
def readObject (mode : LexMode) (fragment : Fragment) : Except ParseError Pipeline := do
  let cursor ← Cursor.ofMarkup mode fragment.text fragment.span.start
  (TagRule.parseWhole Pipeline.parse).result cursor

/-- Takes one fragment. -/
def step (tags : TagTable) (mode : LexMode) (compiler : Compiler) (fragment : Fragment) :
    Except ParseError Compiler :=
  match compiler.verbatim with
  | some verbatim => .ok (compiler.passOver verbatim fragment)
  | none =>
    match fragment.kind with
    | .text => .ok (compiler.push (.text fragment.text))
    | .markup .object => do return compiler.push (.object (← readObject mode fragment))
    | .markup .tag =>
      let tag := fragment.tagHead
      match tags.get? tag.name with
      | some rule => do return compiler.openTag tag (← rule.read mode tag)
      | none => compiler.endBody mode tag

/-- The body of the template, if nothing is open at the end of the source. -/
def finish (compiler : Compiler) : Except ParseError (List Node) := do
  match compiler.verbatim with
  | some verbatim => throw ⟨.unterminatedTag verbatim.tag, some verbatim.openedAt⟩
  | none =>
    compiler.bodyEnd.check none
    return compiler.body

/-- Compiles fragments. -/
def run (tags : TagTable) (mode : LexMode) (fragments : List Fragment) :
    Except ParseError (List Node) := do
  let compiler ← fragments.foldlM (step tags mode) start
  compiler.finish

end Compiler

/-- Compiles a source to the body of a template. -/
def compile (tags : TagTable) (mode : LexMode) (source : String) :
    Except ParseError (List Node) :=
  match Fragment.scan source with
  | .ok fragments => Compiler.run tags mode fragments
  | .error error => .error (.ofLexError error)

end TextTemplate
