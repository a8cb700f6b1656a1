import TextTemplate.Compile

/-!
# The grammar of blocks

The fragments of a template form a language, and a derivation in it says which tree the template
is.

```text
body      := item*
item      := text | object | single
           | "if" body ("elsif" body)* otherwise "endif"
           | "unless" body ("elsif" body)* otherwise "endunless"
           | "case" body ("when" body)* otherwise "endcase"
           | "for" body otherwise "endfor"
           | "capture" body "endcapture"
           | "ifchanged" body "endifchanged"
           | "comment" fragment* "endcomment"
           | "raw" fragment* "endraw"
single    := "assign" | "increment" | "decrement" | "cycle" | "break" | "continue"
otherwise := ("else" body)?
```

A name in quotes stands for a tag of that name. The fragments inside `comment` and `raw` are any up
to the first end tag. Repetitions are built up from the front, as a parser meets them.
-/

namespace TextTemplate

/-- The fragment is a tag called `name`. -/
def Fragment.IsTag (name : String) (fragment : Fragment) : Prop :=
  fragment.kind = .markup .tag ∧ fragment.tagHead.name = name

instance (name : String) (fragment : Fragment) : Decidable (fragment.IsTag name) :=
  inferInstanceAs (Decidable (_ ∧ _))

theorem Fragment.closes_iff {fragment : Fragment} {name : String} :
    fragment.closes name = true ↔ fragment.IsTag (TagHead.endName name) := by
  simp [closes, IsTag]

namespace Grammar

/-- The tags that are nodes of their own, with the rules for their markup. -/
def singles : List (String × TagRule) :=
  [("assign", .assign), ("increment", .increment), ("decrement", .decrement), ("cycle", .cycle),
    ("break", .interrupt .breakLoop), ("continue", .interrupt .continueLoop)]

/-- The tags that choose by conditions, and whether they negate the first one. -/
def choices : List (String × Bool) :=
  [("if", false), ("unless", true)]

mutual

/-- The fragments are a body with these nodes. -/
inductive Body (mode : LexMode) : List Fragment → List Node → Prop
  | nil : Body mode [] []
  | snoc {fragments item : List Fragment} {nodes : List Node} {node : Node}
      (body : Body mode fragments nodes) (last : Item mode item node) :
      Body mode (fragments ++ item) (nodes ++ [node])

/-- The fragments are an item, which is this node. -/
inductive Item (mode : LexMode) : List Fragment → Node → Prop
  | text {fragment : Fragment} (isText : fragment.kind = .text) :
      Item mode [fragment] (.text fragment.text)
  | object {fragment : Fragment} {pipeline : Pipeline}
      (isObject : fragment.kind = .markup .object)
      (reads : Compiler.readObject mode fragment = .ok pipeline) :
      Item mode [fragment] (.object pipeline)
  | single {name : String} {rule : TagRule} {tag : Fragment} {node : Node}
      (known : (name, rule) ∈ singles) (isTag : tag.IsTag name)
      (reads : rule.read mode tag.tagHead = .ok (.node node)) : Item mode [tag] node
  | choice {name : String} {negate : Bool} {fragments last : List Fragment} {closing : Fragment}
      {sections : List (Section Condition Node)} {otherwise : Option (List Node)}
      (known : (name, negate) ∈ choices) (branches : Branches mode name fragments sections)
      (ends : Otherwise mode last otherwise) (closes : closing.IsTag (TagHead.endName name)) :
      Item mode (fragments ++ last ++ [closing]) (.cond negate sections otherwise)
  | case {subject : Expr} {fragments last : List Fragment} {closing : Fragment}
      {sections : List (Section (List Expr) Node)} {otherwise : Option (List Node)}
      (cases : Cases mode subject fragments sections) (ends : Otherwise mode last otherwise)
      (closes : closing.IsTag (TagHead.endName "case")) :
      Item mode (fragments ++ last ++ [closing]) (.case subject sections otherwise)
  | loop {opening closing : Fragment} {header : LoopHeader} {inner last : List Fragment}
      {nodes : List Node} {otherwise : Option (List Node)} (isTag : opening.IsTag "for")
      (reads : opening.tagHead.read mode LoopHeader.parse = .ok header)
      (body : Body mode inner nodes) (ends : Otherwise mode last otherwise)
      (closes : closing.IsTag (TagHead.endName "for")) :
      Item mode (opening :: inner ++ last ++ [closing]) (.loop header nodes otherwise)
  | capture {opening closing : Fragment} {name : String} {inner : List Fragment}
      {nodes : List Node} (isTag : opening.IsTag "capture")
      (reads : opening.tagHead.read mode (TagRule.parseTarget "capture") = .ok name)
      (body : Body mode inner nodes) (closes : closing.IsTag (TagHead.endName "capture")) :
      Item mode (opening :: inner ++ [closing]) (.capture name nodes)
  | changed {opening closing : Fragment} {inner : List Fragment} {nodes : List Node}
      (isTag : opening.IsTag "ifchanged") (body : Body mode inner nodes)
      (closes : closing.IsTag (TagHead.endName "ifchanged")) :
      Item mode (opening :: inner ++ [closing]) (.changed nodes)
  | comment {opening closing : Fragment} {inner : List Fragment} (isTag : opening.IsTag "comment")
      (inside : ∀ fragment ∈ inner, ¬ fragment.IsTag (TagHead.endName "comment"))
      (closes : closing.IsTag (TagHead.endName "comment")) :
      Item mode (opening :: inner ++ [closing]) .comment
  | raw {opening closing : Fragment} {inner : List Fragment} (isTag : opening.IsTag "raw")
      (inside : ∀ fragment ∈ inner, ¬ fragment.IsTag (TagHead.endName "raw"))
      (closes : closing.IsTag (TagHead.endName "raw")) :
      Item mode (opening :: inner ++ [closing])
        (.text (String.join (inner.map Fragment.sourceText)))

/-- The fragments are the sections of the choice that a tag called `name` begins. -/
inductive Branches (mode : LexMode) :
    String → List Fragment → List (Section Condition Node) → Prop
  | first {name : String} {tag : Fragment} {condition : Condition} {inner : List Fragment}
      {nodes : List Node} (isTag : tag.IsTag name)
      (reads : tag.tagHead.read mode Condition.parse = .ok condition)
      (body : Body mode inner nodes) :
      Branches mode name (tag :: inner) [⟨condition, nodes⟩]
  | next {name : String} {fragments inner : List Fragment} {tag : Fragment}
      {condition : Condition} {sections : List (Section Condition Node)} {nodes : List Node}
      (before : Branches mode name fragments sections) (isTag : tag.IsTag "elsif")
      (reads : tag.tagHead.read mode Condition.parse = .ok condition)
      (body : Body mode inner nodes) :
      Branches mode name (fragments ++ tag :: inner) (sections ++ [⟨condition, nodes⟩])

/-- The fragments are a case with its sections. The body before the first one is no part of the
tree. -/
inductive Cases (mode : LexMode) :
    Expr → List Fragment → List (Section (List Expr) Node) → Prop
  | head {tag : Fragment} {subject : Expr} {inner : List Fragment} {nodes : List Node}
      (isTag : tag.IsTag "case")
      (reads : tag.tagHead.read mode (TagRule.parseWhole Expr.parse) = .ok subject)
      (body : Body mode inner nodes) : Cases mode subject (tag :: inner) []
  | next {subject : Expr} {fragments inner : List Fragment} {tag : Fragment}
      {values : List Expr} {sections : List (Section (List Expr) Node)} {nodes : List Node}
      (before : Cases mode subject fragments sections) (isTag : tag.IsTag "when")
      (reads : tag.tagHead.read mode (BlockForm.parseValues tag.tagHead.span) = .ok values)
      (body : Body mode inner nodes) :
      Cases mode subject (fragments ++ tag :: inner) (sections ++ [⟨values, nodes⟩])

/-- The fragments are the last body of a block, which may be absent. -/
inductive Otherwise (mode : LexMode) : List Fragment → Option (List Node) → Prop
  | none : Otherwise mode [] none
  | some {tag : Fragment} {inner : List Fragment} {nodes : List Node} (isTag : tag.IsTag "else")
      (body : Body mode inner nodes) : Otherwise mode (tag :: inner) (some nodes)

end

end Grammar

end TextTemplate
