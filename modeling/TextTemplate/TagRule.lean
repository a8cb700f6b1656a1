import TextTemplate.Node

/-!
Rules of tags: what a tag of some name means.

A rule is looked up by the name under which it is registered. The rule of a block is closed by the
tag called `end` and that name, so one rule may serve under several names.
-/

namespace TextTemplate

/-- What the markup of a host's tag asks for. -/
inductive HostAction
  /-- To render something. -/
  | inline (action : Render String) (keeps : action.KeepsHash)
  /-- To render something around a body, which goes on to the end tag. -/
  | block (run : HostRun)

/-- The rule of a host's tag reads the markup. -/
abbrev HostRule := Parser HostAction

/-- What a tag means. -/
inductive TagRule
  /-- A choice by conditions, the first one negated if `negate` is set. -/
  | cond (negate : Bool)
  /-- A choice by the value of a subject. -/
  | case
  | loop
  | cycle
  | assign
  | capture
  | increment
  | decrement
  /-- A body that is left out when it repeats itself. -/
  | changed
  /-- Everything up to the end tag is left out. -/
  | comment
  /-- Everything up to the end tag is literal text. -/
  | raw
  | interrupt (interrupt : Interrupt)
  | host (rule : HostRule)

/-- Rules by the names of their tags. -/
abbrev TagTable := Table TagRule

/-- The standard tags. -/
def TagTable.standard : TagTable :=
  Table.ofList [
    ("if", .cond false),
    ("unless", .cond true),
    ("case", .case),
    ("for", .loop),
    ("cycle", .cycle),
    ("assign", .assign),
    ("capture", .capture),
    ("increment", .increment),
    ("decrement", .decrement),
    ("ifchanged", .changed),
    ("comment", .comment),
    ("raw", .raw),
    ("break", .interrupt .breakLoop),
    ("continue", .interrupt .continueLoop)]

end TextTemplate
