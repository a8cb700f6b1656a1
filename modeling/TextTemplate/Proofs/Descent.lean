import TextTemplate.Compile
import TextTemplate.Proofs.Procedure

/-!
# Compiling by recursive descent

The compiler keeps the open blocks on a stack. The same templates can be read by procedures that
call each other: a body calls what a tag means, a tag that begins a block reads its sections one
after the other, and each section is a body again. The fragments not taken yet are the state that
all of them share, so a tag may take any number of them.

The recursion goes through the table of tags and back, and nothing in it is bounded in advance. So
it is followed down to two bounds, which are not part of what is read: every call but the one for a
whole template takes one off `calls`, and the one for a block takes one off `nesting` too.
-/

namespace TextTemplate

namespace Descent

open Procedure

/-- Takes a fragment, if one is left. -/
def next : Procedure (List Fragment) (Option Fragment) := do
  match ← get with
  | [] => return none
  | fragment :: rest =>
    set rest
    return some fragment

/-- Passes over everything up to the end tag of `head`, with the text so far. -/
def skip (keep : Bool) (head : TagHead) : Nat → String → Procedure (List Fragment) Node
  | 0, _ => noOutcome
  | calls + 1, text => do
    match ← next with
    | none => throw ⟨.unterminatedTag head.name, some head.span⟩
    | some fragment =>
      if fragment.closes head.name then return if keep then .text text else .comment
      else skip keep head calls (if keep then text ++ fragment.sourceText else "")

/-- The error for a keyword after the last section of a block. -/
def misplaced (block : String) (last : TagHead) : ParseError :=
  .malformedAt ("`" ++ last.name ++ "` after `else` in `" ++ block ++ "`") last.span

variable (tags : TagTable) (mode : LexMode)

mutual

/-- Reads a body up to what may end it, after these nodes, the last first. A body ends at a tag
without a rule, which is returned, or where no fragment is left. -/
def body : Nat → Nat → BodyEnd → List Node →
    Procedure (List Fragment) (List Node × Option TagHead)
  | 0, _, _, _ => noOutcome
  | calls + 1, nesting, bodyEnd, nodes => do
    match ← next with
    | none =>
      ofExcept (bodyEnd.check none)
      return (nodes.reverse, none)
    | some fragment =>
      match fragment.kind with
      | .text => body calls nesting bodyEnd (.text fragment.text :: nodes)
      | .markup .object =>
        let pipeline ← ofExcept (Compiler.readObject mode fragment)
        body calls nesting bodyEnd (.object pipeline :: nodes)
      | .markup .tag =>
        let head := fragment.tagHead
        match tags.get? head.name with
        | some rule =>
          let node ← tag calls nesting rule head
          body calls nesting bodyEnd (node :: nodes)
        | none =>
          ofExcept (bodyEnd.check (some head))
          return (nodes.reverse, some head)

/-- Reads the body of a block up to its end tag or one of the keywords, one level deeper. -/
def block : Nat → Nat → String → List String → Span →
    Procedure (List Fragment) (List Node × TagHead)
  | 0, _, _, _, _ => noOutcome
  | _ + 1, 0, _, _, _ => noOutcome
  | calls + 1, nesting + 1, name, keywords, openedAt => do
    let (nodes, ended) ← body calls nesting (.block name keywords openedAt) []
    match ended with
    | some last => return (nodes, last)
    -- What may end the body of a block does not let the source end there, so this is not met.
    | none => throw ⟨.unterminatedTag name, some openedAt⟩

/-- Reads the last section of a block, after which none of the keywords may stand. -/
def lastSection : Nat → Nat → String → List String → Span → (TagHead → ParseError) →
    (List Node → Node) → Procedure (List Fragment) Node
  | 0, _, _, _, _, _, _ => noOutcome
  | calls + 1, nesting, name, keywords, openedAt, repeated, node => do
    let (nodes, last) ← block calls nesting name keywords openedAt
    if last.name ∈ keywords then throw (repeated last)
    return node nodes

/-- Reads the sections of a condition, after those already done. -/
def conditions : Nat → Nat → String → Bool → List (Section Condition Node) → Condition → Span →
    Procedure (List Fragment) Node
  | 0, _, _, _, _, _, _ => noOutcome
  | calls + 1, nesting, name, negate, done, condition, openedAt => do
    let (nodes, last) ← block calls nesting name ["elsif", "else"] openedAt
    let done := done ++ [⟨condition, nodes⟩]
    if last.name = "elsif" then
      let condition ← ofExcept (last.read mode Condition.parse)
      conditions calls nesting name negate done condition last.span
    else if last.name = "else" then
      lastSection calls nesting name ["elsif", "else"] last.span (misplaced name) fun nodes =>
        .cond negate done (some nodes)
    else return .cond negate done none

/-- Reads the sections of a case from the tag `last` on, after those already done. -/
def clauses : Nat → Nat → String → Expr → List (Section (List Expr) Node) → TagHead →
    Procedure (List Fragment) Node
  | 0, _, _, _, _, _ => noOutcome
  | calls + 1, nesting, name, subject, done, last => do
    if last.name = "when" then
      let values ← ofExcept (last.read mode (BlockForm.parseValues last.span))
      let (nodes, next) ← block calls nesting name ["when", "else"] last.span
      clauses calls nesting name subject (done ++ [⟨values, nodes⟩]) next
    else if last.name = "else" then
      lastSection calls nesting name ["when", "else"] last.span (misplaced "case") fun nodes =>
        .case subject done (some nodes)
    else return .case subject done none

/-- Reads what a tag with this rule begins, from after the tag. -/
def tag : Nat → Nat → TagRule → TagHead → Procedure (List Fragment) Node
  | 0, _, _, _ => noOutcome
  | calls + 1, nesting, rule, head => do
    match rule with
    | .cond negate =>
      let condition ← ofExcept (head.read mode Condition.parse)
      conditions calls nesting head.name negate [] condition head.span
    | .case =>
      let subject ← ofExcept (head.read mode (TagRule.parseWhole Expr.parse))
      let (_, last) ← block calls nesting head.name ["when", "else"] head.span
      clauses calls nesting head.name subject [] last
    | .loop =>
      let header ← ofExcept (head.read mode LoopHeader.parse)
      let (nodes, last) ← block calls nesting head.name ["else"] head.span
      if last.name = "else" then
        lastSection calls nesting head.name ["else"] last.span
          (fun last => .malformedAt "duplicate `else` in `for`" last.span)
          fun other => .loop header nodes (some other)
      else return .loop header nodes none
    | .cycle => return .cycle (← ofExcept (head.read mode (Cycle.parse head.span)))
    | .assign => ofExcept (TagRule.readAssign mode head)
    | .capture =>
      let name ← ofExcept (head.read mode (TagRule.parseTarget head.name))
      let (nodes, _) ← block calls nesting head.name [] head.span
      return .capture name nodes
    | .increment => return .increment (← ofExcept (TagRule.read.counterName mode head))
    | .decrement => return .decrement (← ofExcept (TagRule.read.counterName mode head))
    | .changed =>
      let (nodes, _) ← block calls nesting head.name [] head.span
      return .changed nodes
    | .comment => skip false head calls ""
    | .raw => skip true head calls ""
    | .interrupt signal =>
      if head.markup.toList.all Text.isBlank then return .interrupt signal
      else throw (.malformedAt ("`" ++ head.name ++ "` takes no arguments") head.span)
    | .host rule =>
      match ← ofExcept (head.read mode rule) with
      | .inline action keeps => return .host (.alone action keeps) []
      | .block run =>
        let (nodes, _) ← block calls nesting head.name [] head.span
        return .host run nodes

end

/-- Reads the body of a template. -/
def document (calls nesting : Nat) : Procedure (List Fragment) (List Node) := do
  let (nodes, _) ← body tags mode calls nesting .document []
  return nodes

end Descent

end TextTemplate
