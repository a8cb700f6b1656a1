import TextTemplate.Condition
import TextTemplate.Proofs.Reading.Pipelines

/-!
# Conditions read back

A condition is written as its leaves with a joint between any two, and a leaf as an expression or as
two with an operator between them (`Condition.chainText`). The text is read as the leaves nested to
the right, whatever the joints (`Condition.reads_parse`). A space and a word end an expression, also
where the word is one that begins an expression elsewhere.
-/

namespace TextTemplate

open Token (IsLexeme Ends Lexes Parted Solid)
open TextTemplate.Parser (Reads reads_bind reads_step reads_get reads_pure run_take? run_take?_none
  run_takeWord? run_takeWord?_none run_expectEnd)

/-- A comparison operator as it is written. -/
structure Operator where
  text : String
  comparison : Comparison
  isText : Comparison.ofText? text = some comparison

/-- A leaf of a condition as it is written. -/
inductive Leaf
  | truthy (expr : Expr)
  | compare (left : Expr) (operator : Operator) (right : Expr)

/-- A word that joins two conditions. -/
inductive Joint
  | and
  | or
deriving DecidableEq, Repr

/-- The joint as it is written. -/
def Joint.text : Joint → String
  | and => "and"
  | or => "or"

/-- Two conditions joined. -/
def Joint.join : Joint → Condition → Condition → Condition
  | and => .and
  | or => .or

namespace Leaf

/-- The text of a leaf. -/
def text : Leaf → String
  | truthy expr => expr.display
  | compare left operator right =>
    left.display ++ " " ++ operator.text ++ " " ++ right.display

/-- The condition that a leaf is. -/
def condition : Leaf → Condition
  | truthy expr => .truthy expr
  | compare left operator right => .compare left operator.comparison right

/-- The expressions of a leaf. -/
def exprs : Leaf → List Expr
  | truthy expr => [expr]
  | compare left _ right => [left, right]

end Leaf

namespace Condition

/-- Conditions with a joint before each but the first, nested to the right. -/
def chain (first : Condition) : List (Joint × Condition) → Condition
  | [] => first
  | (joint, next) :: rest => joint.join first (chain next rest)

/-- The text of leaves with a joint before each but the first. -/
def chainText (first : Leaf) : List (Joint × Leaf) → String
  | [] => first.text
  | (joint, next) :: rest => first.text ++ " " ++ joint.text ++ " " ++ chainText next rest

end Condition

/-! ## Texts of conditions -/

/-- Gaps and a lexeme end an expression if no step of a lookup begins with the lexeme. -/
theorem Closed.spaced {gaps text rest : List Char} {kind : TokenKind} (areGaps : Token.AreGaps gaps)
    (occurs : gaps ≠ []) (lexeme : IsLexeme kind text) (ends : Ends kind rest)
    (other : kind ≠ .dot ∧ kind ≠ .openSquare) : Closed (gaps ++ (text ++ rest)) :=
  .of_gaps areGaps occurs (noStep_of_lexeme lexeme ends other)

theorem Joint.isLexeme (joint : Joint) : IsLexeme .identifier joint.text.toList := by
  cases joint with
  | and => exact ⟨'a', ['n', 'd'], rfl, List.all_eq_true.1 rfl, rfl, by decide⟩
  | or => exact ⟨'o', ['r'], rfl, List.all_eq_true.1 rfl, rfl, by decide⟩

theorem Comparison.mem_operators_of_ofText? {text : String} {comparison : Comparison}
    (isText : ofText? text = some comparison) : text ∈ Token.operators := by
  unfold ofText? at isText
  split at isText
  case h_9 => cases isText
  all_goals simp [Token.operators]

theorem Operator.isLexeme (operator : Operator) :
    IsLexeme .comparison operator.text.toList :=
  List.mem_map_of_mem (Comparison.mem_operators_of_ofText? operator.isText)

/-- A gap stands at the front. -/
theorem Token.ends_space {kind : TokenKind} {rest : List Char} : Ends kind (' ' :: rest) :=
  Parted.ends (by simp [Parted, Text.isGap])

namespace Condition

open Pipeline (Plain)

variable {leaf next : Leaf} {joint : Joint} {operator : Operator} {left right : Expr}
  {more : List (Joint × Leaf)} {rest : List Char} {cursor : Cursor} {fuel : Nat}

theorem text_compare : (Leaf.compare left operator right).text.toList ++ rest =
    left.display.toList ++ ' ' :: (operator.text.toList ++ ' ' :: (right.display.toList ++ rest)) := by
  simp [Leaf.text]

theorem text_chain : (chainText leaf ((joint, next) :: more)).toList =
    leaf.text.toList ++ ' ' :: (joint.text.toList ++ ' ' :: (chainText next more).toList) := by
  simp [chainText]

theorem closed_operator : Closed (' ' :: (operator.text.toList ++ ' ' :: rest)) :=
  .spaced Token.areGaps_space (List.cons_ne_nil _ _) operator.isLexeme Token.ends_space (by decide)

theorem closed_joint : Closed (' ' :: (joint.text.toList ++ ' ' :: rest)) :=
  .spaced Token.areGaps_space (List.cons_ne_nil _ _) joint.isLexeme Token.ends_space (by decide)

theorem lexes_leaf (plain : ∀ expr ∈ leaf.exprs, Plain expr) (closed : Closed rest)
    (lexes : Lexes rest) : Lexes (leaf.text.toList ++ rest) := by
  cases leaf with
  | truthy expr =>
    have isPlain : Plain expr := plain expr List.mem_cons_self
    exact isPlain.readable.lexes isPlain.floatFree closed lexes
  | compare left operator right =>
    have isLeft : Plain left := plain left List.mem_cons_self
    have isRight : Plain right := plain right (.tail _ List.mem_cons_self)
    rw [text_compare]
    have later := (isRight.readable.lexes isRight.floatFree closed lexes).gap (c := ' ') rfl
    have middle := (later.lexeme operator.isLexeme Token.ends_space).gap (c := ' ') rfl
    exact isLeft.readable.lexes isLeft.floatFree closed_operator middle

theorem solid_leaf (plain : ∀ expr ∈ leaf.exprs, Plain expr) : Solid leaf.text.toList := by
  cases leaf with
  | truthy expr =>
    have isPlain : Plain expr := plain expr List.mem_cons_self
    exact isPlain.readable.solid isPlain.floatFree
  | compare left operator right =>
    have isLeft : Plain left := plain left List.mem_cons_self
    have isRight : Plain right := plain right (.tail _ List.mem_cons_self)
    have solid : Solid (left.display.toList ++
        (' ' :: (operator.text.toList ++ [' ']) ++ right.display.toList)) :=
      (isLeft.readable.solid isLeft.floatFree).append (isRight.readable.solid isRight.floatFree)
    simpa [Leaf.text] using solid

theorem lexes_chain (plain : ∀ expr ∈ leaf.exprs, Plain expr)
    (plainMore : ∀ joined ∈ more, ∀ expr ∈ joined.2.exprs, Plain expr) :
    Lexes (chainText leaf more).toList := by
  induction more generalizing leaf with
  | nil =>
    have lexes := lexes_leaf plain .nil Token.lexes_nil
    rwa [List.append_nil] at lexes
  | cons joined more ih =>
    rw [List.forall_mem_cons] at plainMore
    rw [text_chain]
    have later := (ih plainMore.1 plainMore.2).gap (c := ' ') rfl
    have middle := (later.lexeme joined.1.isLexeme Token.ends_space).gap (c := ' ') rfl
    exact lexes_leaf plain closed_joint middle

theorem solid_chain (plain : ∀ expr ∈ leaf.exprs, Plain expr)
    (plainMore : ∀ joined ∈ more, ∀ expr ∈ joined.2.exprs, Plain expr) :
    Solid (chainText leaf more).toList := by
  induction more generalizing leaf with
  | nil => exact solid_leaf plain
  | cons joined more ih =>
    rw [List.forall_mem_cons] at plainMore
    have solid : Solid (leaf.text.toList ++
        (' ' :: (joined.1.text.toList ++ [' ']) ++ (chainText joined.2 more).toList)) :=
      (solid_leaf plain).append (ih plainMore.1 plainMore.2)
    simpa [chainText] using solid

/-! ## Parsers of conditions -/

/-- A leaf is read up to what goes on neither with an expression nor with an operator. -/
theorem reads_leaf (plain : ∀ expr ∈ leaf.exprs, Plain expr) (closed : Closed rest)
    (noOperator : ∀ next : Cursor, next.Reads rest → next.isAt .comparison = false)
    (reads : cursor.Reads (leaf.text.toList ++ rest)) :
    Reads (· = leaf.condition) parseLeaf cursor cursor.later.length rest := by
  cases leaf with
  | truthy expr =>
    have isPlain : Plain expr := plain expr List.mem_cons_self
    refine reads_bind (Expr.reads_parse isPlain.readable isPlain.floatFree reads closed) ?_
    rintro _ between rfl readsRest within
    refine reads_step (run_take?_none (noOperator between readsRest)) ?_
    exact reads_pure readsRest rfl within
  | compare left operator right =>
    have isLeft : Plain left := plain left List.mem_cons_self
    have isRight : Plain right := plain right (.tail _ List.mem_cons_self)
    rw [text_compare] at reads
    refine reads_bind
      (Expr.reads_parse isLeft.readable isLeft.floatFree reads closed_operator) ?_
    rintro _ between rfl readsOperator within
    have takes := (readsOperator.gap rfl).takes operator.isLexeme Token.ends_space
    have count := takes.count
    refine reads_step (run_take? takes.isKind) ?_
    dsimp only
    rw [takes.isText, String.ofList_toList, operator.isText]
    have readRight := Expr.reads_parse isRight.readable isRight.floatFree (takes.reads.gap rfl) closed
    refine reads_bind readRight ?_
    rintro _ last rfl readsRest shorter
    exact reads_pure readsRest rfl (by omega)

/-- A joint is no operator. -/
theorem isAt_joint (reads : cursor.Reads (' ' :: (joint.text.toList ++ ' ' :: rest))) :
    cursor.isAt .comparison = false := by
  have takes := (reads.gap rfl).takes joint.isLexeme Token.ends_space
  simp [Cursor.isAt, takes.isKind]

/-- No word stands at the end. -/
theorem isAtWord_end (reads : cursor.Reads []) (word : String) : cursor.isAtWord word = false := by
  simp [Cursor.isAtWord, reads.kind_end]

/-- The last leaf of a condition, after which no joint stands. -/
theorem reads_last (plain : ∀ expr ∈ leaf.exprs, Plain expr)
    (reads : cursor.Reads leaf.text.toList) :
    Reads (· = leaf.condition) (parseChain fuel) cursor cursor.later.length [] := by
  rw [← List.append_nil leaf.text.toList] at reads
  have noOperator (next : Cursor) (atEnd : next.Reads []) : next.isAt .comparison = false := by
    simp [Cursor.isAt, atEnd.kind_end]
  have read := reads_leaf plain .nil noOperator reads
  cases fuel with
  | zero => exact read
  | succ fuel =>
    unfold parseChain
    refine reads_bind read ?_
    rintro _ between rfl readsEnd within
    refine reads_step (run_takeWord?_none (isAtWord_end readsEnd _)) ?_
    refine reads_step (run_takeWord?_none (isAtWord_end readsEnd _)) ?_
    exact reads_pure readsEnd rfl within

/-- The joint after a leaf, and the condition after it. -/
theorem reads_joined {length : Nat} {first later : Condition} {middle : List Char}
    (takes : cursor.Takes .identifier joint.text.toList middle)
    (read : Reads (· = later) (parseChain fuel) cursor.advance length rest) :
    Reads (· = joint.join first later) (do
      if (← Parser.takeWord? "and").isSome then
        return and first (← parseChain fuel)
      else if (← Parser.takeWord? "or").isSome then
        return or first (← parseChain fuel)
      else return first) cursor length rest := by
  cases joint with
  | and =>
    refine reads_step (run_takeWord? takes) (reads_bind read ?_)
    rintro _ last rfl readsRest within
    exact reads_pure readsRest rfl within
  | or =>
    have noAnd : cursor.isAtWord "and" = false := by
      simp [Cursor.isAtWord, takes.isText, Joint.text]
    refine reads_step (run_takeWord?_none noAnd) ?_
    refine reads_step (run_takeWord? takes) (reads_bind read ?_)
    rintro _ last rfl readsRest within
    exact reads_pure readsRest rfl within

theorem reads_chain (plain : ∀ expr ∈ leaf.exprs, Plain expr)
    (plainMore : ∀ joined ∈ more, ∀ expr ∈ joined.2.exprs, Plain expr)
    (reads : cursor.Reads (chainText leaf more).toList) (enough : cursor.later.length ≤ fuel) :
    Reads (· = chain leaf.condition (more.map fun joined => (joined.1, joined.2.condition)))
      (parseChain fuel) cursor cursor.later.length [] := by
  induction more generalizing leaf cursor fuel with
  | nil => exact reads_last plain reads
  | cons joined more ih =>
    rw [List.forall_mem_cons] at plainMore
    rw [text_chain] at reads
    have read := reads_leaf plain closed_joint (fun _ => isAt_joint) reads
    obtain ⟨_, between, run, rfl, readsJoint, within⟩ := read
    have takes := (readsJoint.gap rfl).takes joined.1.isLexeme Token.ends_space
    have count := takes.count
    -- the joint is a token after the first one, so the fuel is not used up
    obtain ⟨fuel, rfl⟩ : ∃ less, fuel = less + 1 := ⟨fuel - 1, by omega⟩
    have later := ih plainMore.1 plainMore.2 (takes.reads.gap rfl)
      (show between.advance.later.length ≤ fuel by omega)
    unfold parseChain
    exact reads_step run ((reads_joined takes later).mono (by omega))

/-- The text of a condition is read as its leaves nested to the right, to its end. -/
theorem reads_parse (plain : ∀ expr ∈ leaf.exprs, Plain expr)
    (plainMore : ∀ joined ∈ more, ∀ expr ∈ joined.2.exprs, Plain expr)
    (reads : cursor.Reads (chainText leaf more).toList) :
    ∃ next, parse.run cursor =
      .ok (chain leaf.condition (more.map fun joined => (joined.1, joined.2.condition))) next := by
  obtain ⟨c, -, first, noBlank, -⟩ := solid_chain plain plainMore
  obtain ⟨cs, text⟩ := List.head?_eq_some_iff.1 first
  have goesOn : cursor.isAtEnd = false := by
    rw [text] at reads
    exact reads.not_isAtEnd noBlank
  obtain ⟨_, between, run, rfl, readsEnd, -⟩ :=
    reads_chain plain plainMore reads (Nat.le_refl cursor.later.length)
  refine ⟨between.advance, ?_⟩
  show (if cursor.isAtEnd then _ else _ : Parser Condition).run cursor = _
  rw [goesOn]
  exact (Parser.run_bind run).trans (Parser.run_bind (run_expectEnd readsEnd))

end Condition

end TextTemplate
