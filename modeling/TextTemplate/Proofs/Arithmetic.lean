import TextTemplate.Filter.Standard
import TextTemplate.Pipeline
import TextTemplate.Proofs.Integers

/-!
# Arithmetic on integers

A pipeline whose filters calculate, and whose values all count as integers, computes in 64 bits what
the calculation gives among all integers, as long as no result on the way leaves the 64-bit
integers. The first result that does so is an error at the filter that was to give it, and nothing
after this filter has an effect (`Pipeline.integers_exact_or_overflow`). Without a filter the value
is not calculated with, so it stays what it is (`Pipeline.nil_without_filter`).
-/

namespace TextTemplate

open Number (Fits)

/-- The value counts as the integer: it is the integer, or nil for zero, or a string that writes the
integer between blanks. -/
inductive Data.CountsAs : Data → Int → Prop
  | nil : CountsAs .nil 0
  | int (m : Int64) : CountsAs (.int m) m.toInt
  | string {text : String} {n : Int} (writes : Number.Writes (Text.trim text.toList) n)
      (fits : Fits n) : CountsAs (.string text) n

namespace Data.CountsAs

variable {data : Data} {n : Int} {m : Int64}

theorem fits (counts : data.CountsAs n) : Fits n := by
  cases counts with
  | nil => decide
  | int m => exact Number.fits_toInt m
  | string _ fits => exact fits

theorem ofInt (fits : Fits n) : (Data.int (Int64.ofInt n)).CountsAs n := by
  have counts := int (Int64.ofInt n)
  rwa [Number.toInt_ofInt fits] at counts

theorem toInt (counts : (Data.int m).CountsAs n) : m.toInt = n := by
  cases counts
  rfl

end Data.CountsAs

/-- An operation on integers that a filter carries out. -/
inductive Operation
  | plus
  | minus
  | times

namespace Operation

/-- The name that errors give the filter. -/
def name : Operation → String
  | plus => "plus"
  | minus => "minus"
  | times => "times"

def filter : Operation → Filter
  | plus => Filter.plus
  | minus => Filter.minus
  | times => Filter.times

/-- The operation among all integers. -/
def exact : Operation → Int → Int → Int
  | plus, a, b => a + b
  | minus, a, b => a - b
  | times, a, b => a * b

end Operation

/-! ## One filter -/

namespace Filter

variable {data input arg : Data} {n a b : Int}

theorem numeralOf_of_countsAs (counts : data.CountsAs n) (name : String) :
    ∃ m : Int64, numeralOf name data = .ok (.int m) ∧ m.toInt = n := by
  cases counts with
  | nil => exact ⟨0, rfl, rfl⟩
  | int m => exact ⟨m, rfl, rfl⟩
  | string writes fits =>
    refine ⟨Int64.ofInt n, ?_, Number.toInt_ofInt fits⟩
    simp [numeralOf, Number.read?_of_writes writes fits]

theorem arithmetic_integers (left : input.CountsAs a) (right : arg.CountsAs b) (name : String)
    (exact : Int → Int → Int) (rounded : Float → Float → Float) :
    arithmetic name exact rounded input [arg] =
      match Number.ofInt? (exact a b) with
      | some m => .ok (.int m)
      | none => .error (.badArgument name "integer overflow") := by
  obtain ⟨m, readLeft, rfl⟩ := numeralOf_of_countsAs left name
  obtain ⟨k, readRight, rfl⟩ := numeralOf_of_countsAs right name
  have counted : checkArity name [arg] 1 1 = .ok () := rfl
  unfold arithmetic unary
  simp only [counted, List.headD_cons, readLeft, readRight, bind, Except.bind]
  cases Number.ofInt? (exact m.toInt k.toInt) <;> rfl

end Filter

namespace Operation

variable {operation : Operation} {input arg : Data} {a b : Int}

theorem exists_arithmetic (operation : Operation) :
    ∃ rounded, operation.filter = Filter.arithmetic operation.name operation.exact rounded := by
  cases operation <;> exact ⟨_, rfl⟩

theorem filter_of_fits (left : input.CountsAs a) (right : arg.CountsAs b)
    (fits : Fits (operation.exact a b)) :
    operation.filter input [arg] = .ok (.int (Int64.ofInt (operation.exact a b))) := by
  obtain ⟨rounded, calculates⟩ := operation.exists_arithmetic
  rw [calculates, Filter.arithmetic_integers left right, Number.ofInt?_of_fits fits]

theorem filter_of_overflow (left : input.CountsAs a) (right : arg.CountsAs b)
    (overflow : ¬ Fits (operation.exact a b)) :
    operation.filter input [arg] = .error (.badArgument operation.name "integer overflow") := by
  obtain ⟨rounded, calculates⟩ := operation.exists_arithmetic
  rw [calculates, Filter.arithmetic_integers left right, Number.ofInt?_eq_none_iff.2 overflow]

end Operation

/-- The standard filters of the operations bear their names. -/
theorem Operation.standard_get? (operation : Operation) :
    FilterTable.standard.get? operation.name = some operation.filter := by
  cases operation <;> rfl

/-! ## Calculations -/

/-- An operation with the integer on its right. -/
abbrev Calculation := List (Operation × Int)

namespace Calculation

variable {start : Int} {step : Operation × Int} {front back steps : Calculation}

/-- What the operations make of an integer, one after the other. -/
def total (start : Int) (steps : Calculation) : Int :=
  steps.foldl (fun result step => step.1.exact result step.2) start

@[simp] theorem total_nil : total start [] = start := rfl

@[simp] theorem total_cons :
    total start (step :: steps) = total (step.1.exact start step.2) steps := rfl

theorem total_concat : total start (steps ++ [step]) = step.1.exact (total start steps) step.2 := by
  simp [total]

/-- No result on the way leaves the 64-bit integers. -/
def Within (start : Int) (steps : Calculation) : Prop :=
  ∀ front, front <+: steps → Fits (total start front)

theorem within_nil : Within start [] ↔ Fits start := by
  simp [Within]

theorem within_cons :
    Within start (step :: steps) ↔ Fits start ∧ Within (step.1.exact start step.2) steps := by
  constructor
  · intro within
    refine ⟨within [] List.nil_prefix, ?_⟩
    intro front leads
    exact within (step :: front) (List.cons_prefix_cons.2 ⟨rfl, leads⟩)
  · rintro ⟨fits, within⟩ front leads
    cases front with
    | nil => exact fits
    | cons first front =>
      obtain ⟨rfl, rest⟩ := List.cons_prefix_cons.1 leads
      exact within front rest

/-- A calculation that leaves the 64-bit integers does so at some step first. -/
theorem exists_overflow (fits : Fits start) (leaves : ¬ Within start steps) :
    ∃ front step back, steps = front ++ step :: back ∧ Within start front ∧
      ¬ Fits (total start (front ++ [step])) := by
  induction steps generalizing start with
  | nil => exact absurd (within_nil.2 fits) leaves
  | cons step steps ih =>
    by_cases here : Fits (step.1.exact start step.2)
    · have later : ¬ Within (step.1.exact start step.2) steps :=
        fun within => leaves (within_cons.2 ⟨fits, within⟩)
      obtain ⟨front, next, back, rfl, within, overflow⟩ := ih here later
      exact ⟨step :: front, next, back, rfl, within_cons.2 ⟨fits, within⟩, overflow⟩
    · exact ⟨[], step, steps, rfl, within_nil.2 fits, here⟩

end Calculation

namespace Pipeline

open Calculation (total Within)

variable {filters : FilterTable} {root value : Data} {store next last : DropStore}
  {call : FilterCall} {calls : List FilterCall} {steps : Calculation} {start : Int}

/-- The call is to the filter of an operation. With the drops `store`, its one argument counts as an
integer, and reading it leaves the drops `next`. -/
structure Operand (filters : FilterTable) (root : Data) (store : DropStore) (call : FilterCall)
    (step : Operation × Int) (next : DropStore) : Prop where
  known : filters.get? call.name = some step.1.filter
  counts : ∃ arg value, call.args = [arg] ∧ (arg.eval root).run store = some (value, next) ∧
    value.CountsAs step.2

/-- The calls are to filters of operations, and their arguments, read one after the other, count as
integers. -/
inductive Operands (filters : FilterTable) (root : Data) :
    DropStore → List FilterCall → Calculation → DropStore → Prop
  | nil (store : DropStore) : Operands filters root store [] [] store
  | cons {store next last : DropStore} {call : FilterCall} {step : Operation × Int}
      {calls : List FilterCall} {steps : Calculation}
      (operand : Operand filters root store call step next)
      (later : Operands filters root next calls steps last) :
      Operands filters root store (call :: calls) (step :: steps) last

/-! ## One call -/

section

variable {context : Context} {filter : Filter} {args : List Data}

theorem run_applyAll_cons (known : filters.get? call.name = some filter)
    (read : (Expr.evalAll root call.args).run context.drops = some (args, next))
    (calls : List FilterCall) :
    (applyAll filters root value (call :: calls)).run context =
      match filter value args with
      | .ok result => (applyAll filters root result calls).run { context with drops := next }
      | .error error => .error (error.orSpan call.span) { context with drops := next } := by
  have looked : Render.ofDrops (Expr.evalAll root call.args) context =
      .ok args { context with drops := next } := by
    unfold Render.ofDrops
    rw [read]
  rw [applyAll, known]
  show EStateM.bind (Render.ofDrops (Expr.evalAll root call.args)) _ context = _
  unfold EStateM.bind
  rw [looked]
  dsimp only
  cases filter value args <;> rfl

theorem run_evalAll_single {arg : Expr} {value : Data}
    (read : (arg.eval root).run store = some (value, next)) :
    (Expr.evalAll root [arg]).run store = some ([value], next) := by
  unfold Expr.evalAll
  rw [StateT.run_bind, read]
  rfl

end

/-- A call whose result fits goes on with it. -/
theorem run_applyAll_of_fits {context : Context} (counts : value.CountsAs start)
    {step : Operation × Int} (operand : Operand filters root context.drops call step next)
    (fits : Fits (step.1.exact start step.2)) (calls : List FilterCall) :
    (applyAll filters root value (call :: calls)).run context =
      (applyAll filters root (.int (Int64.ofInt (step.1.exact start step.2))) calls).run
        { context with drops := next } := by
  obtain ⟨known, arg, right, shape, read, countsRight⟩ := operand
  have args := run_evalAll_single read
  rw [← shape] at args
  rw [run_applyAll_cons known args, Operation.filter_of_fits counts countsRight fits]

/-- A call whose result does not fit is an error, whatever calls come after it. -/
theorem run_applyAll_of_overflow {context : Context} (counts : value.CountsAs start)
    {step : Operation × Int} (operand : Operand filters root context.drops call step next)
    (overflow : ¬ Fits (step.1.exact start step.2)) (calls : List FilterCall) :
    (applyAll filters root value (call :: calls)).run context =
      .error ⟨.argument step.1.name "integer overflow", some call.span⟩
        { context with drops := next } := by
  obtain ⟨known, arg, right, shape, read, countsRight⟩ := operand
  have args := run_evalAll_single read
  rw [← shape] at args
  rw [run_applyAll_cons known args, Operation.filter_of_overflow counts countsRight overflow]
  rfl

/-! ## Runs of calls -/

/-- Calls whose results fit go on with the last of them. Without a call the value stays as it is. -/
theorem run_applyAll_of_within (context : Context)
    (operands : Operands filters root store calls steps last) (here : context.drops = store)
    (counts : value.CountsAs start) (within : Within start steps) (others : List FilterCall) :
    ∃ result : Data, result.CountsAs (total start steps) ∧
      (calls = [] ∧ result = value ∨ ∃ m : Int64, result = .int m) ∧
      (applyAll filters root value (calls ++ others)).run context =
        (applyAll filters root result others).run { context with drops := last } := by
  induction operands generalizing context value start with
  | nil store =>
    subst here
    exact ⟨value, counts, .inl ⟨rfl, rfl⟩, rfl⟩
  | @cons store next last call step calls steps operand later ih =>
    subst here
    obtain ⟨-, rest⟩ := Calculation.within_cons.1 within
    have fits : Fits (step.1.exact start step.2) := rest [] List.nil_prefix
    obtain ⟨result, countsLast, isInt, run⟩ := ih { context with drops := next } rfl
      (.ofInt fits) rest
    refine ⟨result, countsLast, .inr ?_, ?_⟩
    · rcases isInt with ⟨-, rfl⟩ | isInt
      · exact ⟨_, rfl⟩
      · exact isInt
    · rw [List.cons_append, run_applyAll_of_fits counts operand fits, run]

/-- The calls and the operations up to one of the operations. -/
theorem Operands.split {front back : Calculation} {step : Operation × Int}
    (operands : Operands filters root store calls steps last)
    (shape : steps = front ++ step :: back) :
    ∃ before call others between next, calls = before ++ call :: others ∧
      Operands filters root store before front between ∧
      Operand filters root between call step next := by
  induction front generalizing store calls steps with
  | nil =>
    subst shape
    cases operands with
    | @cons _ next _ call _ calls _ operand later =>
      exact ⟨[], call, calls, store, next, rfl, .nil store, operand⟩
  | cons first front ih =>
    subst shape
    cases operands with
    | @cons _ _ _ here _ calls _ operand later =>
      obtain ⟨before, call, others, between, next, rfl, operands, last⟩ := ih later rfl
      exact ⟨here :: before, call, others, between, next, rfl, .cons operand operands, last⟩

theorem run_eval {context : Context} {source : Expr}
    (begins : (source.eval context.root).run context.drops = some (value, store))
    (calls : List FilterCall) :
    (eval filters ⟨source, calls⟩).run context =
      (applyAll filters context.root value calls).run { context with drops := store } := by
  have looked : Render.ofDrops (source.eval context.root) context =
      .ok value { context with drops := store } := by
    unfold Render.ofDrops
    rw [begins]
  show EStateM.bind (Render.ofDrops (source.eval context.root)) _ context = _
  unfold EStateM.bind
  rw [looked]
  rfl

/-- Calculating is exact or an error. A pipeline begins with a value that counts as an integer, and
each of its filters, of which there is at least one, adds, subtracts or multiplies an argument that
counts as an integer. If all results on the way fit in 64 bits, its value is the integer that the
calculation gives among all integers. Otherwise it ends with the error of the first filter whose
result does not fit, at this filter's name; neither the filters after it nor their arguments matter,
and no drop is read for them. Without a filter the value stays what it is. -/
theorem integers_exact_or_overflow (filters : FilterTable) (context : Context) (source : Expr)
    {value : Data} {store last : DropStore} {start : Int} {calls : List FilterCall}
    {steps : Calculation}
    (begins : (source.eval context.root).run context.drops = some (value, store))
    (counts : value.CountsAs start)
    (operands : Operands filters context.root store calls steps last) :
    (calls = [] → (eval filters ⟨source, calls⟩).run context =
      .ok value { context with drops := store }) ∧
    (calls ≠ [] → Within start steps → ∃ m : Int64, m.toInt = total start steps ∧
      (eval filters ⟨source, calls⟩).run context = .ok (.int m) { context with drops := last }) ∧
    (¬ Within start steps → ∃ before call others front step back between next,
      calls = before ++ call :: others ∧ steps = front ++ step :: back ∧
      Operands filters context.root store before front between ∧
      Operand filters context.root between call step next ∧
      Within start front ∧ ¬ Fits (total start (front ++ [step])) ∧
      ∀ later, (eval filters ⟨source, before ++ call :: later⟩).run context =
        .error ⟨.argument step.1.name "integer overflow", some call.span⟩
          { context with drops := next }) := by
  refine ⟨?_, ?_, ?_⟩
  · rintro rfl
    rw [run_eval begins]
    rfl
  · intro some within
    obtain ⟨result, countsLast, isInt, run⟩ := run_applyAll_of_within
      { context with drops := store } operands rfl counts within []
    rcases isInt with ⟨none, -⟩ | ⟨m, rfl⟩
    · exact absurd none some
    · refine ⟨m, countsLast.toInt, ?_⟩
      rw [run_eval begins, ← List.append_nil calls, run]
      rfl
  · intro leaves
    obtain ⟨front, step, back, shape, within, overflow⟩ :=
      Calculation.exists_overflow counts.fits leaves
    obtain ⟨before, call, others, between, next, split, passed, operand⟩ := operands.split shape
    refine ⟨before, call, others, front, step, back, between, next, split, shape, passed, operand,
      within, overflow, ?_⟩
    intro later
    obtain ⟨result, countsLast, -, run⟩ := run_applyAll_of_within
      { context with drops := store } passed rfl counts within (call :: later)
    rw [Calculation.total_concat] at overflow
    rw [run_eval begins, run, run_applyAll_of_overflow countsLast operand overflow]

/-- The square of 3037000499 is the largest square that fits; what is then added, given with a sign
and blanks, leads to the largest integer. -/
theorem integers_exact_or_overflow_largest : ∃ m : Int64,
    m.toInt = 9223372036854775807 ∧
      (eval .standard ⟨.string "3037000499", [⟨"times", [.int 3037000499], ⟨13, 18⟩⟩,
        ⟨"minus", [.nil], ⟨33, 38⟩⟩, ⟨"plus", [.string " +5928526806 "], ⟨47, 51⟩⟩]⟩).run
          (.start (.hash .empty) .empty) = .ok (.int m) (.start (.hash .empty) .empty) := by
  have squared : Operand .standard (.hash .empty) .empty ⟨"times", [.int 3037000499], ⟨13, 18⟩⟩
      (.times, 3037000499) .empty :=
    ⟨Operation.standard_get? .times, _, _, rfl, rfl, .int 3037000499⟩
  have kept : Operand .standard (.hash .empty) .empty ⟨"minus", [.nil], ⟨33, 38⟩⟩
      (.minus, 0) .empty :=
    ⟨Operation.standard_get? .minus, _, _, rfl, rfl, .nil⟩
  have filled : Operand .standard (.hash .empty) .empty
      ⟨"plus", [.string " +5928526806 "], ⟨47, 51⟩⟩ (.plus, 5928526806) .empty :=
    ⟨Operation.standard_get? .plus, _, _, rfl, rfl,
      .string (@Number.Writes.plus "5928526806".toList ⟨by simp, by simp⟩) (by decide)⟩
  have within : Within 3037000499 [(.times, 3037000499), (.minus, 0), (.plus, 5928526806)] := by
    simp only [Calculation.within_cons, Calculation.within_nil]
    decide
  have counts : (Data.string "3037000499").CountsAs 3037000499 :=
    .string (@Number.Writes.unsigned "3037000499".toList ⟨by simp, by simp⟩) (by decide)
  exact (integers_exact_or_overflow .standard (.start (.hash .empty) .empty) (.string "3037000499")
    rfl counts (.cons squared (.cons kept (.cons filled (.nil _))))).2.1 (by simp) within

/-- A pipeline without filters that begins with nil gives nil, though nil counts as zero. -/
theorem nil_without_filter :
    Data.nil.CountsAs 0 ∧ Operands .standard (.hash .empty) .empty [] [] .empty ∧ Within 0 [] ∧
      ∀ (m : Int64) (after : Context),
        (eval .standard ⟨.nil, []⟩).run (.start (.hash .empty) .empty) ≠ .ok (.int m) after := by
  refine ⟨.nil, .nil .empty, Calculation.within_nil.2 (by decide), ?_⟩
  intro m after run
  cases run

end Pipeline

end TextTemplate
