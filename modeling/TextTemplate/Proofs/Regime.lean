import TextTemplate.Proofs.Drops
import TextTemplate.Proofs.LoopScope
import TextTemplate.Proofs.Reader

/-!
# Rendering under a regime

A regime names a property of drops that reading and loops keep, and another way of reading that
agrees with `DropM.read` where all drops have the property. What it gives for a single read is
carried here to expressions and conditions (`Regime.Follows`), and to rendering actions
(`Regime.Renders`): both ways of reading render the same, the property is kept, and under a total
regime nothing fails. The recursion over expressions and nodes is done here once.
-/

namespace TextTemplate

/-- What is known of the drops while they are read. -/
structure Regime where
  /-- The other way of reading. -/
  read : Reader
  /-- What holds of every drop. -/
  holds : DropId → Drop → Prop
  /-- Loops have drops with handles from here on. -/
  base : Nat
  /-- Nothing fails. -/
  Total : Prop
  stable : Drop.Stable holds
  agrees : ∀ {store : DropStore}, store.All holds → ∀ (id : DropId) (key : String),
    (DropM.read id key).run store = (read id key).run store
  compares : Total → ∀ {store : DropStore}, store.All holds → ∀ a b : Data,
    (store.same? a b).isSome = true
  opens : ∀ {id : DropId} (length : Nat) {parent : Option DropId}, base ≤ id.index →
    (∀ outer ∈ parent, outer.index < id.index) → holds id ⟨.loop ⟨length, 0, parent⟩, .empty⟩
  moves : ∀ {id : DropId} {drop : Drop} (index : Nat), base ≤ id.index → holds id drop →
    holds id (drop.setIndex index)

namespace Regime

variable {regime : Regime} {α β : Type} {first second : DropM α} {root data key : Data}
  {name : String}

/-! ## Reading -/

/-- The two actions do the same, and leave as many drops with the property. -/
def Follows (regime : Regime) (first second : DropM α) : Prop :=
  ∀ store, store.All regime.holds → first.run store = second.run store ∧
    (regime.Total → (first.run store).isSome = true) ∧
    ∀ value last, first.run store = some (value, last) →
      last.All regime.holds ∧ last.drops.size = store.drops.size

theorem follows_pure (value : α) : regime.Follows (pure value) (pure value) := by
  refine fun store all => ⟨rfl, fun _ => rfl, ?_⟩
  rintro _ _ ⟨⟩
  exact ⟨all, rfl⟩

theorem follows_bind {next other : α → DropM β} (follows : regime.Follows first second)
    (later : ∀ value, regime.Follows (next value) (other value)) :
    regime.Follows (first >>= next) (second >>= other) := by
  intro store all
  obtain ⟨same, defined, kept⟩ := follows store all
  rw [StateT.run_bind, StateT.run_bind, ← same]
  cases run : first.run store with
  | none =>
    refine ⟨rfl, fun total => ?_, nofun⟩
    rw [run] at defined
    cases defined total
  | some result =>
    obtain ⟨allMiddle, size⟩ := kept result.1 result.2 run
    obtain ⟨sameNext, definedNext, keptNext⟩ := later result.1 result.2 allMiddle
    refine ⟨sameNext, definedNext, fun value last runNext => ?_⟩
    rw [← size]
    exact keptNext value last runNext

theorem follows_ite {condition : Prop} [Decidable condition] {yes no yesBy noBy : DropM α}
    (followsYes : regime.Follows yes yesBy) (followsNo : regime.Follows no noBy) :
    regime.Follows (if condition then yes else no) (if condition then yesBy else noBy) := by
  split
  · exact followsYes
  · exact followsNo

theorem follows_read (id : DropId) (key : String) :
    regime.Follows (DropM.read id key) (regime.read id key) := by
  refine fun store all => ⟨regime.agrees all id key, fun total => ?_, fun value last run =>
    all.read regime.stable run⟩
  cases found : store.get? id with
  | none =>
    rw [DropM.read_missing found]
    rfl
  | some drop =>
    rw [DropM.read_eq found]
    cases drop.cache.get? key with
    | none => rfl
    | some cached =>
      dsimp only
      rw [Option.isSome_map]
      exact regime.compares total (all.load regime.stable) cached (drop.source.load key).1

theorem follows_same (a b : Data) : regime.Follows (DropM.same a b) (DropM.same a b) := by
  intro store all
  rw [DropM.same_run, Option.isSome_map]
  refine ⟨rfl, fun total => regime.compares total all a b, fun value last compared => ?_⟩
  obtain ⟨same, -, ⟨⟩⟩ := Option.map_eq_some_iff.1 compared
  exact ⟨all, rfl⟩

theorem follows_member (data : Data) (name : String) :
    regime.Follows (data.member name) (data.memberBy regime.read name) := by
  cases data with
  | drop id => exact follows_read id name
  | hash entries =>
    unfold Data.memberBy Data.member
    dsimp only
    cases entries.get? name with
    | none => exact follows_pure _
    | some value => exact follows_pure _
  | _ => exact follows_pure _

theorem follows_index (data key : Data) :
    regime.Follows (data.index key) (data.indexBy regime.read key) := by
  cases key with
  | int n =>
    cases data with
    | array items => exact follows_pure _
    | _ =>
      unfold Data.index Data.indexBy
      exact follows_member _ _
  | string name => exact follows_member data name
  | _ => exact follows_pure _

theorem follows_anySame (needle : Data) (items : List Data) :
    regime.Follows (Data.anySame needle items) (Data.anySame needle items) := by
  induction items with
  | nil => exact follows_pure _
  | cons item items ih =>
    exact follows_bind (follows_same item needle) fun _ => follows_ite (follows_pure _) ih

theorem follows_containsData (data needle : Data) :
    regime.Follows (data.containsData needle) (data.containsData needle) := by
  cases data with
  | array items => exact follows_anySame needle items
  | _ => exact follows_pure _

theorem follows_test (comparison : Comparison) (left right : Data) :
    regime.Follows (comparison.test left right) (comparison.test left right) := by
  cases comparison with
  | eq => exact follows_same left right
  | ne => exact follows_bind (follows_same left right) fun _ => follows_pure _
  | contains => exact follows_containsData left right
  | _ => exact follows_pure _

mutual

theorem follows_eval (root : Data) :
    (expr : Expr) → regime.Follows (expr.eval root) (expr.evalBy regime.read root)
  | .lookup steps => follows_walk root root steps
  | .nil | .bool _ | .int _ | .float _ | .string _ => follows_pure _

theorem follows_walk (root data : Data) : (steps : List Step) →
    regime.Follows (Step.walk root data steps) (Step.walkBy regime.read root data steps)
  | [] => follows_pure data
  | .key name :: rest =>
    follows_bind (follows_member data name) fun data => follows_walk root data rest
  | .index key :: rest =>
    follows_bind (follows_eval root key) fun key =>
      follows_bind (follows_index data key) fun data => follows_walk root data rest

end

theorem follows_evalAll (root : Data) (exprs : List Expr) :
    regime.Follows (Expr.evalAll root exprs) (Expr.evalAllBy regime.read root exprs) := by
  induction exprs with
  | nil => exact follows_pure _
  | cons expr exprs ih =>
    exact follows_bind (follows_eval root expr) fun _ => follows_bind ih fun _ => follows_pure _

theorem follows_anyEquals (root subject : Data) (exprs : List Expr) :
    regime.Follows (Expr.anyEquals root subject exprs)
      (Expr.anyEqualsBy regime.read root subject exprs) := by
  induction exprs with
  | nil => exact follows_pure _
  | cons expr exprs ih =>
    exact follows_bind (follows_eval root expr) fun value =>
      follows_bind (follows_same value subject) fun _ => follows_ite (follows_pure _) ih

theorem follows_condition (root : Data) (condition : Condition) :
    regime.Follows (condition.eval root) (condition.evalBy regime.read root) := by
  induction condition with
  | truthy expr => exact follows_bind (follows_eval root expr) fun _ => follows_pure _
  | compare left comparison right =>
    exact follows_bind (follows_eval root left) fun left =>
      follows_bind (follows_eval root right) fun right => follows_test comparison left right
  | and left right ihLeft ihRight =>
    exact follows_bind ihLeft fun _ => follows_ite ihRight (follows_pure _)
  | or left right ihLeft ihRight =>
    exact follows_bind ihLeft fun _ => follows_ite (follows_pure _) ihRight

/-! ## Rendering actions -/

/-- What holds of the state of a render. -/
structure Upholds (regime : Regime) (context : Context) : Prop where
  all : context.drops.All regime.holds
  base : regime.base ≤ context.drops.drops.size
  /-- The drops of the running loops are there. -/
  live : ∀ id, Data.drop id ∈ context.forloopStack → id.index < context.drops.drops.size
  root : regime.Total → ∃ entries, context.root = .hash entries

/-- From this state the two actions do the same and lead to a state of which the same holds. -/
structure RendersAt (regime : Regime) (first second : Render α) (context : Context) : Prop where
  same : first context = second context
  upholds : regime.Upholds (Render.stateAfter first context)
  defined : regime.Total → ∃ value last, first context = .ok value last

/-- The two actions do the same, and keep what holds of the state. -/
def Renders (regime : Regime) (first second : Render α) : Prop :=
  ∀ context, regime.Upholds context → regime.RendersAt first second context

variable {action other : Render α}

theorem renders_pure (value : α) : regime.Renders (pure value) (pure value) :=
  fun context upholds => ⟨rfl, upholds, fun _ => ⟨value, context, rfl⟩⟩

theorem renders_get : regime.Renders (get : Render Context) get :=
  fun context upholds => ⟨rfl, upholds, fun _ => ⟨context, context, rfl⟩⟩

theorem renders_throw (partly : ¬ regime.Total) (error : RenderError) :
    regime.Renders (throw error : Render α) (throw error) :=
  fun _ upholds => ⟨rfl, upholds, fun total => absurd total partly⟩

theorem renders_bind {next later : α → Render β} (renders : regime.Renders action other)
    (rendersNext : ∀ value, regime.Renders (next value) (later value)) :
    regime.Renders (action >>= next) (other >>= later) := by
  intro context upholds
  obtain ⟨same, kept, defined⟩ := renders context upholds
  cases run : action context with
  | error error middle =>
    have ran : (action >>= next) context = .error error middle := Render.bind_of_error run
    have ranBy : (other >>= later) context = .error error middle :=
      Render.bind_of_error (same.symm.trans run)
    rw [Render.stateAfter_error run] at kept
    refine ⟨ran.trans ranBy.symm, ?_, fun total => ?_⟩
    · rwa [Render.stateAfter_error ran]
    · obtain ⟨_, _, succeeds⟩ := defined total
      rw [run] at succeeds
      cases succeeds
  | ok value middle =>
    have ran : (action >>= next) context = next value middle := Render.bind_of_ok run
    have ranBy : (other >>= later) context = later value middle :=
      Render.bind_of_ok (same.symm.trans run)
    rw [Render.stateAfter_ok run] at kept
    obtain ⟨sameNext, keptNext, definedNext⟩ := rendersNext value middle kept
    refine ⟨ran.trans (sameNext.trans ranBy.symm), ?_, fun total => ?_⟩
    · rw [Render.stateAfter_bind, run]
      exact keptNext
    · rw [ran]
      exact definedNext total

theorem renders_ite {condition : Prop} [Decidable condition] {yes no yesBy noBy : Render α}
    (rendersYes : regime.Renders yes yesBy) (rendersNo : regime.Renders no noBy) :
    regime.Renders (if condition then yes else no) (if condition then yesBy else noBy) := by
  split
  · exact rendersYes
  · exact rendersNo

theorem renders_ofDrops (follows : regime.Follows first second) :
    regime.Renders (Render.ofDrops first) (Render.ofDrops second) := by
  intro context upholds
  obtain ⟨same, defined, kept⟩ := follows context.drops upholds.all
  have sameRun : Render.ofDrops first context = Render.ofDrops second context := by
    unfold Render.ofDrops
    rw [same]
  cases run : first.run context.drops with
  | none =>
    refine ⟨sameRun, ?_, fun total => ?_⟩
    · rw [Render.stateAfter_error (Render.ofDrops_none run)]
      exact upholds
    · have found := defined total
      rw [run] at found
      cases found
  | some result =>
    obtain ⟨all, size⟩ := kept result.1 result.2 run
    refine ⟨sameRun, ?_, fun _ => ⟨_, _, Render.ofDrops_some run⟩⟩
    rw [Render.stateAfter_ok (Render.ofDrops_some run)]
    refine ⟨all, ?_, ?_, upholds.root⟩
    · rw [size]
      exact upholds.base
    · rw [size]
      exact upholds.live

/-- A total regime has a hash for a root, so binding a key does not fail. -/
theorem renders_assign (name : String) (data : Data) :
    regime.Renders (Render.assign name data) (Render.assign name data) := by
  intro context upholds
  refine ⟨rfl, ?_, fun total => ?_⟩
  · unfold Render.stateAfter Render.assign Context.assign
    cases written : context.root.set name data with
    | error error => exact upholds
    | ok root =>
      refine ⟨upholds.all, upholds.base, upholds.live, fun total => ?_⟩
      obtain ⟨entries, isHash⟩ := upholds.root total
      rw [isHash] at written
      cases written
      exact ⟨_, rfl⟩
  · obtain ⟨entries, isHash⟩ := upholds.root total
    unfold Render.assign Context.assign
    rw [isHash]
    exact ⟨_, _, rfl⟩

theorem renders_setRegister {name : String} (free : name ≠ Context.forRegister) (data : Data) :
    regime.Renders (Render.setRegister name data) (Render.setRegister name data) := by
  intro context upholds
  refine ⟨rfl, ⟨upholds.all, upholds.base, ?_, upholds.root⟩, fun _ => ⟨_, _, rfl⟩⟩
  show ∀ id, _ ∈ (context.setRegister name data).forloopStack → _
  rw [Context.forloopStack_setRegister data free]
  exact upholds.live

/-- Changing counters or the pending interrupt keeps what holds of the state. -/
theorem Upholds.aside {context : Context} (upholds : regime.Upholds context) (counters : Counters)
    (interrupt : Option Interrupt) :
    regime.Upholds { context with counters, interrupt } :=
  ⟨upholds.all, upholds.base, upholds.live, upholds.root⟩

theorem Upholds.current {context : Context} (upholds : regime.Upholds context) :
    ∀ outer ∈ context.currentForloop, outer.index < context.drops.drops.size := by
  intro outer isOuter
  rw [Context.currentForloop_eq] at isOuter
  split at isOuter
  · next last =>
    cases isOuter
    exact upholds.live outer (List.mem_of_getLast? last)
  · cases isOuter

theorem Upholds.leave {context : Context} (upholds : regime.Upholds context)
    (scope : LoopScope) : regime.Upholds (context.leaveLoop scope) := by
  refine ⟨upholds.all, upholds.base, ?_, fun total => ?_⟩
  · rw [Context.forloopStack_leaveLoop]
    exact fun id member => upholds.live id (List.dropLast_subset _ member)
  · obtain ⟨entries, isHash⟩ := upholds.root total
    exact context.staysHash_leaveLoop scope entries isHash

theorem RendersAt.withLoop {itemName : String} {id : DropId} {context : Context}
    (inside : regime.RendersAt action other (context.enterLoop itemName id).2) :
    regime.RendersAt (Render.withLoop itemName id action) (Render.withLoop itemName id other)
      context := by
  refine ⟨?_, ?_, fun total => ?_⟩
  · have same := inside.same
    cases run : action (context.enterLoop itemName id).2 with
    | ok value last =>
      rw [Render.withLoop_ok run, Render.withLoop_ok (same.symm.trans run)]
    | error error last =>
      rw [Render.withLoop_error run, Render.withLoop_error (same.symm.trans run)]
  · rw [Render.stateAfter_withLoop]
    exact inside.upholds.leave _
  · obtain ⟨value, last, run⟩ := inside.defined total
    exact ⟨value, _, Render.withLoop_ok run⟩

/-- A loop gets a new drop, is entered with it and left. -/
theorem renders_loop (length : Nat) (itemName : String) {inside insideBy : DropId → Render α}
    (renders : ∀ id : DropId, regime.base ≤ id.index → regime.Renders (inside id) (insideBy id)) :
    regime.Renders
      (do
        let id ← LoopHeader.addForloop length
        Render.withLoop itemName id (inside id))
      (do
        let id ← LoopHeader.addForloop length
        Render.withLoop itemName id (insideBy id)) := by
  intro context upholds
  let source : DropSource := .loop ⟨length, 0, context.currentForloop⟩
  let id := (context.drops.add source).1
  let added : Context := { context with drops := (context.drops.add source).2 }
  have size : (context.drops.add source).2.drops.size = context.drops.drops.size + 1 :=
    DropStore.size_add
  have entered : regime.Upholds (added.enterLoop itemName id).2 := by
    refine ⟨upholds.all.add (regime.opens length upholds.base upholds.current), ?_, ?_,
      upholds.root⟩
    · show regime.base ≤ (context.drops.add source).2.drops.size
      rw [size]
      exact Nat.le_succ_of_le upholds.base
    · intro outer member
      show outer.index < (context.drops.add source).2.drops.size
      rw [size]
      rw [Context.forloopStack_enterLoop] at member
      rcases List.mem_append.1 member with before | new
      · exact Nat.lt_succ_of_lt (upholds.live outer before)
      · cases List.mem_singleton.1 new
        exact Nat.lt_succ_self _
  -- the new drop and the entry into the loop come first in both actions
  have inLoop := (renders id upholds.base _ entered).withLoop
  exact ⟨inLoop.same, inLoop.upholds, inLoop.defined⟩

theorem renders_beginIteration (header : LoopHeader) {id : DropId}
    (above : regime.base ≤ id.index) (index : Nat) (item : Data) :
    regime.Renders (header.beginIteration id index item) (header.beginIteration id index item) := by
  refine renders_bind ?_ fun _ => renders_bind (renders_assign _ _) fun _ => renders_assign _ _
  intro context upholds
  have size : (context.drops.setLoopIndex id index).drops.size = context.drops.drops.size :=
    DropStore.size_update
  refine ⟨rfl, ⟨?_, ?_, ?_, upholds.root⟩, fun _ => ⟨_, _, rfl⟩⟩
  · exact upholds.all.update fun _ _ kept => regime.moves index above kept
  · exact Nat.le_trans upholds.base (Nat.le_of_eq size.symm)
  · exact fun outer member => Nat.lt_of_lt_of_eq (upholds.live outer member) size.symm

theorem renders_iterate (header : LoopHeader) {id : DropId} (above : regime.base ≤ id.index)
    (window : Sequence) {body bodyBy : Render String} (renders : regime.Renders body bodyBy)
    (remaining index : Nat) (out : String) :
    regime.Renders (header.iterate id window body remaining index out)
      (header.iterate id window bodyBy remaining index out) := by
  induction remaining generalizing index out with
  | zero => exact renders_pure out
  | succ remaining ih =>
    unfold LoopHeader.iterate
    refine renders_bind (renders_beginIteration header above index _) fun _ => ?_
    refine renders_bind renders fun text => ?_
    have taken : regime.Renders Render.takeInterrupt Render.takeInterrupt :=
      fun context upholds => ⟨rfl, upholds.aside _ _, fun _ => ⟨_, _, rfl⟩⟩
    refine renders_bind taken fun signal => ?_
    cases signal with
    | none => exact ih (index + 1) (out ++ text)
    | some interrupt =>
      cases interrupt with
      | breakLoop => exact renders_pure _
      | continueLoop => exact ih (index + 1) (out ++ text)

end Regime

/-! ## Nodes -/

/-- The bounds, the offset and the limit of the loop are integer literals, those that there are. -/
structure LoopHeader.Literal (header : LoopHeader) : Prop where
  bounds : ∀ first last, header.source = .range first last →
    (∃ n, first = .int n) ∧ ∃ n, last = .int n
  offset : ∀ expr, header.offset = some expr → ∃ n, expr = .int n
  limit : ∀ expr, header.limit = some expr → ∃ n, expr = .int n

/-- The node calls no filter, and what a loop computes numbers from are integer literals. -/
def Node.Literal : Node → Prop
  | .object pipeline | .assign _ pipeline => pipeline.calls = []
  | .loop header _ _ => header.Literal
  | _ => True

namespace Regime

variable {regime : Regime}

/-- The body has no node of the host, and is literal under a total regime. -/
def Fits (regime : Regime) : List Node → Prop :=
  Node.Everywhere fun node => node.isHost = false ∧ (regime.Total → node.Literal)

theorem fits_of_builtIn {body : List Node} (partly : ¬ regime.Total) (builtIn : Node.BuiltIn body) :
    regime.Fits body :=
  fun node within => ⟨builtIn node within, fun total => absurd total partly⟩

/-- A value that goes through filters. A total regime has no filters. -/
theorem renders_applyAll (filters : FilterTable) (root value : Data) (calls : List FilterCall)
    (plain : regime.Total → calls = []) :
    regime.Renders (Pipeline.applyAll filters root value calls)
      (Pipeline.applyAllBy regime.read filters root value calls) := by
  induction calls generalizing value with
  | nil => exact renders_pure value
  | cons call calls ih =>
    have partly : ¬ regime.Total := fun total => nomatch plain total
    unfold Pipeline.applyAll Pipeline.applyAllBy
    cases filters.get? call.name with
    | none => exact renders_throw partly _
    | some filter =>
      refine renders_bind (renders_ofDrops (follows_evalAll root call.args)) fun args => ?_
      cases filter value args with
      | ok value => exact ih value fun total => absurd total partly
      | error error => exact renders_throw partly _

theorem renders_pipeline (filters : FilterTable) (pipeline : Pipeline)
    (plain : regime.Total → pipeline.calls = []) :
    regime.Renders (pipeline.eval filters) (pipeline.evalBy regime.read filters) := by
  refine renders_bind renders_get fun context => ?_
  refine renders_bind (renders_ofDrops (follows_eval context.root pipeline.source)) fun value => ?_
  exact renders_applyAll filters context.root value pipeline.calls plain

/-- A number that is computed from a value. Under a total regime it is one. -/
theorem renders_number {γ : Type} (read : Data → Except RenderError γ)
    (reads : ∀ n, ∃ value, read (.int n) = .ok value) (expr : Expr) (root : Data)
    (literal : regime.Total → ∃ n, expr = .int n) :
    regime.Renders (do Render.ofExcept (read (← Render.ofDrops (expr.eval root))))
      (do Render.ofExcept (read (← Render.ofDrops (expr.evalBy regime.read root)))) := by
  by_cases total : regime.Total
  · obtain ⟨n, rfl⟩ := literal total
    obtain ⟨value, isRead⟩ := reads n
    show regime.Renders (Render.ofExcept (read (.int n))) (Render.ofExcept (read (.int n)))
    rw [isRead]
    exact renders_pure value
  · refine renders_bind (renders_ofDrops (follows_eval root expr)) fun data => ?_
    cases read data with
    | ok value => exact renders_pure value
    | error error => exact renders_throw total error

theorem renders_natural (header : LoopHeader) (root : Data)
    (literal : regime.Total → header.Literal) :
    regime.Renders (header.natural root) (header.naturalBy regime.read root) := by
  have bound (n : Int64) : ∃ value, LoopHeader.boundOf (.int n) = .ok value := ⟨n, rfl⟩
  unfold LoopHeader.natural LoopHeader.naturalBy
  cases source : header.source with
  | collection expr =>
    exact renders_bind (renders_ofDrops (follows_eval root expr)) fun _ => renders_pure _
  | range first last =>
    have low := renders_number LoopHeader.boundOf bound first root fun total =>
      ((literal total).bounds first last source).1
    have high := renders_number LoopHeader.boundOf bound last root fun total =>
      ((literal total).bounds first last source).2
    dsimp only
    rw [← bind_assoc, ← bind_assoc]
    refine renders_bind low fun low => ?_
    rw [← bind_assoc, ← bind_assoc]
    exact renders_bind high fun high => renders_pure _

theorem renders_modifier (name : String) (expr : Option Expr) (root : Data)
    (literal : regime.Total → ∀ given, expr = some given → ∃ n, given = .int n) :
    regime.Renders (LoopHeader.modifier name expr root)
      (LoopHeader.modifierBy regime.read name expr root) := by
  cases expr with
  | none => exact renders_pure none
  | some expr =>
    exact renders_number (LoopHeader.modifierOf name) (fun n => ⟨_, rfl⟩) expr root fun total =>
      literal total expr rfl

theorem renders_window (header : LoopHeader) (literal : regime.Total → header.Literal) :
    regime.Renders header.window (header.windowBy regime.read) := by
  refine renders_bind renders_get fun context => ?_
  refine renders_bind (renders_natural header context.root literal) fun natural => ?_
  refine renders_bind (renders_modifier "offset" header.offset context.root fun total =>
    (literal total).offset) fun offset => ?_
  refine renders_bind (renders_modifier "limit" header.limit context.root fun total =>
    (literal total).limit) fun limit => ?_
  exact renders_pure _

theorem renders_header (header : LoopHeader) {body bodyBy otherwise otherwiseBy : Render String}
    (literal : regime.Total → header.Literal) (rendersBody : regime.Renders body bodyBy)
    (rendersOtherwise : regime.Renders otherwise otherwiseBy) :
    regime.Renders (header.render body otherwise)
      (header.renderBy regime.read bodyBy otherwiseBy) := by
  refine renders_bind (renders_window header literal) fun window => ?_
  refine renders_ite rendersOtherwise ?_
  exact renders_loop window.length header.itemName fun id above =>
    renders_iterate header above window rendersBody window.length 0 ""

theorem renders_register (name : String) :
    regime.Renders (Render.register name) (Render.register name) :=
  renders_bind renders_get fun _ => renders_pure _

theorem renders_isInterrupted :
    regime.Renders Render.isInterrupted Render.isInterrupted :=
  renders_bind renders_get fun _ => renders_pure _

theorem renders_count (step : Context → Int64 × Context)
    (counts : ∀ context, ∃ counters, (step context).2 = { context with counters }) :
    regime.Renders (Render.count step) (Render.count step) := by
  intro context upholds
  refine ⟨rfl, ?_, fun _ => ⟨_, _, rfl⟩⟩
  obtain ⟨counters, same⟩ := counts context
  show regime.Upholds (step context).2
  rw [same]
  exact upholds.aside counters context.interrupt

theorem renders_cycle (cycle : Cycle) :
    regime.Renders cycle.render (cycle.renderBy regime.read) := by
  -- whatever the register, the value is shown in the same way
  have shows (register key : String) (free : register ≠ Context.forRegister) :
      regime.Renders
        (do
          let place ← Cycle.advance register key cycle.values.length
          let value ← Render.ofDrops ((cycle.values.getD place .nil).eval (← get).root)
          return value.display)
        (do
          let place ← Cycle.advance register key cycle.values.length
          let value ← Render.ofDrops
            ((cycle.values.getD place .nil).evalBy regime.read (← get).root)
          return value.display) := by
    refine renders_bind ?_ fun place => ?_
    · refine renders_bind (renders_register register) fun data => ?_
      exact renders_bind (renders_setRegister free _) fun _ => renders_pure _
    · refine renders_bind renders_get fun context => ?_
      exact renders_bind (renders_ofDrops (follows_eval context.root _)) fun _ => renders_pure _
  unfold Cycle.render Cycle.renderBy
  cases cycle.group with
  | none =>
    simp only [pure_bind]
    exact shows Cycle.siteRegister cycle.key (by decide)
  | some group =>
    simp only [pure_bind]
    refine renders_bind renders_get fun context => ?_
    refine renders_bind (renders_ofDrops (follows_eval context.root group)) fun name => ?_
    exact shows Cycle.groupRegister name.display (by decide)

theorem renders_ifChanged (text : String) :
    regime.Renders (Render.ifChanged text) (Render.ifChanged text) := by
  have free : changedRegister ≠ Context.forRegister := by decide
  refine renders_bind (renders_register _) fun last => ?_
  refine renders_ite (renders_pure "") ?_
  exact renders_bind (renders_setRegister free _) fun _ => renders_pure _

mutual

theorem renders_node (filters : FilterTable) : (node : Node) → regime.Fits [node] →
    regime.Renders (node.render filters) (node.renderBy regime.read filters)
  | .text literal, _ => renders_pure literal
  | .object pipeline, fits =>
    renders_bind (renders_pipeline filters pipeline fits.here.2) fun _ => renders_pure _
  | .cond negate sections otherwise, fits => by
    have last := renders_otherwise filters otherwise fun body held =>
      fits.inner (Node.mem_bodies_of_otherwise held)
    exact renders_first filters last negate sections fun part held =>
      fits.inner (Node.mem_bodies_of_section held)
  | .case subject sections otherwise, fits => by
    have last := renders_otherwise filters otherwise fun body held =>
      fits.inner (Node.mem_bodies_of_otherwise held)
    refine renders_bind renders_get fun context => ?_
    refine renders_bind (renders_ofDrops (follows_eval context.root subject)) fun value => ?_
    exact renders_matching filters last value "" false sections fun part held =>
      fits.inner (Node.mem_bodies_of_section held)
  | .loop header body otherwise, fits =>
    renders_header header fits.here.2
      (renders_body filters "" body (fits.inner List.mem_cons_self))
      (renders_otherwise filters otherwise fun _ held =>
        fits.inner (.tail _ (Option.mem_toList.2 held)))
  | .cycle rotation, _ => renders_cycle rotation
  | .assign name pipeline, fits =>
    renders_bind (renders_pipeline filters pipeline fits.here.2) fun data =>
      renders_bind (renders_assign name data) fun _ => renders_pure ""
  | .capture name body, fits =>
    renders_bind (renders_body filters "" body (fits.inner List.mem_cons_self)) fun text =>
      renders_bind (renders_assign name (.string text)) fun _ => renders_pure ""
  | .increment name, _ => renders_count (fun context => context.increment name) fun context =>
    ⟨context.counters.set name (context.counters.value name + 1), rfl⟩
  | .decrement name, _ => renders_count (fun context => context.decrement name) fun context =>
    ⟨context.counters.set name (context.counters.value name - 1), rfl⟩
  | .changed body, fits =>
    renders_bind (renders_body filters "" body (fits.inner List.mem_cons_self)) renders_ifChanged
  | .comment, _ => renders_pure ""
  | .interrupt signal, _ => by
    refine renders_bind (fun context upholds => ?_) fun _ => renders_pure ""
    exact ⟨rfl, upholds.aside context.counters (some signal), fun _ => ⟨_, _, rfl⟩⟩
  | .host run body, fits => nomatch fits.here.1

/-- Both ways of reading render a body in the same way. -/
theorem renders_body (filters : FilterTable) (out : String) : (body : List Node) →
    regime.Fits body → regime.Renders (Node.renderBody filters out body)
      (Node.renderBodyBy regime.read filters out body)
  | [], _ => renders_pure out
  | node :: nodes, fits => by
    refine renders_bind (renders_node filters node fits.head) fun text => ?_
    refine renders_bind renders_isInterrupted fun interrupted => ?_
    exact renders_ite (renders_pure _) (renders_body filters (out ++ text) nodes fits.tail)

theorem renders_otherwise (filters : FilterTable) : (otherwise : Option (List Node)) →
    (∀ body ∈ otherwise, regime.Fits body) →
      regime.Renders (Node.renderOtherwise filters otherwise)
        (Node.renderOtherwiseBy regime.read filters otherwise)
  | some body, fits => renders_body filters "" body (fits body rfl)
  | none, _ => renders_pure ""

theorem renders_first (filters : FilterTable) {otherwise otherwiseBy : Render String}
    (last : regime.Renders otherwise otherwiseBy) (negate : Bool) :
    (sections : List (Section Condition Node)) → (∀ part ∈ sections, regime.Fits part.body) →
      regime.Renders (Node.renderFirst filters otherwise negate sections)
        (Node.renderFirstBy regime.read filters otherwiseBy negate sections)
  | [], _ => last
  | ⟨condition, body⟩ :: sections, fits => by
    refine renders_bind renders_get fun context => ?_
    refine renders_bind (renders_ofDrops (follows_condition context.root condition))
      fun holds => ?_
    refine renders_ite (renders_body filters "" body (fits _ List.mem_cons_self)) ?_
    exact renders_first filters last false sections fun part held => fits part (.tail _ held)

theorem renders_matching (filters : FilterTable) {otherwise otherwiseBy : Render String}
    (last : regime.Renders otherwise otherwiseBy) (subject : Data) (out : String)
    (matched : Bool) :
    (sections : List (Section (List Expr) Node)) → (∀ part ∈ sections, regime.Fits part.body) →
      regime.Renders (Node.renderMatching filters otherwise subject out matched sections)
        (Node.renderMatchingBy regime.read filters otherwiseBy subject out matched sections)
  | [], _ => by
    unfold Node.renderMatching Node.renderMatchingBy
    exact renders_ite (renders_pure out) (renders_bind last fun text => renders_pure _)
  | ⟨values, body⟩ :: sections, fits => by
    have rest (out : String) (matched : Bool) := renders_matching filters last subject out matched
      sections fun part held => fits part (.tail _ held)
    refine renders_bind renders_get fun context => ?_
    refine renders_bind (renders_ofDrops (follows_anyEquals context.root subject values))
      fun found => ?_
    refine renders_ite ?_ (rest out matched)
    refine renders_bind (renders_body filters "" body (fits _ List.mem_cons_self)) fun text => ?_
    refine renders_bind renders_isInterrupted fun interrupted => ?_
    exact renders_ite (renders_pure _) (rest (out ++ text) true)

end

end Regime

/-- Nothing is asked of the drops, and they are read as ever. -/
def Regime.plain : Regime where
  read := DropM.read
  holds _ _ := True
  base := 0
  Total := False
  stable := ⟨fun _ _ => trivial, fun _ _ => trivial⟩
  agrees _ _ _ := rfl
  compares := False.elim
  opens _ _ _ _ := trivial
  moves _ _ _ := trivial

/-- With `DropM.read` for the way of reading, nodes render as they do. -/
theorem Node.renderBodyBy_read (filters : FilterTable) (tree : List Node) (builtIn : BuiltIn tree)
    (root : Data) (store : DropStore) :
    (renderBodyBy DropM.read filters "" tree).run (.start root store) =
      (renderBody filters "" tree).run (.start root store) := by
  have fits : Regime.plain.Fits tree := Regime.fits_of_builtIn id builtIn
  have upholds : Regime.plain.Upholds (.start root store) :=
    ⟨fun _ _ _ => trivial, Nat.zero_le _, nofun, False.elim⟩
  exact (Regime.renders_body filters "" tree fits _ upholds).same.symm

end TextTemplate
