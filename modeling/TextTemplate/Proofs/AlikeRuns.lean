import TextTemplate.Proofs.AlikeReads
import TextTemplate.Proofs.Keeps
import TextTemplate.Proofs.Tree

/-!
# Two renders of alike data

What a pairing says of reading is carried along rendering: from states with alike roots and related
drops every action gives alike values in both runs, or fails in both with the same error, and leaves
such states (`Pairing.Renders`). Nothing but the root, what is read from it and the drops can differ
between the runs; texts, counters, registers and the pending interrupt are the same. The step is one
node (`Pairing.renders_node`), the run is a body (`Pairing.renders_body`).
-/

namespace TextTemplate

/-- The states differ at most in the order of hash entries and in their drops, which are related. -/
structure Context.Alike (holds : DropStore → DropStore → Prop) (first second : Context) :
    Prop where
  root : first.root.Alike second.root
  counters : first.counters = second.counters
  registers : first.registers = second.registers
  interrupt : first.interrupt = second.interrupt
  drops : holds first.drops second.drops

/-- Two runs end with related values or with the same error, both in related states. -/
inductive Render.EndTogether {α : Type} (states : Context → Context → Prop)
    (values : α → α → Prop) :
    EStateM.Result RenderError Context α → EStateM.Result RenderError Context α → Prop
  | ok {value value' : α} {last last' : Context} (here : values value value')
      (joins : states last last') : EndTogether states values (.ok value last) (.ok value' last')
  | error (error : RenderError) {last last' : Context} (joins : states last last') :
      EndTogether states values (.error error last) (.error error last')

theorem Render.EndTogether.mono {α : Type} {states wider : Context → Context → Prop}
    {values : α → α → Prop} {first second : EStateM.Result RenderError Context α}
    (ended : EndTogether states values first second)
    (weaker : ∀ {last last'}, states last last' → wider last last') :
    EndTogether wider values first second := by
  cases ended with
  | ok here joins => exact .ok here (weaker joins)
  | error error joins => exact .error error (weaker joins)

/-! ## States -/

namespace Context.Alike

variable {holds : DropStore → DropStore → Prop} {context context' : Context}

theorem withCounters (joins : Alike holds context context') {counters counters' : Counters}
    (same : counters = counters') :
    Alike holds { context with counters } { context' with counters := counters' } :=
  ⟨joins.root, same, joins.registers, joins.interrupt, joins.drops⟩

theorem withInterrupt (joins : Alike holds context context') (interrupt : Option Interrupt) :
    Alike holds { context with interrupt } { context' with interrupt } :=
  ⟨joins.root, joins.counters, joins.registers, rfl, joins.drops⟩

theorem withDrops (joins : Alike holds context context') {drops drops' : DropStore}
    (related : holds drops drops') :
    Alike holds { context with drops } { context' with drops := drops' } :=
  ⟨joins.root, joins.counters, joins.registers, joins.interrupt, related⟩

theorem withRoot (joins : Alike holds context context') {root root' : Data}
    (new : root.Alike root') :
    Alike holds { context with root } { context' with root := root' } :=
  ⟨new, joins.counters, joins.registers, joins.interrupt, joins.drops⟩

theorem register (joins : Alike holds context context') (name : String) :
    context.register name = context'.register name := by
  unfold Context.register
  rw [joins.registers]

theorem currentForloop (joins : Alike holds context context') :
    context.currentForloop = context'.currentForloop := by
  unfold Context.currentForloop
  rw [joins.register]

theorem setRegister (joins : Alike holds context context') (name : String) (data : Data) :
    Alike holds (context.setRegister name data) (context'.setRegister name data) := by
  refine ⟨joins.root, joins.counters, ?_, joins.interrupt, joins.drops⟩
  unfold Context.setRegister
  rw [joins.registers]

/-- On entering a loop both runs remember alike bindings under the same names. -/
theorem enterLoop (joins : Alike holds context context') (itemName : String) (id : DropId) :
    Alike holds (context.enterLoop itemName id).2 (context'.enterLoop itemName id).2 := by
  unfold Context.enterLoop
  rw [joins.register]
  refine (joins.setRegister _ _).withCounters ?_
  show context.counters.push = context'.counters.push
  rw [joins.counters]

/-- Alike bindings put back into alike roots give alike roots. -/
theorem restore {root root' : Data} {saved saved' : Option Data} (alike : root.Alike root')
    (same : Option.Rel Data.Alike saved saved') (key : String) :
    (Context.restore root key saved).Alike (Context.restore root' key saved') := by
  cases same with
  | none => exact alike.erase key
  | @some value value' here =>
    show ((root.set key value).toOption.getD root).Alike
      ((root'.set key value').toOption.getD root')
    rcases alike.set here key with ⟨written, written', isLeft, isRight, new⟩ | ⟨_, isLeft, isRight⟩
    · rw [isLeft, isRight]
      exact new
    · rw [isLeft, isRight]
      exact alike

/-- Leaving a loop that was entered from alike states puts back alike bindings. -/
theorem leaveLoop {entered entered' : Context} (joins : Alike holds context context')
    (before : Alike holds entered entered') (itemName : String) (id : DropId) :
    Alike holds (context.leaveLoop (entered.enterLoop itemName id).1)
      (context'.leaveLoop (entered'.enterLoop itemName id).1) := by
  have popped : Alike holds { context with counters := context.counters.pop }
      { context' with counters := context'.counters.pop } :=
    joins.withCounters (by rw [joins.counters])
  have left := popped.setRegister Context.forRegister
    (Context.popForloop (context.register Context.forRegister))
  have item := restore joins.root (before.root.binding? itemName) itemName
  have forloop := restore item (before.root.binding? Context.forloopKey) Context.forloopKey
  refine ⟨forloop, left.counters, ?_, left.interrupt, left.drops⟩
  refine left.registers.trans ?_
  rw [joins.register]
  rfl

end Context.Alike

namespace Pairing

variable {pairing : Pairing} {α β : Type} {rel : α → α → Prop} {later : β → β → Prop}

/-- The states of the two runs are alike, and their drops are related as the pairing says. -/
abbrev Joins (pairing : Pairing) : Context → Context → Prop :=
  Context.Alike pairing.holds

/-- From states that are joined the two actions come to such states, with related values or with the
same error. -/
def Renders (pairing : Pairing) (rel : α → α → Prop) (first second : Render α) : Prop :=
  ∀ context context', pairing.Joins context context' →
    Render.EndTogether pairing.Joins rel (first context) (second context')

/-! ## Actions -/

section Actions

variable {first second : Render α} {next next' : α → Render β}

theorem renders_pure {value value' : α} (here : rel value value') :
    pairing.Renders rel (pure value) (pure value') :=
  fun _ _ joins => .ok here joins

theorem renders_throw (error : RenderError) :
    pairing.Renders rel (throw error : Render α) (throw error) :=
  fun _ _ joins => .error error joins

theorem renders_get : pairing.Renders pairing.Joins (get : Render Context) get :=
  fun _ _ joins => .ok joins joins

theorem renders_bind (renders : pairing.Renders rel first second)
    (rendersNext : ∀ value value', rel value value' →
      pairing.Renders later (next value) (next' value')) :
    pairing.Renders later (first >>= next) (second >>= next') := by
  intro context context' joins
  have begun := renders context context' joins
  cases run : first context with
  | ok value last =>
    cases run' : second context' with
    | ok value' last' =>
      rw [run, run'] at begun
      rw [Render.bind_of_ok run, Render.bind_of_ok run']
      cases begun with
      | ok here joins => exact rendersNext value value' here last last' joins
    | error error' last' =>
      rw [run, run'] at begun
      cases begun
  | error error last =>
    cases run' : second context' with
    | ok value' last' =>
      rw [run, run'] at begun
      cases begun
    | error error' last' =>
      rw [run, run'] at begun
      rw [Render.bind_of_error run, Render.bind_of_error run']
      cases begun with
      | error _ joins => exact .error error joins

/-- What comes before gives the same in both runs. -/
theorem renders_bind_eq (renders : pairing.Renders Eq first second)
    (rendersNext : ∀ value, pairing.Renders later (next value) (next' value)) :
    pairing.Renders later (first >>= next) (second >>= next') :=
  renders_bind renders fun value _ same => same ▸ rendersNext value

theorem renders_ite {condition : Prop} [Decidable condition] {yes no yes' no' : Render α}
    (rendersYes : pairing.Renders rel yes yes') (rendersNo : pairing.Renders rel no no') :
    pairing.Renders rel (if condition then yes else no) (if condition then yes' else no') := by
  split
  · exact rendersYes
  · exact rendersNo

theorem renders_ofDrops {action action' : DropM α} (pairs : pairing.Pairs rel action action') :
    pairing.Renders rel (Render.ofDrops action) (Render.ofDrops action') := by
  intro context context' joins
  have begun := pairs context.drops context'.drops joins.drops
  cases run : action.run context.drops with
  | none =>
    rw [run] at begun
    rw [Render.ofDrops_none run, Render.ofDrops_none (eq_none_of_rel begun)]
    exact .error _ joins
  | some result =>
    rw [run] at begun
    obtain ⟨result', run', here, holds⟩ := exists_of_rel begun
    rw [Render.ofDrops_some run, Render.ofDrops_some run']
    exact .ok here (joins.withDrops holds)

theorem renders_ofExcept {result result' : Except RenderError α}
    (related : ResultsRelated rel result result') :
    pairing.Renders rel (Render.ofExcept result) (Render.ofExcept result') := by
  cases related with
  | ok here => exact renders_pure here
  | error error => exact renders_throw error

theorem renders_modify {change : Context → Context}
    (joins : ∀ context context', pairing.Joins context context' →
      pairing.Joins (change context) (change context')) :
    pairing.Renders Eq (modify change : Render Unit) (modify change) :=
  fun context context' before => .ok rfl (joins context context' before)

/-- A binding that is refused in one run is refused in the other. -/
theorem renders_assign {data data' : Data} (alike : data.Alike data') (name : String) :
    pairing.Renders Eq (Render.assign name data) (Render.assign name data') := by
  intro context context' joins
  unfold Render.assign Context.assign
  rcases joins.root.set alike name with ⟨root, root', isLeft, isRight, new⟩ | ⟨_, isLeft, isRight⟩
  · rw [isLeft, isRight]
    exact .ok rfl (joins.withRoot new)
  · rw [isLeft, isRight]
    exact .error _ joins

theorem renders_register (name : String) :
    pairing.Renders Eq (Render.register name) (Render.register name) :=
  renders_bind renders_get fun _ _ joins => renders_pure (joins.register name)

theorem renders_setRegister (name : String) (data : Data) :
    pairing.Renders Eq (Render.setRegister name data) (Render.setRegister name data) :=
  renders_modify fun _ _ joins => joins.setRegister name data

theorem renders_isInterrupted :
    pairing.Renders Eq Render.isInterrupted Render.isInterrupted :=
  renders_bind renders_get fun _ _ joins => renders_pure (by rw [joins.interrupt])

theorem renders_takeInterrupt :
    pairing.Renders Eq Render.takeInterrupt Render.takeInterrupt :=
  fun _ _ joins => .ok joins.interrupt (joins.withInterrupt none)

/-- A step on counters that looks at nothing else. -/
theorem renders_count (step : Counters → Int64 × Counters) :
    pairing.Renders Eq
      (Render.count fun context =>
        ((step context.counters).1, { context with counters := (step context.counters).2 }))
      (Render.count fun context =>
        ((step context.counters).1, { context with counters := (step context.counters).2 })) := by
  intro context context' joins
  unfold Render.count
  dsimp only
  rw [joins.counters]
  exact .ok rfl (joins.withCounters rfl)

theorem renders_withLoop (itemName : String) (id : DropId)
    (renders : pairing.Renders rel first second) :
    pairing.Renders rel (Render.withLoop itemName id first)
      (Render.withLoop itemName id second) := by
  intro context context' joins
  have inside := renders _ _ (joins.enterLoop itemName id)
  unfold Render.withLoop
  dsimp only
  generalize first (context.enterLoop itemName id).2 = result at inside ⊢
  generalize second (context'.enterLoop itemName id).2 = result' at inside ⊢
  cases inside with
  | ok here last => exact .ok here (last.leaveLoop joins itemName id)
  | error error last => exact .error error (last.leaveLoop joins itemName id)

end Actions

/-! ## Pipelines -/

variable {filters : FilterTable}

theorem renders_applyAll (respects : filters.Respects) {root root' value value' : Data}
    (alikeRoot : root.Alike root') (alike : value.Alike value') (calls : List FilterCall) :
    pairing.Renders Data.Alike (Pipeline.applyAllBy pairing.left filters root value calls)
      (Pipeline.applyAllBy pairing.right filters root' value' calls) := by
  induction calls generalizing value value' with
  | nil => exact renders_pure alike
  | cons call calls ih =>
    unfold Pipeline.applyAllBy
    cases known : filters.get? call.name with
    | none => exact renders_throw _
    | some filter =>
      refine renders_bind (renders_ofDrops (pairs_evalAll alikeRoot call.args))
        fun args args' alikeArgs => ?_
      have applied := respects _ filter known value value' args args' alike alikeArgs
      generalize filter value args = result at applied ⊢
      generalize filter value' args' = result' at applied ⊢
      cases applied with
      | ok here => exact ih here
      | error error => exact renders_throw _

theorem renders_pipeline (respects : filters.Respects) (pipeline : Pipeline) :
    pairing.Renders Data.Alike (pipeline.evalBy pairing.left filters)
      (pipeline.evalBy pairing.right filters) := by
  refine renders_bind renders_get fun context context' joins => ?_
  refine renders_bind (renders_ofDrops (pairs_eval joins.root pipeline.source))
    fun value value' alike => ?_
  exact renders_applyAll respects joins.root alike pipeline.calls

/-- The expression has a value that is shown alike in both runs. -/
theorem renders_shown (expr : Expr) :
    pairing.Renders Eq
      (do
        let value ← Render.ofDrops (expr.evalBy pairing.left (← get).root)
        return value.display)
      (do
        let value ← Render.ofDrops (expr.evalBy pairing.right (← get).root)
        return value.display) := by
  refine renders_bind renders_get fun _ _ joins => ?_
  refine renders_bind (renders_ofDrops (pairs_eval joins.root expr)) fun _ _ alike => ?_
  exact renders_pure alike.display

theorem renders_cycle (cycle : Cycle) :
    pairing.Renders Eq (cycle.renderBy pairing.left) (cycle.renderBy pairing.right) := by
  -- whatever the register, the value is shown in the same way
  have shows (register key : String) :
      pairing.Renders Eq
        (do
          let place ← Cycle.advance register key cycle.values.length
          let value ← Render.ofDrops
            ((cycle.values.getD place .nil).evalBy pairing.left (← get).root)
          return value.display)
        (do
          let place ← Cycle.advance register key cycle.values.length
          let value ← Render.ofDrops
            ((cycle.values.getD place .nil).evalBy pairing.right (← get).root)
          return value.display) := by
    refine renders_bind_eq ?_ fun place => renders_shown _
    refine renders_bind_eq (renders_register register) fun data => ?_
    exact renders_bind_eq (renders_setRegister register _) fun _ => renders_pure rfl
  unfold Cycle.renderBy
  cases cycle.group with
  | none =>
    simp only [pure_bind]
    exact shows Cycle.siteRegister cycle.key
  | some group =>
    simp only [pure_bind]
    refine renders_bind renders_get fun _ _ joins => ?_
    refine renders_bind (renders_ofDrops (pairs_eval joins.root group)) fun _ _ alike => ?_
    rw [alike.display]
    exact shows Cycle.groupRegister _

/-! ## Loops -/

/-- A number that is computed from a value is the same for alike values. -/
theorem renders_number {γ : Type} {read : Data → Except RenderError γ}
    (reads : ∀ {data data' : Data}, data.Alike data' → read data = read data') (expr : Expr)
    {root root' : Data} (alike : root.Alike root') :
    pairing.Renders Eq
      (do Render.ofExcept (read (← Render.ofDrops (expr.evalBy pairing.left root))))
      (do Render.ofExcept (read (← Render.ofDrops (expr.evalBy pairing.right root')))) := by
  refine renders_bind (renders_ofDrops (pairs_eval alike expr)) fun data data' here => ?_
  exact renders_ofExcept (.of_eq (fun _ => rfl) (reads here))

theorem boundOf_eq {data data' : Data} (alike : data.Alike data') :
    LoopHeader.boundOf data = LoopHeader.boundOf data' := by
  unfold LoopHeader.boundOf
  rw [alike.toInteger?, alike.typeName]

theorem modifierOf_eq (name : String) {data data' : Data} (alike : data.Alike data') :
    LoopHeader.modifierOf name data = LoopHeader.modifierOf name data' := by
  cases alike <;> rfl

theorem renders_natural (header : LoopHeader) {root root' : Data} (alike : root.Alike root') :
    pairing.Renders Sequence.Alike (header.naturalBy pairing.left root)
      (header.naturalBy pairing.right root') := by
  unfold LoopHeader.naturalBy
  cases header.source with
  | range first last =>
    dsimp only
    rw [← bind_assoc, ← bind_assoc]
    refine renders_bind_eq (renders_number boundOf_eq first alike) fun low => ?_
    rw [← bind_assoc, ← bind_assoc]
    refine renders_bind_eq (renders_number boundOf_eq last alike) fun high => ?_
    exact renders_pure ⟨rfl, fun place => .same _⟩
  | collection expr =>
    exact renders_bind (renders_ofDrops (pairs_eval alike expr)) fun _ _ here =>
      renders_pure (Sequence.alike_ofData here)

theorem renders_modifier (name : String) (expr : Option Expr) {root root' : Data}
    (alike : root.Alike root') :
    pairing.Renders Eq (LoopHeader.modifierBy pairing.left name expr root)
      (LoopHeader.modifierBy pairing.right name expr root') := by
  cases expr with
  | none => exact renders_pure rfl
  | some expr => exact renders_number (modifierOf_eq name) expr alike

theorem renders_window (header : LoopHeader) :
    pairing.Renders Sequence.Alike (header.windowBy pairing.left)
      (header.windowBy pairing.right) := by
  refine renders_bind renders_get fun context context' joins => ?_
  refine renders_bind (renders_natural header joins.root) fun natural natural' alike => ?_
  refine renders_bind_eq (renders_modifier "offset" header.offset joins.root) fun offset => ?_
  refine renders_bind_eq (renders_modifier "limit" header.limit joins.root) fun limit => ?_
  refine renders_pure ?_
  split
  · exact (alike.cut _ _).reverse
  · exact alike.cut _ _

/-- Loops of the two runs get drops with one handle. -/
theorem renders_addForloop (length : Nat) :
    pairing.Renders Eq (LoopHeader.addForloop length) (LoopHeader.addForloop length) := by
  intro context context' joins
  obtain ⟨sameId, holds⟩ := pairing.opens joins.drops ⟨length, 0, context.currentForloop⟩
  refine .ok sameId (joins.withDrops ?_)
  rw [← joins.currentForloop]
  exact holds

theorem renders_beginIteration (header : LoopHeader) (id : DropId) (index : Nat)
    {item item' : Data} (alike : item.Alike item') :
    pairing.Renders Eq (header.beginIteration id index item)
      (header.beginIteration id index item') := by
  refine renders_bind_eq (renders_modify fun _ _ joins => ?_) fun _ => ?_
  · exact joins.withDrops (pairing.moves joins.drops id index)
  · exact renders_bind_eq (renders_assign alike _) fun _ => renders_assign (.same _) _

theorem renders_iterate (header : LoopHeader) (id : DropId) {window window' : Sequence}
    (alike : window.Alike window') {body body' : Render String}
    (rendersBody : pairing.Renders Eq body body') (remaining index : Nat) (out : String) :
    pairing.Renders Eq (header.iterate id window body remaining index out)
      (header.iterate id window' body' remaining index out) := by
  induction remaining generalizing index out with
  | zero => exact renders_pure rfl
  | succ remaining ih =>
    unfold LoopHeader.iterate
    refine renders_bind_eq (renders_beginIteration header id index (alike.items index))
      fun _ => ?_
    refine renders_bind_eq rendersBody fun text => ?_
    refine renders_bind_eq renders_takeInterrupt fun signal => ?_
    split
    · exact renders_pure rfl
    · exact ih (index + 1) (out ++ text)

theorem renders_header (header : LoopHeader) {body body' otherwise otherwise' : Render String}
    (rendersBody : pairing.Renders Eq body body')
    (rendersOtherwise : pairing.Renders Eq otherwise otherwise') :
    pairing.Renders Eq (header.renderBy pairing.left body otherwise)
      (header.renderBy pairing.right body' otherwise') := by
  refine renders_bind (renders_window header) fun window window' alike => ?_
  rw [← alike.length]
  refine renders_ite rendersOtherwise ?_
  refine renders_bind_eq (renders_addForloop _) fun id => ?_
  exact renders_withLoop header.itemName id
    (renders_iterate header id alike rendersBody window.length 0 "")

/-! ## Nodes -/

theorem renders_ifChanged (text : String) :
    pairing.Renders Eq (Render.ifChanged text) (Render.ifChanged text) := by
  refine renders_bind_eq (renders_register _) fun last => ?_
  refine renders_ite (renders_pure rfl) ?_
  exact renders_bind_eq (renders_setRegister _ _) fun _ => renders_pure rfl

mutual

/-- Both runs render a node in the same way. -/
theorem renders_node (respects : filters.Respects) : (node : Node) → Node.BuiltIn [node] →
    pairing.Renders Eq (node.renderBy pairing.left filters) (node.renderBy pairing.right filters)
  | .text literal, _ => renders_pure rfl
  | .object pipeline, _ =>
    renders_bind (renders_pipeline respects pipeline) fun _ _ alike => renders_pure alike.display
  | .cond negate sections otherwise, builtIn => by
    have last := renders_otherwise respects otherwise fun body held =>
      builtIn.inner (Node.mem_bodies_of_otherwise held)
    exact renders_first respects last negate sections fun part held =>
      builtIn.inner (Node.mem_bodies_of_section held)
  | .case subject sections otherwise, builtIn => by
    have last := renders_otherwise respects otherwise fun body held =>
      builtIn.inner (Node.mem_bodies_of_otherwise held)
    refine renders_bind renders_get fun context context' joins => ?_
    refine renders_bind (renders_ofDrops (pairs_eval joins.root subject)) fun _ _ alike => ?_
    exact renders_matching respects last alike "" false sections fun part held =>
      builtIn.inner (Node.mem_bodies_of_section held)
  | .loop header body otherwise, builtIn =>
    renders_header header
      (renders_body respects "" body (builtIn.inner List.mem_cons_self))
      (renders_otherwise respects otherwise fun _ held =>
        builtIn.inner (.tail _ (Option.mem_toList.2 held)))
  | .cycle rotation, _ => renders_cycle rotation
  | .assign name pipeline, _ =>
    renders_bind (renders_pipeline respects pipeline) fun _ _ alike =>
      renders_bind_eq (renders_assign alike name) fun _ => renders_pure rfl
  | .capture name body, builtIn =>
    renders_bind_eq (renders_body respects "" body (builtIn.inner List.mem_cons_self)) fun text =>
      renders_bind_eq (renders_assign (.same _) name) fun _ => renders_pure rfl
  | .increment name, _ => renders_count fun counters =>
    (counters.value name, counters.set name (counters.value name + 1))
  | .decrement name, _ => renders_count fun counters =>
    (counters.value name - 1, counters.set name (counters.value name - 1))
  | .changed body, builtIn =>
    renders_bind_eq (renders_body respects "" body (builtIn.inner List.mem_cons_self))
      renders_ifChanged
  | .comment, _ => renders_pure rfl
  | .interrupt signal, _ =>
    renders_bind_eq (renders_modify fun _ _ joins => joins.withInterrupt (some signal)) fun _ =>
      renders_pure rfl
  | .host run body, builtIn => nomatch Node.Everywhere.here builtIn

/-- Both runs render a body in the same way. -/
theorem renders_body (respects : filters.Respects) (out : String) : (body : List Node) →
    Node.BuiltIn body → pairing.Renders Eq (Node.renderBodyBy pairing.left filters out body)
      (Node.renderBodyBy pairing.right filters out body)
  | [], _ => renders_pure rfl
  | node :: nodes, builtIn => by
    refine renders_bind_eq (renders_node respects node builtIn.head) fun text => ?_
    refine renders_bind_eq renders_isInterrupted fun interrupted => ?_
    exact renders_ite (renders_pure rfl) (renders_body respects (out ++ text) nodes builtIn.tail)

theorem renders_otherwise (respects : filters.Respects) : (otherwise : Option (List Node)) →
    (∀ body ∈ otherwise, Node.BuiltIn body) →
      pairing.Renders Eq (Node.renderOtherwiseBy pairing.left filters otherwise)
        (Node.renderOtherwiseBy pairing.right filters otherwise)
  | some body, builtIn => renders_body respects "" body (builtIn body rfl)
  | none, _ => renders_pure rfl

theorem renders_first (respects : filters.Respects) {otherwise otherwise' : Render String}
    (last : pairing.Renders Eq otherwise otherwise') (negate : Bool) :
    (sections : List (Section Condition Node)) → (∀ part ∈ sections, Node.BuiltIn part.body) →
      pairing.Renders Eq (Node.renderFirstBy pairing.left filters otherwise negate sections)
        (Node.renderFirstBy pairing.right filters otherwise' negate sections)
  | [], _ => last
  | ⟨condition, body⟩ :: sections, builtIn => by
    refine renders_bind renders_get fun context context' joins => ?_
    refine renders_bind_eq (renders_ofDrops (pairs_condition joins.root condition))
      fun holds => ?_
    refine renders_ite (renders_body respects "" body (builtIn _ List.mem_cons_self)) ?_
    exact renders_first respects last false sections fun part held => builtIn part (.tail _ held)

theorem renders_matching (respects : filters.Respects) {otherwise otherwise' : Render String}
    (last : pairing.Renders Eq otherwise otherwise') {subject subject' : Data}
    (alike : subject.Alike subject') (out : String) (matched : Bool) :
    (sections : List (Section (List Expr) Node)) → (∀ part ∈ sections, Node.BuiltIn part.body) →
      pairing.Renders Eq
        (Node.renderMatchingBy pairing.left filters otherwise subject out matched sections)
        (Node.renderMatchingBy pairing.right filters otherwise' subject' out matched sections)
  | [], _ => by
    unfold Node.renderMatchingBy
    exact renders_ite (renders_pure rfl) (renders_bind_eq last fun text => renders_pure rfl)
  | ⟨values, body⟩ :: sections, builtIn => by
    have rest (out : String) (matched : Bool) := renders_matching respects last alike out matched
      sections fun part held => builtIn part (.tail _ held)
    refine renders_bind renders_get fun context context' joins => ?_
    refine renders_bind_eq (renders_ofDrops (pairs_anyEquals joins.root alike values))
      fun found => ?_
    refine renders_ite ?_ (rest out matched)
    refine renders_bind_eq (renders_body respects "" body (builtIn _ List.mem_cons_self))
      fun text => ?_
    refine renders_bind_eq renders_isInterrupted fun interrupted => ?_
    exact renders_ite (renders_pure rfl) (rest (out ++ text) true)

end

end Pairing

end TextTemplate
