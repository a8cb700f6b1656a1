import TextTemplate.Proofs.Equality
import TextTemplate.Proofs.Integers
import TextTemplate.Proofs.Regime

/-!
# What loops tell about themselves

A loop's drop tells which iteration the loop is in, and which loop is around it. Its cache may hold
answers of earlier iterations, but these never hide the answer of this one (`DropStore.Tells.read`).
Reading, rendering nodes and entering further loops leave what a drop tells (`DropStore.Retells`),
so at every point of a render the drops of the running loops tell the iterations that the loops are
in, and lead from each loop to the one around it (`Node.forloop_tells_position`).
-/

namespace TextTemplate

/-! ## The drop of one loop -/

namespace DropStore

/-- The drop behind the handle is that of a loop in this state, and it has cached nothing but what
the loop can answer in some iteration. -/
def Tells (store : DropStore) (id : DropId) (state : LoopState) : Prop :=
  ∃ drop, store.get? id = some drop ∧ drop.source = .loop state ∧ drop.Honest

/-- What drops of loops told before they tell still. -/
def Retells (before after : DropStore) : Prop :=
  ∀ id state, before.Tells id state → after.Tells id state

variable {store before after : DropStore} {id other : DropId} {state : LoopState}

theorem Tells.lt_size (tells : store.Tells id state) : id.index < store.drops.size := by
  obtain ⟨drop, found, -⟩ := tells
  exact lt_size_of_get? found

/-- Whatever was read in earlier iterations, a read answers for the iteration that the loop is
in. -/
theorem Tells.read (tells : store.Tells id state) (key : String) :
    ∃ last, (DropM.read id key).run store = some (state.answer key, last) := by
  obtain ⟨⟨source, cache⟩, found, rfl, honest⟩ := tells
  rw [DropM.read_eq found]
  let counted := store.update id fun drop => drop.load key
  cases cached : cache.get? key with
  | none => exact ⟨_, rfl⟩
  | some entry =>
    obtain ⟨index, isEntry⟩ : ∃ index, entry = LoopState.answer { state with index } key :=
      honest key entry cached
    have differs : entry = state.answer key ∨ entry.Apart (state.answer key) := by
      rw [isEntry]
      exact state.answer_apart key index state.index
    obtain ⟨same, compared, served⟩ := counted.same?_of_apart differs
    show ∃ last, Option.map _ (counted.same? entry (state.answer key)) = _
    rw [compared]
    cases same with
    | false => exact ⟨_, rfl⟩
    | true =>
      rw [served rfl]
      exact ⟨counted, rfl⟩

theorem Tells.of_ne {change : Drop → Drop} (tells : store.Tells other state) (apart : other ≠ id) :
    (store.update id change).Tells other state := by
  unfold Tells
  rw [get?_update, if_neg apart]
  exact tells

/-- A loop that begins another iteration tells this one. -/
theorem Tells.setLoopIndex (tells : store.Tells id state) (index : Nat) :
    (store.setLoopIndex id index).Tells id { state with index } := by
  obtain ⟨⟨source, cache⟩, found, rfl, honest⟩ := tells
  refine ⟨⟨.loop { state with index }, cache⟩, ?_, rfl, honest⟩
  rw [setLoopIndex_eq, get?_update, if_pos rfl, found]
  rfl

theorem retells_add (source : DropSource) : store.Retells (store.add source).2 := by
  rintro id state ⟨drop, found, tells⟩
  refine ⟨drop, ?_, tells⟩
  have old : id ≠ (store.add source).1 := by
    rintro rfl
    exact Nat.lt_irrefl _ (lt_size_of_get? found)
  rw [get?_add, if_neg old, found]

theorem tells_add (state : LoopState) :
    (store.add (.loop state)).2.Tells (store.add (.loop state)).1 state :=
  ⟨⟨.loop state, .empty⟩, by rw [get?_add, if_pos rfl], rfl, Drop.honest_empty _⟩

end DropStore

/-- Rendering while the loops of a store go on telling what they told there. -/
def Regime.telling (before : DropStore) : Regime where
  read := DropM.read
  holds id drop := ∀ state, before.Tells id state → drop.source = .loop state ∧ drop.Honest
  base := before.drops.size
  Total := False
  stable := by
    refine ⟨fun key held state tells => ?_, fun held answers state tells => ?_⟩
    · obtain ⟨source, honest⟩ := held state tells
      refine ⟨?_, honest.load key⟩
      unfold Drop.load
      rw [source]
      rfl
    · obtain ⟨source, honest⟩ := held state tells
      exact ⟨source, honest.remember answers⟩
  agrees _ _ _ := rfl
  compares := False.elim
  opens _ _ above _ _ tells := absurd tells.lt_size (Nat.not_lt_of_le above)
  moves _ above _ _ tells := absurd tells.lt_size (Nat.not_lt_of_le above)

/-- The state of the drop of a loop in the iteration that the loop is in, with the loops `outer`
around it. -/
def RunningLoop.state (loop : RunningLoop) (outer : List RunningLoop) : LoopState :=
  ⟨loop.window.length, loop.index, outer.head?.map RunningLoop.id⟩

namespace DropStore

variable {before after last : DropStore} {id : DropId} {key : String} {value : Data}

theorem all_telling (before : DropStore) : before.All (Regime.telling before).holds := by
  rintro id drop found state ⟨told, foundTold, source, honest⟩
  rw [found] at foundTold
  cases foundTold
  exact ⟨source, honest⟩

theorem retells_of_all (all : after.All (Regime.telling before).holds)
    (size : before.drops.size ≤ after.drops.size) : before.Retells after := by
  intro id state tells
  have here : id.index < after.drops.size := Nat.lt_of_lt_of_le tells.lt_size size
  have found : after.get? id = some (after.drops[id.index]) := Array.getElem?_eq_getElem here
  exact ⟨_, found, all id _ found state tells⟩

theorem retells_read (run : (DropM.read id key).run before = some (value, last)) :
    before.Retells last := by
  obtain ⟨all, size⟩ := before.all_telling.read (Regime.telling before).stable run
  exact retells_of_all all (Nat.le_of_eq size.symm)

/-! ## The drops of all running loops -/

/-- The drop of each loop tells the iteration that the loop is in, and the next loop of the list for
the one around it. -/
inductive Tracks (store : DropStore) : List RunningLoop → Prop
  | nil : Tracks store []
  | cons {loop : RunningLoop} {outer : List RunningLoop}
      (within : loop.index < loop.window.length)
      (tells : store.Tells loop.id (loop.state outer))
      (apart : ∀ other ∈ outer, other.id ≠ loop.id) (outside : Tracks store outer) :
      Tracks store (loop :: outer)

namespace Tracks

variable {store : DropStore} {loops inner outer : List RunningLoop} {loop : RunningLoop}

theorem retells (tracks : before.Tracks loops) (kept : before.Retells after) :
    after.Tracks loops := by
  induction tracks with
  | nil => exact .nil
  | cons within tells apart _ ih => exact .cons within (kept _ _ tells) apart ih

/-- A change to one drop concerns no loop with another drop. -/
theorem of_ne {change : Drop → Drop} (tracks : store.Tracks loops)
    (apart : ∀ other ∈ loops, other.id ≠ id) : (store.update id change).Tracks loops := by
  induction tracks with
  | nil => exact .nil
  | cons within tells others _ ih =>
    have ⟨here, outside⟩ := List.forall_mem_cons.1 apart
    exact .cons within (tells.of_ne here) others (ih outside)

theorem lt_size (tracks : store.Tracks loops) (member : loop ∈ loops) :
    loop.id.index < store.drops.size := by
  induction tracks with
  | nil => cases member
  | cons _ tells _ _ ih =>
    rcases List.mem_cons.1 member with rfl | member
    · exact tells.lt_size
    · exact ih member

theorem of_append (tracks : store.Tracks (inner ++ outer)) : store.Tracks outer := by
  induction inner with
  | nil => exact tracks
  | cons loop inner ih =>
    cases tracks with
    | cons _ _ _ outside => exact ih outside

end Tracks

end DropStore

/-! ## The course of a render -/

namespace Context

/-- The register of loops holds the drops of the running loops. -/
def Stacks (context : Context) (loops : List RunningLoop) : Prop :=
  context.forloopStack = (loops.map fun loop => .drop loop.id).reverse

/-- The drops of the running loops are in place, and tell the iterations that the loops are in. -/
structure Standing (loops : List RunningLoop) (context : Context) : Prop where
  inPlace : context.Stacks loops
  tracks : context.drops.Tracks loops

/-- A loop is entered but in none of its iterations. -/
structure Entering (loop : RunningLoop) (loops : List RunningLoop) (context : Context) :
    Prop where
  inPlace : context.Stacks (loop :: loops)
  apart : ∀ other ∈ loops, other.id ≠ loop.id
  tells : ∃ index, context.drops.Tells loop.id ({ loop with index }.state loops)
  tracks : context.drops.Tracks loops

variable {loops : List RunningLoop} {loop : RunningLoop} {context : Context} {α : Type}
  {action other : Render α}

theorem Stacks.currentForloop (inPlace : context.Stacks loops) :
    context.currentForloop = loops.head?.map RunningLoop.id := by
  rw [currentForloop_eq, inPlace]
  cases loops with
  | nil => rfl
  | cons loop outer =>
    rw [List.map_cons, List.reverse_cons, List.getLast?_concat]
    rfl

theorem Stacks.enterLoop (inPlace : context.Stacks loops) (loop : RunningLoop) :
    (context.enterLoop loop.header.itemName loop.id).2.Stacks (loop :: loops) := by
  unfold Stacks
  rw [forloopStack_enterLoop, inPlace, List.map_cons, List.reverse_cons]

theorem Standing.upholds (standing : Standing loops context) :
    (Regime.telling context.drops).Upholds context := by
  refine ⟨context.drops.all_telling, Nat.le_refl _, fun id member => ?_, False.elim⟩
  rw [standing.inPlace] at member
  obtain ⟨loop, isRunning, ⟨⟩⟩ := List.mem_map.1 (List.mem_reverse.1 member)
  exact standing.tracks.lt_size isRunning

/-- What rendering does to the drops of the running loops: their caches change at most. -/
theorem Standing.retells (standing : Standing loops context)
    (renders : (Regime.telling context.drops).Renders action other) :
    context.drops.Retells (action.stateAfter context).drops := by
  have upholds := (renders context standing.upholds).upholds
  exact DropStore.retells_of_all upholds.all upholds.base

theorem Standing.after (standing : Standing loops context)
    (renders : (Regime.telling context.drops).Renders action other) {names : String → Prop}
    (evolves : Evolves False names context (action.stateAfter context)) :
    Standing loops (action.stateAfter context) :=
  ⟨evolves.forloopStack.trans standing.inPlace, standing.tracks.retells (standing.retells renders)⟩

theorem Standing.enter (standing : Standing loops context) {header : LoopHeader}
    {window : Sequence} {id : DropId} {added : Context}
    (run : LoopHeader.addForloop window.length context = .ok id added) :
    Entering ⟨header, id, window, 0⟩ loops (added.enterLoop header.itemName id).2 := by
  obtain ⟨inPlace, tracks⟩ := standing
  have current := inPlace.currentForloop
  cases run
  refine ⟨?_, ?_, ⟨0, ?_⟩, tracks.retells (DropStore.retells_add _)⟩
  · exact Stacks.enterLoop inPlace ⟨header, _, window, 0⟩
  · intro other member same
    have older := tracks.lt_size member
    rw [same] at older
    exact Nat.lt_irrefl _ older
  · unfold RunningLoop.state
    rw [← current]
    exact DropStore.tells_add _

theorem Entering.beginIteration (entering : Entering loop loops context) {begun : Context}
    {item : Data} (within : loop.index < loop.window.length)
    (run : loop.header.beginIteration loop.id loop.index item context = .ok () begun) :
    Standing (loop :: loops) begun := by
  obtain ⟨⟨root, rfl⟩, -, -⟩ := LoopHeader.beginIteration_eq_ok run
  obtain ⟨index, tells⟩ := entering.tells
  exact ⟨entering.inPlace, .cons within (tells.setLoopIndex loop.index) entering.apart
    (entering.tracks.of_ne entering.apart)⟩

theorem Standing.endIteration (standing : Standing (loop :: loops) context) :
    Entering { loop with index := loop.index + 1 } loops { context with interrupt := none } := by
  obtain ⟨inPlace, tracks⟩ := standing
  cases tracks with
  | cons _ tells apart outside => exact ⟨inPlace, apart, ⟨loop.index, tells⟩, outside⟩

end Context

theorem Render.Reading.renders {α : Type} {action : Render α} (reading : Reading action)
    (before : DropStore) : ∃ other, (Regime.telling before).Renders action other := by
  cases reading with
  | expr expr =>
    exact ⟨_, Regime.renders_bind Regime.renders_get fun context =>
      Regime.renders_ofDrops (Regime.follows_eval context.root expr)⟩
  | condition condition =>
    exact ⟨_, Regime.renders_bind Regime.renders_get fun context =>
      Regime.renders_ofDrops (Regime.follows_condition context.root condition)⟩
  | values subject values =>
    exact ⟨_, Regime.renders_bind Regime.renders_get fun context =>
      Regime.renders_ofDrops (Regime.follows_anyEquals context.root subject values)⟩
  | window header => exact ⟨_, Regime.renders_window header False.elim⟩

/-- At every point of a render the running loops stand. -/
theorem Context.Standing.course (filters : FilterTable) :
    Course filters (fun node => node.isHost = false) Standing Entering where
  reads {_ context _ action} reading standing := by
    obtain ⟨other, renders⟩ := reading.renders context.drops
    have evolves : Evolves False (fun _ => False) context (action.stateAfter context) :=
      (reading.keeps context).evolves
    exact standing.after renders evolves
  node {_ _ node} builtIn standing :=
    standing.after (Regime.renders_node filters node (Regime.fits_of_builtIn id builtIn))
      (Node.confined_render filters node (Node.BuiltIn.bindsOnly builtIn) _)
  body {_ _ body} builtIn standing :=
    standing.after (Regime.renders_body filters "" body (Regime.fits_of_builtIn id builtIn))
      (Node.confined_renderBody filters "" body (Node.BuiltIn.bindsOnly builtIn) _)
  enters standing run := standing.enter run
  begins entering within run := entering.beginIteration within run
  ends _ standing := standing.endIteration

/-! ## What is told -/

/-- The drop of the innermost of the loops; nil if there are none. -/
def RunningLoop.innermost : List RunningLoop → Data
  | [] => .nil
  | loop :: _ => .drop loop.id

/-- What the drop of a loop tells in the iteration that the loop is in, with the loops `outer`
around it. No number exceeds the length, so all are exact if the length fits. -/
def RunningLoop.tells (loop : RunningLoop) (outer : List RunningLoop) (key : String) : Data :=
  let length : Int := loop.window.length
  let place : Int := loop.index
  match key with
  | "length" => .int (.ofInt length)
  | "index" => .int (.ofInt (place + 1))
  | "index0" => .int (.ofInt place)
  | "rindex" => .int (.ofInt (length - place))
  | "rindex0" => .int (.ofInt (length - place - 1))
  | "first" => .bool (place = 0)
  | "last" => .bool (place = length - 1)
  | "parentloop" => innermost outer
  | _ => .nil

theorem RunningLoop.answer_parentloop (loop : RunningLoop) (outer : List RunningLoop) :
    (loop.state outer).answer "parentloop" = innermost outer := by
  cases outer <;> rfl

theorem RunningLoop.answer_eq_tells {loop : RunningLoop} (outer : List RunningLoop)
    (within : loop.index < loop.window.length)
    (fits : (loop.window.length : Int) ≤ Int64.maxValue.toInt) (key : String) :
    (loop.state outer).answer key = loop.tells outer key := by
  have count {n : Nat} {m : Int} (small : n ≤ loop.window.length) (same : (n : Int) = m) :
      Data.ofNat n = .int (.ofInt m) := by
    rw [← same, Data.ofNat, Number.ofNat_eq (Int.le_trans (Int.ofNat_le.2 small) fits)]
  unfold LoopState.answer tells state
  dsimp only
  split
  · exact count (Nat.le_refl _) rfl
  · exact count within rfl
  · exact count (Nat.le_of_lt within) rfl
  · exact count (Nat.sub_le _ _) (by omega)
  · exact count (by omega) (by omega)
  · exact congrArg Data.bool (by grind)
  · exact congrArg Data.bool (by grind)
  · exact loop.answer_parentloop outer
  · simp_all

/-- Following `parentloop` leads from loop to loop outwards, and then to nil. -/
theorem DropStore.Tracks.walk_parentloop {store : DropStore} {loops : List RunningLoop}
    (tracks : store.Tracks loops) (root : Data) (depth : Nat) :
    ∃ last, (Step.walk root (RunningLoop.innermost loops)
      (List.replicate depth (.key "parentloop"))).run store =
        some (RunningLoop.innermost (loops.drop depth), last) := by
  induction depth generalizing store loops with
  | zero => exact ⟨store, rfl⟩
  | succ depth ih =>
    rw [List.replicate_succ]
    cases tracks with
    | nil =>
      obtain ⟨last, walked⟩ := ih (.nil : store.Tracks [])
      rw [List.drop_nil] at walked ⊢
      exact ⟨last, walked⟩
    | @cons loop outer within tells apart outside =>
      obtain ⟨next, read⟩ := tells.read "parentloop"
      rw [loop.answer_parentloop] at read
      obtain ⟨last, walked⟩ := ih (outside.retells (retells_read read))
      refine ⟨last, ?_⟩
      show ((DropM.read loop.id "parentloop").run store).bind _ = _
      rw [read]
      exact walked

/-- The states in which an iteration is from a visit on up to the next one: drops are read and
built-in nodes are rendered. -/
inductive Visit.Reaches (filters : FilterTable) (visit : Visit) : Context → Prop
  | here : Reaches filters visit visit.context
  | node {context : Context} {node : Node} (builtIn : Node.BuiltIn [node])
      (reaches : Reaches filters visit context) :
      Reaches filters visit ((node.render filters).stateAfter context)
  | read {context : Context} {id : DropId} {key : String} {value : Data} {drops : DropStore}
      (run : (DropM.read id key).run context.drops = some (value, drops))
      (reaches : Reaches filters visit context) : Reaches filters visit { context with drops }

theorem Visit.Reaches.standing {filters : FilterTable} {visit : Visit} {context : Context}
    (reaches : visit.Reaches filters context)
    (standing : Context.Standing visit.loops visit.context) :
    Context.Standing visit.loops context := by
  induction reaches with
  | here => exact standing
  | node builtIn _ ih => exact (Context.Standing.course filters).node builtIn ih
  | read run _ ih => exact ⟨ih.inPlace, ih.tracks.retells (DropStore.retells_read run)⟩

/-- The course of a body is its render with the points that it comes by. At every point of a render
of built-in nodes from a hash, the drop of every loop that is running tells the iteration that the
loop is in, whatever is cached, and for `parentloop` the drop of the next running loop outwards;
following `parentloop` gives one running loop after the other, and then nil. -/
theorem Node.forloop_tells_position (filters : FilterTable) (tree : List Node)
    (entries : Table Data) (drops : DropStore) (builtIn : BuiltIn tree) {visit : Visit}
    (member : visit ∈ (traceBody filters [] "" tree).visits (.start (.hash entries) drops))
    {context : Context} (reaches : visit.Reaches filters context)
    {inner outer : List RunningLoop} {loop : RunningLoop}
    (loops : visit.loops = inner ++ loop :: outer) :
    (traceBody filters [] "" tree).erase = renderBody filters "" tree ∧
      loop.index < loop.window.length ∧
      ((loop.window.length : Int) ≤ Int64.maxValue.toInt → ∀ key, ∃ last,
        (DropM.read loop.id key).run context.drops = some (loop.tells outer key, last)) ∧
      ∀ root depth, ∃ last,
        (Step.walk root (.drop loop.id) (List.replicate depth (.key "parentloop"))).run
            context.drops =
          some (RunningLoop.innermost ((loop :: outer).drop depth), last) := by
  have ready : (Context.start (.hash entries) drops).Ready Context.Standing False [] :=
    ⟨⟨rfl, .nil⟩, False.elim⟩
  have sound := (Context.Standing.course filters).sound_traceBody [] "" tree builtIn _ ready
    visit member
  have tracks := (reaches.standing sound.kept).tracks
  rw [loops] at tracks
  cases tracks.of_append with
  | cons within tells apart outside =>
    refine ⟨erase_traceBody filters [] "" tree, within, fun fits key => ?_, fun root depth => ?_⟩
    · rw [← loop.answer_eq_tells outer within fits]
      exact tells.read key
    · exact tracks.of_append.walk_parentloop root depth

/-- The second iteration of a loop around another one, after the first of them read `index` and
bound `forloop` to something else. -/
theorem Node.forloop_tells_position_nested :
    let inner : Node := .loop ⟨"y", .collection (.string "a"), false, none, none⟩
      [.assign "forloop" ⟨.nil, []⟩] none
    let outer : Node := .loop ⟨"x", .range (.int 1) (.int 2), false, none, none⟩
      [.cond false [⟨.truthy (.lookup [.key "forloop", .key "index"]), [inner]⟩] none] none
    ∃ visit ∈ (traceBody .empty [] "" [outer]).visits (.start (.hash .empty) .empty),
      ∃ loop enclosing, visit.loops = [loop, enclosing] ∧
        (∃ last, (Step.walk .nil (.drop loop.id) [.key "parentloop"]).run visit.context.drops =
          some (.drop enclosing.id, last)) ∧
        ∃ last, (DropM.read enclosing.id "index").run visit.context.drops =
          some (.int 2, last) := by
  intro inner outer
  have builtIn : BuiltIn [outer] := by
    simp [outer, inner, bodies, isHost]
  have running : ((traceBody .empty [] "" [outer]).visits
      (.start (.hash .empty) .empty))[9]?.map (fun visit =>
        visit.loops.map fun loop => (loop.index, loop.window.length)) = some [(0, 1), (1, 2)] := by
    decide +kernel
  obtain ⟨visit, found, places⟩ := Option.map_eq_some_iff.1 running
  obtain ⟨loop, others, loops, -, placesOthers⟩ := List.map_eq_cons_iff.1 places
  obtain ⟨enclosing, further, rfl, place, noFurther⟩ := List.map_eq_cons_iff.1 placesOthers
  obtain rfl := List.map_eq_nil_iff.1 noFurther
  obtain ⟨isSecond, twice⟩ := Prod.mk.inj place
  have told {inner outer : List RunningLoop} {loop : RunningLoop} :=
    @forloop_tells_position .empty [_] .empty .empty builtIn visit (List.mem_of_getElem? found) _
      .here inner outer loop
  obtain ⟨-, -, -, leads⟩ := @told [] _ _ loops
  obtain ⟨-, -, tells, -⟩ := @told [loop] _ _ loops
  refine ⟨visit, List.mem_of_getElem? found, loop, enclosing, loops, leads .nil 1, ?_⟩
  have fits : (enclosing.window.length : Int) ≤ Int64.maxValue.toInt := by
    rw [twice]
    decide
  obtain ⟨last, read⟩ := tells fits "index"
  refine ⟨last, read.trans ?_⟩
  unfold RunningLoop.tells
  rw [isSecond]
  rfl

end TextTemplate
