import TextTemplate.Proofs.LoopPosition
import TextTemplate.Proofs.Registers

/-!
# Cycles go round

A cycle takes part in one rotation (`Cycle.Slot`): that of the text of its values or, if it has a
group, that of the group's text. Rendering it takes one turn of this rotation and none of another.
So along a render the cycles of a rotation over `n` values write them in their order, over and over
(`Node.cycles_go_round`), whatever is rendered in between and from whatever place of the tree.
-/

namespace TextTemplate

namespace Render

/-- The text that an action gives, if it does. -/
def shown? (action : Render String) (context : Context) : Option String :=
  match action context with
  | .ok text _ => some text
  | .error _ _ => none

end Render

namespace Cycle

/-- A rotation: of the cycles without a group whose values have this text, or of the cycles with a
group that has this text. -/
inductive Slot
  | site (key : String)
  | group (text : String)
deriving DecidableEq, Repr

namespace Slot

/-- The register that keeps the rotation's place. -/
def register : Slot → String
  | site _ => siteRegister
  | group _ => groupRegister

/-- The key under which the register keeps the rotation's place. -/
def key : Slot → String
  | site key => key
  | group text => text

/-- The place that the rotation goes on with if it is one over so many values. -/
def place (slot : Slot) (count : Nat) (context : Context) : Nat :=
  (turn (context.register slot.register) slot.key count).1

theorem register_free (slot : Slot) :
    slot.register ≠ Context.forRegister ∧ slot.register ≠ changedRegister := by
  cases slot with
  | site => exact ⟨(by decide : siteRegister ≠ _), (by decide : siteRegister ≠ _)⟩
  | group => exact ⟨(by decide : groupRegister ≠ _), (by decide : groupRegister ≠ _)⟩

theorem key_ne {slot other : Slot} (apart : slot ≠ other) (same : slot.register = other.register) :
    slot.key ≠ other.key := by
  have kinds : siteRegister ≠ groupRegister := by decide
  cases slot with
  | site key =>
    cases other with
    | site key' => exact fun equal => apart (congrArg site equal)
    | group text => exact absurd same kinds
  | group text =>
    cases other with
    | site key' => exact absurd same.symm kinds
    | group text' => exact fun equal => apart (congrArg group equal)

end Slot

/-- The rotation that the cycle takes part in. -/
def slot (cycle : Cycle) (root : Data) : DropM Slot :=
  match cycle.group with
  | none => return .site cycle.key
  | some group => do return .group (← group.eval root).display

/-- The rotation that the cycle takes part in, in this state; none if its group has no value. -/
def slot? (cycle : Cycle) (context : Context) : Option Slot :=
  (cycle.slot context.root).run' context.drops

/-- The cycle has a value number `place`. It writes the text of this value, as it is told against
the data root after the group, or nothing if there is none to tell. -/
def Shows (cycle : Cycle) (context : Context) (place : Nat) : Prop :=
  ∃ expr, cycle.values[place]? = some expr ∧
    Render.shown? cycle.render context = StateT.run' (do
      let _ ← cycle.slot context.root
      return (← expr.eval context.root).display) context.drops

/-! ## Turns -/

section

variable {register : Data} {key other : String} {count : Nat}

/-- A turn begins at the place remembered, reduced to the places that there are. -/
theorem turn_fst (register : Data) (key : String) (count : Nat) :
    (turn register key count).1 =
      (((register.binding? key).bind Data.toInteger?).getD 0).toInt.toNat % count := by
  cases register with
  | hash places => rfl
  | _ => exact (Nat.zero_mod count).symm

/-- A turn remembers the place after its own and nothing else. -/
theorem binding?_turn (register : Data) (key other : String) (count : Nat) :
    (turn register key count).2.binding? other =
      if other = key then some (.ofNat (((turn register key count).1 + 1) % count))
      else register.binding? other := by
  cases register with
  | hash places => exact Table.get?_set places key other _
  | _ => exact Table.get?_set .empty key other _

theorem turn_lt (register : Data) (key : String) (positive : 0 < count) :
    (turn register key count).1 < count := by
  rw [turn_fst]
  exact Nat.mod_lt _ positive

/-- A place that fits is found again as it was remembered. -/
theorem turn_of_stored {place : Nat} (stored : register.binding? key = some (.ofNat place))
    (fits : (place : Int) ≤ Int64.maxValue.toInt) (count : Nat) :
    (turn register key count).1 = place % count := by
  rw [turn_fst, stored]
  simp only [Option.bind_some, Data.ofNat, Data.toInteger?, Option.getD_some]
  rw [Number.toInt_ofNat fits, Int.toNat_natCast]

/-- The next turn begins one place on. -/
theorem turn_turn (register : Data) (key : String) (positive : 0 < count)
    (fits : (count : Int) ≤ Int64.maxValue.toInt) :
    (turn (turn register key count).2 key count).1 = ((turn register key count).1 + 1) % count := by
  have below : ((turn register key count).1 + 1) % count < count := Nat.mod_lt _ positive
  have stored := (binding?_turn register key key count).trans (if_pos rfl)
  rw [turn_of_stored stored (by omega), Nat.mod_eq_of_lt below]

/-- A turn leaves the places under other keys. -/
theorem turn_turn_of_ne (register : Data) (apart : other ≠ key) (count size : Nat) :
    (turn (turn register key count).2 other size).1 = (turn register other size).1 := by
  rw [turn_fst, turn_fst, binding?_turn, if_neg apart]

end

/-! ## Rendering a cycle -/

section

variable {cycle : Cycle} {slot : Slot} {context : Context} {drops : DropStore} {name : String}

theorem exists_run_slot (found : cycle.slot? context = some slot) :
    ∃ drops, (cycle.slot context.root).run context.drops = some (slot, drops) := by
  obtain ⟨⟨taken, drops⟩, run, rfl⟩ := Option.map_eq_some_iff.1 found
  exact ⟨drops, run⟩

/-- The place of a cycle's rotation is one of its values. -/
theorem exists_value (cycle : Cycle) (slot : Slot) (context : Context) :
    ∃ expr, cycle.values[slot.place cycle.values.length context]? = some expr := by
  have positive : 0 < cycle.values.length := Nat.zero_lt_succ _
  exact ⟨_, List.getElem?_eq_getElem (turn_lt _ _ positive)⟩

/-- A cycle takes a turn of its rotation and then tells the value at the place. -/
theorem render_of_slot {expr : Expr}
    (run : (cycle.slot context.root).run context.drops = some (slot, drops))
    (isValue : cycle.values[slot.place cycle.values.length context]? = some expr) :
    cycle.render context = (do
      return (← Render.ofDrops (expr.eval context.root)).display : Render String)
      ({ context with drops }.setRegister slot.register
        (turn (context.register slot.register) slot.key cycle.values.length).2) := by
  obtain rfl : cycle.values.getD (slot.place cycle.values.length context) .nil = expr := by
    rw [List.getD_eq_getElem?_getD, isValue, Option.getD_some]
  unfold Cycle.slot at run
  unfold render
  cases isGroup : cycle.group with
  | none =>
    rw [isGroup] at run
    cases run
    rfl
  | some group =>
    rw [isGroup] at run
    obtain ⟨⟨value, between⟩, ran, made⟩ := Option.bind_eq_some_iff.1 run
    cases made
    show (Render.ofDrops (group.eval context.root) >>= _) context = _
    exact Render.bind_of_ok (Render.ofDrops_some ran)

theorem render_of_noSlot (run : (cycle.slot context.root).run context.drops = none) :
    cycle.render context = .error ⟨.endlessComparison, none⟩ context := by
  unfold Cycle.slot at run
  unfold render
  cases isGroup : cycle.group with
  | none =>
    rw [isGroup] at run
    cases run
  | some group =>
    rw [isGroup] at run
    have failed : (group.eval context.root).run context.drops = none := by
      cases ran : (group.eval context.root).run context.drops with
      | none => rfl
      | some result =>
        rw [StateT.run_bind, ran] at run
        cases run
    show (Render.ofDrops (group.eval context.root) >>= _) context = _
    exact Render.bind_of_error (Render.ofDrops_none failed)

/-- Rendering a cycle takes a turn of its rotation. -/
theorem register_render (found : cycle.slot? context = some slot) (name : String) :
    (cycle.render.stateAfter context).register name =
      if name = slot.register then
        (turn (context.register slot.register) slot.key cycle.values.length).2
      else context.register name := by
  obtain ⟨drops, run⟩ := exists_run_slot found
  obtain ⟨expr, isValue⟩ := cycle.exists_value slot context
  have keeps : Render.Keeps (Context.SameRegister name) (do
      return (← Render.ofDrops (expr.eval context.root)).display) :=
    Render.keeps_bind (Render.keeps_sameRegister_ofDrops _) fun _ => Render.keeps_pure _
  unfold Render.stateAfter
  rw [render_of_slot run isValue]
  exact (keeps _).trans (Context.register_setRegister { context with drops } _ name _)

theorem register_render_of_noSlot (missing : cycle.slot? context = none) (name : String) :
    (cycle.render.stateAfter context).register name = context.register name := by
  have run := render_of_noSlot (Option.map_eq_none_iff.1 missing)
  rw [Render.stateAfter_error run]

/-- Whatever the registers hold, a cycle writes its value at the place of its rotation. -/
theorem shows_place (found : cycle.slot? context = some slot) :
    cycle.Shows context (slot.place cycle.values.length context) := by
  obtain ⟨drops, run⟩ := exists_run_slot found
  obtain ⟨expr, isValue⟩ := cycle.exists_value slot context
  refine ⟨expr, isValue, ?_⟩
  unfold Render.shown?
  rw [render_of_slot run isValue, StateT.run'_eq, StateT.run_bind, run]
  show _ = Option.map _ (((expr.eval context.root).run drops).bind _)
  cases ran : (expr.eval context.root).run drops with
  | none => rw [Render.bind_of_error (Render.ofDrops_none ran)]; rfl
  | some result => rw [Render.bind_of_ok (Render.ofDrops_some ran)]; rfl

/-- Rendering a cycle leaves the places of all rotations but its own. -/
theorem place_render_of_ne (apart : cycle.slot? context ≠ some slot) (count : Nat) :
    slot.place count (cycle.render.stateAfter context) = slot.place count context := by
  unfold Slot.place
  cases found : cycle.slot? context with
  | none => rw [register_render_of_noSlot found]
  | some taken =>
    rw [register_render found]
    split
    · next same =>
      have other : slot ≠ taken := fun equal => apart (equal ▸ found)
      rw [turn_turn_of_ne _ (Slot.key_ne other same), same]
    · rfl

end

end Cycle

/-! ## Cycles along a render -/

open TextTemplate.Cycle (Slot turn)

/-- The cycle that is about to be rendered, with the state, if it takes part in the rotation. -/
def Visit.cycleOf? (slot : Slot) (visit : Visit) : Option (Cycle × Context) :=
  match visit.moment with
  | .node (.cycle cycle) =>
    if cycle.slot? visit.context = some slot then some (cycle, visit.context) else none
  | _ => none

namespace Visit

variable {slot : Slot} {visit : Visit} {visits : List Visit} {first last : Data} {count : Nat}

theorem cycleOf?_eq_some {cycle : Cycle} {context : Context} :
    visit.cycleOf? slot = some (cycle, context) ↔
      visit.moment = .node (.cycle cycle) ∧ visit.context = context ∧
        cycle.slot? context = some slot := by
  obtain ⟨moment, loops, here⟩ := visit
  unfold cycleOf?
  constructor
  · intro found
    split at found
    · next isCycle =>
      split at found
      · next takesPart =>
        cases found
        exact ⟨isCycle, rfl, takesPart⟩
      · cases found
    · cases found
  · rintro ⟨rfl, rfl, takesPart⟩
    exact if_pos takesPart

/-- A cycle of the rotation takes a turn of it. -/
theorem leaves_cycle {cycle : Cycle} {context : Context}
    (found : visit.cycleOf? slot = some (cycle, context)) :
    visit.leaves slot.register =
      (turn (context.register slot.register) slot.key cycle.values.length).2 := by
  obtain ⟨isCycle, rfl, takesPart⟩ := cycleOf?_eq_some.1 found
  unfold leaves
  rw [isCycle]
  exact (Cycle.register_render takesPart _).trans (if_pos rfl)

/-- No other point moves the rotation. -/
theorem place_leaves (missing : visit.cycleOf? slot = none) (count : Nat) :
    (turn (visit.leaves slot.register) slot.key count).1 = slot.place count visit.context := by
  obtain ⟨moment, loops, context⟩ := visit
  unfold leaves
  split
  · next cycle isCycle =>
    obtain rfl : moment = .node (.cycle cycle) := isCycle
    refine Cycle.place_render_of_ne (fun takesPart => ?_) count
    simp [cycleOf?, takesPart] at missing
  · next text isComparison =>
    have kept : ((Render.ifChanged text).stateAfter context).register slot.register =
        context.register slot.register :=
      Render.keeps_sameRegister_ifChanged slot.register_free.2 text context
    rw [kept]
    rfl
  · rfl

theorem HandsOn.place_of_none (handsOn : HandsOn slot.register first visits last)
    (missing : ∀ visit ∈ visits, visit.cycleOf? slot = none) (count : Nat) :
    (turn last slot.key count).1 = (turn first slot.key count).1 := by
  induction visits generalizing first with
  | nil =>
    cases handsOn
    rfl
  | cons visit visits ih =>
    rw [List.forall_mem_cons] at missing
    obtain ⟨rfl, later⟩ := handsOn
    rw [ih later missing.2, place_leaves missing.1]
    rfl

/-- Cycles that all have `count` values write them in their order, over and over, from the place on
that the register remembers. -/
theorem HandsOn.shows (handsOn : HandsOn slot.register first visits last)
    (fits : (count : Int) ≤ Int64.maxValue.toInt) {start : Nat}
    (begins : (turn first slot.key count).1 = start % count)
    (alike : ∀ member ∈ visits.filterMap (cycleOf? slot), member.1.values.length = count)
    {k : Nat} {cycle : Cycle} {context : Context}
    (visited : (visits.filterMap (cycleOf? slot))[k]? = some (cycle, context)) :
    cycle.Shows context ((start + k) % count) := by
  -- the induction is on the points: a cycle of the rotation moves the place and the number of the
  -- visit together, and any other point moves neither
  induction visits generalizing first start k with
  | nil => cases visited
  | cons visit visits ih =>
    obtain ⟨rfl, later⟩ := handsOn
    cases found : visit.cycleOf? slot with
    | none =>
      rw [List.filterMap_cons_none found] at alike visited
      exact ih later ((place_leaves found count).trans begins) alike visited
    | some member =>
      rw [List.filterMap_cons_some found] at alike visited
      rw [List.forall_mem_cons] at alike
      obtain ⟨-, here, takesPart⟩ := cycleOf?_eq_some.1 found
      have place : slot.place count member.2 = start % count := here ▸ begins
      cases k with
      | zero =>
        cases visited
        rw [Nat.add_zero, ← place, ← alike.1]
        exact Cycle.shows_place takesPart
      | succ k =>
        rw [Nat.add_comm k 1, ← Nat.add_assoc]
        refine ih later ?_ alike.2 visited
        have positive : 0 < count := alike.1 ▸ Nat.zero_lt_succ _
        calc (turn (visit.leaves slot.register) slot.key count).1
          _ = (slot.place count member.2 + 1) % count := by
            rw [leaves_cycle found, alike.1, Cycle.turn_turn _ _ positive fits]
            rfl
          _ = (start + 1) % count := by rw [place, Nat.mod_add_mod]

end Visit

/-- The cycles of one rotation that a render of the tree comes by, in order, each with the state in
which it is rendered. -/
def Node.cyclesOf (filters : FilterTable) (tree : List Node) (root : Data) (drops : DropStore)
    (slot : Slot) : List (Cycle × Context) :=
  ((traceBody filters [] "" tree).visits (.start root drops)).filterMap (Visit.cycleOf? slot)

/-- The course of a tree is its render with the points that it comes by, the cycles among them. If the
cycles of a rotation all have `count` values, a number that fits, then in a render of a tree of
built-in nodes they write them in their order, over and over, each against the data root of its
moment. No cycle moves a rotation but its own, so none with a group one without a group. And
whatever the registers hold, a cycle has at least one value and writes one of them. -/
theorem Node.cycles_go_round (filters : FilterTable) :
    (∀ (loops : List RunningLoop) (out : String) (tree : List Node),
      (traceBody filters loops out tree).erase = renderBody filters out tree) ∧
    (∀ (tree : List Node) (root : Data) (drops : DropStore) (slot : Slot) (count : Nat),
      BuiltIn tree → (count : Int) ≤ Int64.maxValue.toInt →
      (∀ visited ∈ cyclesOf filters tree root drops slot, visited.1.values.length = count) →
      ∀ (k : Nat) (cycle : Cycle) (context : Context),
        (cyclesOf filters tree root drops slot)[k]? = some (cycle, context) →
          cycle.Shows context (k % count)) ∧
    (∀ (cycle : Cycle) (context : Context) (slot : Slot), cycle.slot? context ≠ some slot →
      ∀ count, slot.place count (cycle.render.stateAfter context) = slot.place count context) ∧
    ∀ (cycle : Cycle) (context : Context) (slot : Slot), cycle.slot? context = some slot →
      slot.place cycle.values.length context < cycle.values.length ∧
        cycle.Shows context (slot.place cycle.values.length context) := by
  refine ⟨erase_traceBody filters,
    fun tree root drops slot count builtIn fits alike k cycle context visited => ?_,
    fun cycle context slot => Cycle.place_render_of_ne, fun cycle context slot takesPart => ?_⟩
  · have handsOn : Traced.HandsOn slot.register (traceBody filters [] "" tree) :=
      handsOn_traceBody slot.register_free.1 [] "" tree builtIn
    have begins : slot.place count (.start root drops) = 0 % count := (Nat.zero_mod count).symm
    have shows := (handsOn (.start root drops)).shows fits begins alike visited
    rwa [Nat.zero_add] at shows
  · exact ⟨Cycle.turn_lt _ _ (Nat.zero_lt_succ _), Cycle.shows_place takesPart⟩

/-- Two cycles in a loop, the second in a group that has the text of the first one. -/
theorem Node.cycles_go_round_in_loop :
    let site : Cycle := ⟨none, .string "a", [.string "b"]⟩
    let grouped : Cycle := ⟨some (.string site.key), .string "p", [.string "q", .string "r"]⟩
    let tree : List Node := [.loop ⟨"x", .range (.int 1) (.int 5), false, none, none⟩
      [.cycle site, .cycle grouped] none]
    let start : Context := .start (.hash .empty) .empty
    (∃ cycle context,
      (cyclesOf .empty tree (.hash .empty) .empty (.site site.key))[3]? = some (cycle, context) ∧
        cycle.Shows context 1) ∧
    (∃ cycle context,
      (cyclesOf .empty tree (.hash .empty) .empty (.group site.key))[4]? = some (cycle, context) ∧
        cycle.Shows context 1) ∧
    (Slot.site site.key).place 2 (grouped.render.stateAfter start) =
      (Slot.site site.key).place 2 start ∧
    grouped.Shows start ((Slot.group site.key).place 3 start) := by
  intro site grouped tree start
  have builtIn : BuiltIn tree := by
    simp [tree, Node.bodies, Node.isHost]
  obtain ⟨-, rounds, apart, shows⟩ := cycles_go_round .empty
  have visit (slot : Slot) (size k : Nat) (fits : (size : Int) ≤ Int64.maxValue.toInt)
      (before : k < 5) (lengths : (cyclesOf .empty tree (.hash .empty) .empty slot).map
        (fun visited => visited.1.values.length) = List.replicate 5 size) :
      ∃ cycle context,
        (cyclesOf .empty tree (.hash .empty) .empty slot)[k]? = some (cycle, context) ∧
          cycle.Shows context (k % size) := by
    have isVisit : ((cyclesOf .empty tree (.hash .empty) .empty slot).map
        (fun visited => visited.1.values.length))[k]? = some size := by
      rw [lengths, List.getElem?_replicate, if_pos before]
    rw [List.getElem?_map] at isVisit
    obtain ⟨⟨cycle, context⟩, visited, -⟩ := Option.map_eq_some_iff.1 isVisit
    refine ⟨cycle, context, visited, rounds tree _ _ slot size builtIn fits ?_ k _ _ visited⟩
    exact fun visited member => List.eq_of_mem_replicate (lengths ▸ List.mem_map_of_mem member)
  refine ⟨visit (.site site.key) 2 3 (by decide) (by decide) (by decide +kernel),
    visit (.group site.key) 3 4 (by decide) (by decide) (by decide +kernel), ?_, ?_⟩
  · exact apart grouped start (.site site.key) (by decide +kernel) 2
  · exact (shows grouped start (.group site.key) (by decide +kernel)).2

end TextTemplate
