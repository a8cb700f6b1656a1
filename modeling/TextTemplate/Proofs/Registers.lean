import TextTemplate.Proofs.LoopScope

/-!
# Registers along the course of a render

Besides loops, which keep a register of their own, only two things write to registers: rendering a
cycle and comparing the text of a `changed` node. Both are points of the course. So each point finds
in a register what the point before it left there (`Node.handsOn_traceBody`), and what a register
holds at a point is known from the points before it alone.
-/

namespace TextTemplate

variable {name : String} {context : Context}

/-- The register holds the same in both states. -/
def Context.SameRegister (name : String) (before after : Context) : Prop :=
  after.register name = before.register name

instance : Std.Refl (Context.SameRegister name) := ⟨fun _ => rfl⟩

instance : Trans (Context.SameRegister name) (Context.SameRegister name)
    (Context.SameRegister name) where
  trans before after := after.trans before

namespace Context

theorem register_setRegister_of_ne {other : String} (context : Context) (data : Data)
    (free : name ≠ other) : (context.setRegister other data).register name = context.register name :=
  (register_setRegister context other name data).trans (if_neg free)

theorem Reads.sameRegister {before after : Context} (reads : Reads before after) :
    SameRegister name before after := by
  obtain ⟨drops, rfl⟩ := reads
  rfl

theorem register_enterLoop (context : Context) (itemName : String) (id : DropId)
    (free : name ≠ forRegister) :
    (context.enterLoop itemName id).2.register name = context.register name :=
  register_setRegister_of_ne context _ free

theorem register_leaveLoop (context : Context) (scope : LoopScope) (free : name ≠ forRegister) :
    (context.leaveLoop scope).register name = context.register name :=
  register_setRegister_of_ne { context with counters := context.counters.pop } _ free

end Context

/-! ## Points that hand a register on -/

/-- What the point leaves in a register. Of what a point is about to do, rendering a cycle and
comparing a text are done at once; other nodes come by points of their own. -/
def Visit.leaves (name : String) (visit : Visit) : Data :=
  match visit.moment with
  | .node (.cycle cycle) => (cycle.render.stateAfter visit.context).register name
  | .comparison text => ((Render.ifChanged text).stateAfter visit.context).register name
  | _ => visit.context.register name

/-- Each of the points finds in the register what the one before it left there, the first of them
`first`, and after the last of them the register holds `last`. -/
def Visit.HandsOn (name : String) (first : Data) : List Visit → Data → Prop
  | [], last => last = first
  | visit :: visits, last =>
    visit.context.register name = first ∧ HandsOn name (visit.leaves name) visits last

theorem Visit.HandsOn.append {first middle last : Data} {front back : List Visit}
    (before : HandsOn name first front middle) (after : HandsOn name middle back last) :
    HandsOn name first (front ++ back) last := by
  induction front generalizing first with
  | nil =>
    cases before
    exact after
  | cons visit front ih => exact ⟨before.1, ih before.2⟩

theorem Visit.handsOn_append {first last : Data} {front back : List Visit}
    (handsOn : HandsOn name first (front ++ back) last) :
    ∃ middle, HandsOn name first front middle ∧ HandsOn name middle back last := by
  induction front generalizing first with
  | nil => exact ⟨first, rfl, handsOn⟩
  | cons visit front ih =>
    obtain ⟨middle, before, after⟩ := ih handsOn.2
    exact ⟨middle, ⟨handsOn.1, before⟩, after⟩

namespace Traced

variable {α β : Type} {first : Data}

/-- From the state on, the points of the action hand on the register, the first of them finding
`first` there, up to what it holds after the action. -/
def HandsOnAt (name : String) (first : Data) (action : Traced α) (context : Context) : Prop :=
  Visit.HandsOn name first (action.visits context) ((action.erase.stateAfter context).register name)

/-- From every state on the points of the action hand on what the register holds. -/
def HandsOn (name : String) (action : Traced α) : Prop :=
  ∀ context, HandsOnAt name (context.register name) action context

theorem visits_bind_of_ok {action : Traced α} {next : α → Traced β} {value : α} {middle : Context}
    (run : action.erase context = .ok value middle) :
    (action >>= next).visits context = action.visits context ++ (next value).visits middle := by
  change (Traced.bind action next context).2 = _
  unfold Traced.bind visits
  unfold erase at run
  cases ran : action context with
  | mk result points =>
    rw [ran] at run
    cases run
    rfl

theorem visits_bind_of_error {action : Traced α} {next : α → Traced β} {error : RenderError}
    {middle : Context} (run : action.erase context = .error error middle) :
    (action >>= next).visits context = action.visits context := by
  change (Traced.bind action next context).2 = _
  unfold Traced.bind visits
  unfold erase at run
  cases ran : action context with
  | mk result points =>
    rw [ran] at run
    cases run
    rfl

theorem handsOnAt_bind {action : Traced α} {next : α → Traced β}
    (before : HandsOnAt name first action context)
    (after : ∀ value middle, action.erase context = .ok value middle →
      HandsOnAt name (middle.register name) (next value) middle) :
    HandsOnAt name first (action >>= next) context := by
  unfold HandsOnAt at before ⊢
  rw [erase_bind, Render.stateAfter_bind]
  cases run : action.erase context with
  | ok value middle =>
    rw [Render.stateAfter_ok run] at before
    rw [visits_bind_of_ok run]
    exact before.append (after value middle run)
  | error error middle =>
    rw [Render.stateAfter_error run] at before
    rw [visits_bind_of_error run]
    exact before

theorem handsOn_lift {action : Render α}
    (keeps : Render.Keeps (Context.SameRegister name) action) : HandsOn name (lift action) :=
  fun context => keeps context

theorem handsOn_pure (value : α) : HandsOn name (pure value : Traced α) :=
  fun _ => rfl

theorem handsOn_bind {action : Traced α} {next : α → Traced β} (before : HandsOn name action)
    (after : ∀ value, HandsOn name (next value)) : HandsOn name (action >>= next) :=
  fun context => handsOnAt_bind (before context) fun value middle _ => after value middle

theorem handsOn_ite {condition : Prop} [Decidable condition] {yes no : Traced α}
    (holds : HandsOn name yes) (fails : HandsOn name no) :
    HandsOn name (if condition then yes else no) := by
  split
  · exact holds
  · exact fails

/-- A point, and an action that goes on with what the point leaves. -/
theorem handsOnAt_note {moment : Moment} {loops : List RunningLoop} {next : Unit → Traced β}
    (after : HandsOnAt name (Visit.leaves name ⟨moment, loops, context⟩) (next ()) context) :
    HandsOnAt name (context.register name) (note moment loops >>= next) context := by
  unfold HandsOnAt
  rw [visits_bind_of_ok (rfl : (note moment loops).erase context = .ok () context)]
  exact ⟨rfl, after⟩

/-- A loop has a register of its own, and keeps the others. -/
theorem handsOn_withLoop (free : name ≠ Context.forRegister) {itemName : String} {id : DropId}
    {action : Traced α} (inside : HandsOn name action) :
    HandsOn name (withLoop itemName id action) := by
  intro context
  have within := inside (context.enterLoop itemName id).2
  unfold HandsOnAt at within ⊢
  rw [context.register_enterLoop itemName id free] at within
  rw [erase_withLoop, Render.stateAfter_withLoop, Context.register_leaveLoop _ _ free]
  exact within

end Traced

/-! ## Nodes -/

namespace Render

variable {α : Type}

theorem keeps_sameRegister_ofDrops (action : DropM α) :
    Keeps (Context.SameRegister name) (ofDrops action) :=
  (keeps_reads_ofDrops action).mono Context.Reads.sameRegister

theorem keeps_sameRegister_assign (key : String) (data : Data) :
    Keeps (Context.SameRegister name) (assign key data) := by
  intro context
  unfold stateAfter assign Context.assign
  cases context.root.set key data with
  | ok root => rfl
  | error error => rfl

theorem keeps_sameRegister_reading {action : Render α} (reading : action.Reading) :
    Keeps (Context.SameRegister name) action :=
  reading.keeps.mono Context.Reads.sameRegister

theorem keeps_sameRegister_ifChanged (free : name ≠ changedRegister) (text : String) :
    Keeps (Context.SameRegister name) (ifChanged text) := by
  refine keeps_bind (keeps_register changedRegister) fun last => ?_
  refine keeps_ite (keeps_pure "") (keeps_bind ?_ fun _ => keeps_pure _)
  exact fun context => Context.register_setRegister_of_ne context _ free

end Render

theorem Pipeline.keeps_sameRegister_eval (filters : FilterTable) (pipeline : Pipeline) :
    Render.Keeps (Context.SameRegister name) (pipeline.eval filters) :=
  (pipeline.reads_eval filters).mono Context.Reads.sameRegister

namespace LoopHeader

open Traced (HandsOn)

variable {header : LoopHeader} {id : DropId} {loops : List RunningLoop} {window : Sequence}
  {body : List RunningLoop → Traced String} {otherwise : Traced String}

theorem keeps_sameRegister_beginIteration (index : Nat) (item : Data) :
    Render.Keeps (Context.SameRegister name) (header.beginIteration id index item) :=
  Render.keeps_bind (fun _ => rfl) fun _ =>
    Render.keeps_bind (Render.keeps_sameRegister_assign _ _) fun _ =>
      Render.keeps_sameRegister_assign _ _

theorem handsOn_traceIterate (bodies : ∀ loops, HandsOn name (body loops))
    (remaining index : Nat) (out : String) :
    HandsOn name (header.traceIterate loops id window body remaining index out) := by
  induction remaining generalizing index out with
  | zero => exact Traced.handsOn_pure out
  | succ remaining ih =>
    refine Traced.handsOn_bind
      (Traced.handsOn_lift (keeps_sameRegister_beginIteration index _)) fun _ context => ?_
    refine Traced.handsOnAt_note ?_
    refine Traced.handsOn_bind (bodies _) (fun text => ?_) context
    refine Traced.handsOn_bind (Traced.handsOn_lift fun _ => rfl) fun signal => ?_
    split
    · exact Traced.handsOn_pure _
    · exact ih (index + 1) (out ++ text)

theorem handsOn_trace (free : name ≠ Context.forRegister)
    (bodies : ∀ loops, HandsOn name (body loops)) (last : HandsOn name otherwise) :
    HandsOn name (header.trace loops body otherwise) := by
  refine Traced.handsOn_bind
    (Traced.handsOn_lift (Render.keeps_sameRegister_reading (.window header))) fun window => ?_
  refine Traced.handsOn_ite last ?_
  refine Traced.handsOn_bind (Traced.handsOn_lift fun _ => rfl) fun id => ?_
  exact Traced.handsOn_withLoop free (handsOn_traceIterate bodies _ 0 "")

end LoopHeader

namespace Node

open Traced (HandsOn HandsOnAt lift)

variable {filters : FilterTable}

theorem handsOn_comparison (loops : List RunningLoop) (text : String) :
    HandsOn name (do Traced.note (.comparison text) loops; lift (Render.ifChanged text)) := by
  intro context
  refine Traced.handsOnAt_note ?_
  rfl

mutual

/-- After the point before a node, its own points hand on what this point left. -/
theorem handsOn_trace (free : name ≠ Context.forRegister) (loops : List RunningLoop)
    (context : Context) :
    (node : Node) → BuiltIn [node] → HandsOnAt name
      (Visit.leaves name ⟨.node node, loops, context⟩) (node.trace filters loops) context
  | .cond negate sections otherwise, builtIn => by
    have last := handsOn_traceOtherwise free loops otherwise fun body held =>
      builtIn.inner (mem_bodies_of_otherwise held)
    exact handsOn_traceFirst free loops last negate sections (fun part held =>
      builtIn.inner (mem_bodies_of_section held)) context
  | .case subject sections otherwise, builtIn => by
    have last := handsOn_traceOtherwise free loops otherwise fun body held =>
      builtIn.inner (mem_bodies_of_otherwise held)
    refine Traced.handsOn_bind
      (Traced.handsOn_lift (Render.keeps_sameRegister_reading (.expr subject))) (fun value => ?_)
      context
    exact handsOn_traceMatching free loops last value "" false sections fun part held =>
      builtIn.inner (mem_bodies_of_section held)
  | .loop header body otherwise, builtIn => by
    have last := handsOn_traceOtherwise free loops otherwise fun body held =>
      builtIn.inner (.tail _ (Option.mem_toList.2 held))
    exact header.handsOn_trace free (fun loops =>
      handsOn_traceBody free loops "" body (builtIn.inner List.mem_cons_self)) last context
  | .capture name body, builtIn =>
    Traced.handsOn_bind (handsOn_traceBody free loops "" body (builtIn.inner List.mem_cons_self))
      (fun _ => Traced.handsOn_bind (Traced.handsOn_lift (Render.keeps_sameRegister_assign _ _))
        fun _ => Traced.handsOn_pure _) context
  | .changed body, builtIn =>
    Traced.handsOn_bind (handsOn_traceBody free loops "" body (builtIn.inner List.mem_cons_self))
      (handsOn_comparison loops) context
  | .cycle _, _ => rfl
  | .text _, _ | .increment _, _ | .decrement _, _ | .comment, _ | .interrupt _, _ => rfl
  | .object pipeline, _ => by
    have keeps : Render.Keeps (Context.SameRegister name) (render filters (.object pipeline)) :=
      Render.keeps_bind (pipeline.keeps_sameRegister_eval filters) fun _ => Render.keeps_pure _
    exact keeps context
  | .assign key pipeline, _ => by
    have keeps : Render.Keeps (Context.SameRegister name) (render filters (.assign key pipeline)) :=
      Render.keeps_bind (pipeline.keeps_sameRegister_eval filters) fun data =>
        Render.keeps_bind (Render.keeps_sameRegister_assign key data) fun _ => Render.keeps_pure _
    exact keeps context
  | .host .., builtIn => nomatch Everywhere.here builtIn

/-- The points of a body without nodes of the host hand on every register but that of the loops. -/
theorem handsOn_traceBody (free : name ≠ Context.forRegister) (loops : List RunningLoop)
    (out : String) : (body : List Node) → BuiltIn body →
      HandsOn name (traceBody filters loops out body)
  | [], _ => Traced.handsOn_pure out
  | node :: nodes, builtIn => by
    intro context
    -- a cycle has written before its own course, which has no points, begins
    refine Traced.handsOnAt_note ?_
    refine Traced.handsOnAt_bind (handsOn_trace free loops context node builtIn.head)
      fun text middle _ => ?_
    refine Traced.handsOn_bind (Traced.handsOn_lift Render.keeps_isInterrupted)
      (fun interrupted => ?_) middle
    exact Traced.handsOn_ite (Traced.handsOn_pure _)
      (handsOn_traceBody free loops (out ++ text) nodes builtIn.tail)

theorem handsOn_traceOtherwise (free : name ≠ Context.forRegister) (loops : List RunningLoop) :
    (otherwise : Option (List Node)) → (∀ body ∈ otherwise, BuiltIn body) →
      HandsOn name (traceOtherwise filters loops otherwise)
  | some body, builtIn => handsOn_traceBody free loops "" body (builtIn body rfl)
  | none, _ => Traced.handsOn_pure ""

theorem handsOn_traceFirst (free : name ≠ Context.forRegister) (loops : List RunningLoop)
    {otherwise : Traced String} (last : HandsOn name otherwise) (negate : Bool) :
    (sections : List (Section Condition Node)) → (∀ part ∈ sections, BuiltIn part.body) →
      HandsOn name (traceFirst filters loops otherwise negate sections)
  | [], _ => last
  | ⟨condition, body⟩ :: sections, builtIn => by
    refine Traced.handsOn_bind
      (Traced.handsOn_lift (Render.keeps_sameRegister_reading (.condition condition))) fun holds => ?_
    exact Traced.handsOn_ite (handsOn_traceBody free loops "" body (builtIn _ List.mem_cons_self))
      (handsOn_traceFirst free loops last false sections fun part held =>
        builtIn part (List.mem_cons_of_mem _ held))

theorem handsOn_traceMatching (free : name ≠ Context.forRegister) (loops : List RunningLoop)
    {otherwise : Traced String} (last : HandsOn name otherwise) (subject : Data) (out : String)
    (matched : Bool) :
    (sections : List (Section (List Expr) Node)) → (∀ part ∈ sections, BuiltIn part.body) →
      HandsOn name (traceMatching filters loops otherwise subject out matched sections)
  | [], _ => by
    unfold traceMatching
    exact Traced.handsOn_ite (Traced.handsOn_pure out)
      (Traced.handsOn_bind last fun _ => Traced.handsOn_pure _)
  | ⟨values, body⟩ :: sections, builtIn => by
    have rest (out : String) (matched : Bool) := handsOn_traceMatching free loops last subject out
      matched sections fun part held => builtIn part (List.mem_cons_of_mem _ held)
    refine Traced.handsOn_bind
      (Traced.handsOn_lift (Render.keeps_sameRegister_reading (.values subject values))) fun found => ?_
    refine Traced.handsOn_ite ?_ (rest out matched)
    refine Traced.handsOn_bind
      (handsOn_traceBody free loops "" body (builtIn _ List.mem_cons_self)) fun text => ?_
    refine Traced.handsOn_bind (Traced.handsOn_lift Render.keeps_isInterrupted) fun interrupted => ?_
    exact Traced.handsOn_ite (Traced.handsOn_pure _) (rest _ true)

end

end Node

end TextTemplate
