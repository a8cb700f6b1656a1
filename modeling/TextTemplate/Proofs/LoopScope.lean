import TextTemplate.Proofs.Frame
import TextTemplate.Proofs.Visits

/-!
# Loops enter and leave in pairs

Entering a loop pushes an environment for counters and the loop's drop, and hides two bindings of
the data root; leaving it undoes this. Both stacks are kept by everything that rendering does
(`Context.Evolves.environments`, `Context.Evolves.forloopStack`), so at every point of a render
they hold exactly the running loops.
-/

namespace TextTemplate

namespace Context

/-- The number of environments. -/
def environments (context : Context) : Nat :=
  context.counters.scopes.length + 1

/-- The drops in the register of loops, the innermost last. What is no array holds none. -/
def forloopStack (context : Context) : List Data :=
  match context.register forRegister with
  | .array stack => stack
  | _ => []

theorem currentForloop_eq (context : Context) :
    context.currentForloop =
      match context.forloopStack.getLast? with
      | some (.drop id) => some id
      | _ => none := by
  unfold currentForloop forloopStack
  cases context.register forRegister <;> rfl

theorem register_setRegister (context : Context) (name other : String) (data : Data) :
    (context.setRegister name data).register other =
      if other = name then data else context.register other := by
  unfold register setRegister
  rw [Table.get?_set]
  split <;> rfl

theorem forloopStack_setRegister {context : Context} {name : String} (data : Data)
    (free : name ≠ forRegister) :
    (context.setRegister name data).forloopStack = context.forloopStack := by
  unfold forloopStack
  rw [register_setRegister, if_neg free.symm]

theorem forloopStack_enterLoop (context : Context) (itemName : String) (id : DropId) :
    (context.enterLoop itemName id).2.forloopStack = context.forloopStack ++ [.drop id] := by
  show (match (context.setRegister forRegister _).register forRegister with
    | .array stack => stack
    | _ => []) = _
  rw [register_setRegister, if_pos rfl]
  unfold forloopStack
  cases context.register forRegister <;> rfl

theorem forloopStack_leaveLoop (context : Context) (scope : LoopScope) :
    (context.leaveLoop scope).forloopStack = context.forloopStack.dropLast := by
  show (match (context.setRegister forRegister _).register forRegister with
    | .array stack => stack
    | _ => []) = _
  rw [register_setRegister, if_pos rfl]
  show (match popForloop (context.register forRegister) with
    | .array stack => stack
    | _ => []) = _
  unfold forloopStack
  cases context.register forRegister <;> rfl

theorem environments_enterLoop (context : Context) (itemName : String) (id : DropId) :
    (context.enterLoop itemName id).2.environments = context.environments + 1 := rfl

theorem environments_leaveLoop {context inside : Context} {itemName : String} {id : DropId}
    (scope : LoopScope)
    (same : inside.environments = (context.enterLoop itemName id).2.environments) :
    (inside.leaveLoop scope).environments = context.environments := by
  have popped : (inside.leaveLoop scope).environments =
      inside.counters.scopes.tail.length + 1 := rfl
  rw [environments_enterLoop] at same
  rw [popped, List.length_tail]
  unfold environments at same ⊢
  omega

theorem length_setScoped? {name : String} {n : Int64} {scopes next : List (Table Int64)}
    (set : Counters.setScoped? name n scopes = some next) : next.length = scopes.length := by
  induction scopes generalizing next with
  | nil => cases set
  | cons scope scopes ih =>
    unfold Counters.setScoped? at set
    split at set
    · cases set
      rfl
    · obtain ⟨rest, setRest, rfl⟩ := Option.map_eq_some_iff.1 set
      rw [List.length_cons, List.length_cons, ih setRest]

theorem environments_set (context : Context) (name : String) (n : Int64) :
    { context with counters := context.counters.set name n }.environments =
      context.environments := by
  unfold environments Counters.set
  cases set : Counters.setScoped? name n context.counters.scopes with
  | none => rfl
  | some scopes => exact congrArg (· + 1) (length_setScoped? set)

theorem Evolves.environments {names : String → Prop} {first last : Context}
    (evolves : Evolves False names first last) : last.environments = first.environments := by
  induction evolves with
  | host hosted => exact hosted.elim
  | trans _ _ before after => exact after.trans before
  | count context name n => exact environments_set context name n
  | loop _ same => exact environments_leaveLoop _ same
  | refl | drops | assign | setRegister | signal => rfl

theorem Evolves.forloopStack {names : String → Prop} {first last : Context}
    (evolves : Evolves False names first last) : last.forloopStack = first.forloopStack := by
  induction evolves with
  | host hosted => exact hosted.elim
  | trans _ _ before after => exact after.trans before
  | setRegister context data free => exact forloopStack_setRegister data free
  | loop _ same =>
    rw [forloopStack_leaveLoop, same, forloopStack_enterLoop, List.dropLast_concat]
  | refl | drops | assign | count | signal => rfl

theorem Evolves.currentForloop {names : String → Prop} {first last : Context}
    (evolves : Evolves False names first last) : last.currentForloop = first.currentForloop := by
  rw [currentForloop_eq, currentForloop_eq, evolves.forloopStack]

/-- Beside what the state `start` had, both stacks hold the running loops. -/
structure Balanced (start : Context) (loops : List RunningLoop) (context : Context) : Prop where
  environments : context.environments = start.environments + loops.length
  forloopStack : context.forloopStack =
    start.forloopStack ++ loops.reverse.map fun loop => .drop loop.id

theorem balanced_start (context : Context) : Balanced context [] context :=
  ⟨rfl, (List.append_nil _).symm⟩

theorem balanced_invariant (start : Context) : CourseInvariant (Balanced start) where
  evolves balanced evolves :=
    ⟨evolves.environments.trans balanced.environments,
      evolves.forloopStack.trans balanced.forloopStack⟩
  enters loop balanced := by
    refine ⟨?_, ?_⟩
    · rw [environments_enterLoop, balanced.environments, List.length_cons, Nat.add_assoc]
    · rw [forloopStack_enterLoop, balanced.forloopStack, List.reverse_cons, List.map_append,
        List.append_assoc]
      rfl

theorem Balanced.currentForloop {start context : Context} {loop : RunningLoop}
    {outer : List RunningLoop} (balanced : Balanced start (loop :: outer) context) :
    context.currentForloop = some loop.id := by
  rw [currentForloop_eq, balanced.forloopStack, List.reverse_cons, List.map_append,
    ← List.append_assoc]
  simp

/-- Leaving a loop puts back the bindings of its variable and of `forloop`. -/
theorem binding?_leaveLoop {names : String → Prop} {context inside : Context}
    {itemName key : String} {id : DropId}
    (within : Evolves False names (context.enterLoop itemName id).2 inside)
    (hidden : key = forloopKey ∨ key = itemName) :
    (inside.leaveLoop (context.enterLoop itemName id).1).root.binding? key =
      context.root.binding? key := by
  have changed : Data.ChangedOnlyAt names context.root inside.root := within.changedOnlyAt
  cases root : context.root with
  | hash before =>
    obtain ⟨left, isLeft, -, -⟩ := changed.ofHash before root
    obtain ⟨back, isBack, bound⟩ := leaveLoop_hash itemName id root isLeft
    rw [isBack]
    show back.get? key = before.get? key
    rw [bound, if_pos hidden]
  | _ =>
    have other : context.root.hash? = none := by rw [root]; rfl
    rw [leaveLoop_other itemName id other (changed.ofOther other), root]

end Context

/-- A loop that visits an item leaves the bindings of its variable and of `forloop` as they were.
One that visits none leaves them as its other body does. -/
theorem LoopHeader.binding?_render (header : LoopHeader) {names free : String → Prop}
    {body otherwise : Render String} (bodyConfined : Render.Confined False names body)
    (otherwiseConfined : Render.Confined False free otherwise) (context : Context) {key : String}
    (hidden : key = Context.forloopKey ∨ key = header.itemName)
    (unbound : ∀ window next, header.window context = .ok window next → window.length = 0 →
      ¬ free key) :
    (Render.stateAfter (header.render body otherwise) context).root.binding? key =
      context.root.binding? key := by
  have windowReads := header.reads_window
  unfold render
  rw [Render.stateAfter_bind]
  cases run : header.window context with
  | error error last =>
    obtain ⟨drops, rfl⟩ := windowReads.of_error run
    rfl
  | ok window next =>
    obtain ⟨drops, rfl⟩ := windowReads.of_ok run
    show (Render.stateAfter (ite _ _ _) _).root.binding? key = _
    split
    · next empty =>
      have changed := (otherwiseConfined { context with drops }).changedOnlyAt
      exact changed.binding? (unbound window _ run empty)
    · rw [Render.stateAfter_bind]
      show (Render.stateAfter (Render.withLoop _ _ _) _).root.binding? key = _
      rw [Render.stateAfter_withLoop]
      have anything := bodyConfined.mono fun evolves => evolves.mono fun _ _ => trivial
      have iterates (id : DropId) :=
        header.confined_iterate id window anything trivial trivial window.length 0 ""
      exact Context.binding?_leaveLoop (iterates _ _) hidden

namespace Node

/-- Loops are entered and left in pairs, however the render ends. A loop that visits an item leaves
both stacks and the bindings it hides as they were, and one that visits none binds at most the
targets of its other body. Inside there is one environment more for each running loop, and an
iteration starts with the loop's own drop and item in place. -/
theorem loop_scopes_balance (filters : FilterTable) :
    (∀ (header : LoopHeader) (body : List Node) (otherwise : Option (List Node))
        (context : Context), BuiltIn [.loop header body otherwise] →
      let after := Render.stateAfter ((Node.loop header body otherwise).render filters) context
      after.environments = context.environments ∧
      after.currentForloop = context.currentForloop ∧
      (∀ key, key = Context.forloopKey ∨ key = header.itemName →
        (∀ window next nodes, header.window context = .ok window next → window.length = 0 →
          otherwise = some nodes → ¬ Targets nodes key) →
        after.root.binding? key = context.root.binding? key) ∧
      ∀ visit ∈ ((Node.loop header body otherwise).trace filters []).visits context,
        visit.context.environments = context.environments + visit.loops.length ∧
        (visit.moment = .iteration → ∃ loop outer, visit.loops = loop :: outer ∧
          visit.context.currentForloop = some loop.id ∧
          visit.context.root.binding? Context.forloopKey = some (.drop loop.id) ∧
          visit.context.root.binding? loop.header.itemName =
            some (if loop.header.itemName = Context.forloopKey then .drop loop.id
              else loop.item))) ∧
    ∀ (tree : List Node) (root : Data) (drops : DropStore), BuiltIn tree →
      (∀ visit ∈ (traceBody filters [] "" tree).visits (.start root drops),
        visit.context.environments = visit.loops.length + 1) ∧
      (Render.stateAfter (renderBody filters "" tree) (.start root drops)).environments = 1 := by
  constructor
  · intro header body otherwise context builtIn after
    have only := builtIn.bindsOnly
    have evolves := confined_render filters (.loop header body otherwise) only context
    refine ⟨evolves.environments, evolves.currentForloop, ?_, ?_⟩
    · intro key hidden unbound
      have inside := confined_renderBody filters "" body (only.inner List.mem_cons_self)
      have last : Render.Confined False (fun key => ∃ nodes, otherwise = some nodes ∧ Targets nodes key)
          (renderOtherwise filters otherwise) := by
        cases otherwise with
        | none => exact Render.keeps_pure ""
        | some nodes =>
          have targets := (builtIn.inner (.tail _ List.mem_cons_self)).bindsOnly
          exact (confined_renderBody filters "" nodes targets).mono fun evolves =>
            evolves.mono fun _ target => ⟨nodes, rfl, target⟩
      refine header.binding?_render inside last context hidden ?_
      rintro window next run empty ⟨nodes, isSome, target⟩
      exact unbound window next nodes run empty isSome target
    · intro visit member
      have ready : context.Ready (Context.Balanced context) False [] :=
        ⟨Context.balanced_start context, False.elim⟩
      have sound := sound_trace (Context.balanced_invariant context) filters []
        (.loop header body otherwise) only context ready visit member
      refine ⟨sound.kept.environments, ?_⟩
      intro starts
      obtain ⟨loop, outer, loops, bindsForloop, bindsItem⟩ := sound.binds starts
      have kept := sound.kept
      rw [loops] at kept
      exact ⟨loop, outer, loops, kept.currentForloop, bindsForloop, bindsItem⟩
  · intro tree root drops builtIn
    have only := builtIn.bindsOnly
    refine ⟨?_, (confined_renderBody filters "" tree only _).environments⟩
    intro visit member
    have ready : (Context.start root drops).Ready (Context.Balanced (.start root drops)) False [] :=
      ⟨Context.balanced_start _, False.elim⟩
    have sound := sound_traceBody (Context.balanced_invariant _) filters [] "" tree only _ ready
      visit member
    rw [sound.kept.environments, Nat.add_comm]
    rfl

/-- A loop over a string whose body binds the loop's own names again: inside there are two
environments, and afterwards the caller's bindings stand as before. -/
theorem loop_scopes_balance_shadowed :
    let header : LoopHeader := ⟨"x", .collection (.string "a"), false, none, none⟩
    let body : List Node := [.assign "x" ⟨.int 1, []⟩, .assign "forloop" ⟨.int 2, []⟩]
    let context := Context.start (.hash (.ofList [("x", .string "mine")])) .empty
    let after := Render.stateAfter ((Node.loop header body none).render .empty) context
    BuiltIn [.loop header body none] ∧
      after.root.binding? "x" = some (.string "mine") ∧
      after.root.binding? "forloop" = none ∧
      ∃ visit ∈ ((Node.loop header body none).trace .empty []).visits context,
        visit.moment = .iteration ∧ visit.context.environments = 2 ∧
        visit.context.currentForloop = some ⟨0⟩ := by
  intro header body context after
  have builtIn : BuiltIn [.loop header body none] := by
    simp [body, bodies, isHost]
  obtain ⟨balanced, -⟩ := loop_scopes_balance .empty
  obtain ⟨-, -, bindings, points⟩ := balanced header body none context builtIn
  refine ⟨builtIn, ?_, ?_, ?_⟩
  · exact bindings "x" (.inr rfl) (by simp)
  · exact bindings "forloop" (.inl rfl) (by simp)
  · refine ⟨_, List.mem_cons_self, rfl, ?_, ?_⟩
    · exact (points _ List.mem_cons_self).1
    · rfl

/-- A loop without items binds what its other body assigns, its own variable too. -/
theorem empty_loop_binds_variable :
    let node : Node :=
      .loop ⟨"x", .collection .nil, false, none, none⟩ [] (some [.assign "x" ⟨.int 1, []⟩])
    let context := Context.start (.hash .empty) .empty
    BuiltIn [node] ∧ context.root.binding? "x" = none ∧
      (Render.stateAfter (node.render .empty) context).root.binding? "x" = some (.int 1) := by
  intro node context
  refine ⟨?_, rfl, rfl⟩
  simp [node, bodies, isHost]

end Node

end TextTemplate
