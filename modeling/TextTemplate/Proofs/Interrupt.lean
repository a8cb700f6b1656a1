import TextTemplate.Proofs.Structured
import TextTemplate.Proofs.Visits

/-!
# The pending interrupt is a structured signal

Rendering keeps what `break` and `continue` ask for in the state, where bodies, sections and loops
look for it. `Simulates` relates this to the structured semantics: the two agree on everything else,
and what is pending after a render is the signal of the structured outcome. There is one lemma for
each place that looks at the flag, and the induction over nodes needs nothing else.
-/

namespace TextTemplate

/-- The state with another pending interrupt. -/
def Context.withSignal (context : Context) (signal : Option Interrupt) : Context :=
  { context with interrupt := signal }

/-- The same interrupt is pending in both states. -/
def Context.SameSignal (before after : Context) : Prop :=
  after.interrupt = before.interrupt

namespace Context

instance : Std.Refl SameSignal := ⟨fun _ => rfl⟩

instance : Trans SameSignal SameSignal SameSignal := ⟨fun before after => after.trans before⟩

theorem Reads.sameSignal {first last : Context} (reads : Reads first last) :
    SameSignal first last := by
  obtain ⟨drops, rfl⟩ := reads
  rfl

theorem withSignal_of_clear {context : Context} (clear : context.interrupt = none) :
    context.withSignal none = context := by
  unfold withSignal
  rw [← clear]

end Context

namespace Render

variable {α : Type}

/-- The action leaves the pending interrupt as it is. -/
abbrev Quiet (action : Render α) : Prop :=
  Keeps Context.SameSignal action

/-- The action neither writes the pending interrupt nor looks at it. -/
def Deaf (action : Render α) : Prop :=
  ∀ context signal, action (context.withSignal signal) =
    match action context with
    | .ok value next => .ok value (next.withSignal signal)
    | .error error next => .error error (next.withSignal signal)

theorem Deaf.quiet {action : Render α} (deaf : Deaf action) : Quiet action := by
  intro context
  have same := deaf context context.interrupt
  change action context = _ at same
  unfold stateAfter
  cases run : action context with
  | ok value next =>
    rw [run] at same
    injection same with _ same
    show next.interrupt = context.interrupt
    rw [same]
    rfl
  | error error next =>
    rw [run] at same
    injection same with _ same
    show next.interrupt = context.interrupt
    rw [same]
    rfl

theorem deaf_assign (key : String) (data : Data) : Deaf (assign key data) := by
  intro context signal
  unfold assign Context.assign Context.withSignal
  cases context.root.set key data with
  | ok root => rfl
  | error error => rfl

theorem deaf_register (name : String) {next : Data → Render α} (deaf : ∀ data, Deaf (next data)) :
    Deaf (register name >>= next) :=
  fun context signal => deaf (context.register name) context signal

theorem deaf_ite {condition : Prop} [Decidable condition] {yes no : Render α} (yesDeaf : Deaf yes)
    (noDeaf : Deaf no) : Deaf (if condition then yes else no) := by
  split
  · exact yesDeaf
  · exact noDeaf

theorem deaf_ifChanged (text : String) : Deaf (ifChanged text) := by
  refine deaf_register changedRegister fun last => deaf_ite ?_ ?_
  · exact fun _ _ => rfl
  · exact fun _ _ => rfl

/-- The result is what a structured one comes to, with the structured signal pending. After a
failure anything may be pending. The structured semantics itself leaves no interrupt pending. -/
def Follows : EStateM.Result RenderError Context Outcome →
    EStateM.Result RenderError Context String → Prop
  | .ok outcome next, result =>
    next.interrupt = none ∧ result = .ok outcome.text (next.withSignal outcome.signal)
  | .error error next, result => ∃ pending, result = .error error (next.withSignal pending)

/-- With `signal` pending the action does what the structured one does. -/
def Simulates (signal : Option Interrupt) (structured : Render Outcome) (action : Render String) :
    Prop :=
  ∀ context, context.interrupt = none →
    Follows (structured context) (action (context.withSignal signal))

variable {signal : Option Interrupt} {structured : Render Outcome} {action : Render String}

theorem simulates_pure (signal : Option Interrupt) (text : String) :
    Simulates signal (pure ⟨text, signal⟩) (pure text) :=
  fun _ clear => ⟨clear, rfl⟩

theorem simulates_bind {next : Outcome → Render Outcome} {after : String → Render String}
    (first : Simulates signal structured action)
    (second : ∀ outcome, Simulates outcome.signal (next outcome) (after outcome.text)) :
    Simulates signal (structured >>= next) (action >>= after) := by
  intro context clear
  have follows := first context clear
  show Follows (EStateM.bind structured next context) (EStateM.bind action after _)
  unfold EStateM.bind
  cases run : structured context with
  | ok outcome middle =>
    rw [run] at follows
    obtain ⟨clear, same⟩ := follows
    rw [same]
    exact second outcome middle clear
  | error error middle =>
    rw [run] at follows
    obtain ⟨pending, same⟩ := follows
    rw [same]
    exact ⟨pending, rfl⟩

/-- What comes before the two actions may be anything that leaves a clear flag clear. -/
theorem simulates_quiet {before : Render α} {next : α → Render Outcome}
    {after : α → Render String} (quiet : Quiet before)
    (second : ∀ value, Simulates none (next value) (after value)) :
    Simulates none (before >>= next) (before >>= after) := by
  intro context clear
  rw [Context.withSignal_of_clear clear]
  show Follows (EStateM.bind before next context) (EStateM.bind before after context)
  unfold EStateM.bind
  cases run : before context with
  | ok value middle =>
    have clear : middle.interrupt = none := (quiet.of_ok run).trans clear
    have follows := second value middle clear
    rwa [Context.withSignal_of_clear clear] at follows
  | error error middle => exact ⟨middle.interrupt, rfl⟩

/-- With an interrupt pending, what comes first must not look at it. -/
theorem simulates_deaf {before : Render α} {next : α → Render Outcome}
    {after : α → Render String} (deaf : Deaf before)
    (second : ∀ value, Simulates signal (next value) (after value)) :
    Simulates signal (before >>= next) (before >>= after) := by
  intro context clear
  show Follows (EStateM.bind before next context) (EStateM.bind before after _)
  unfold EStateM.bind
  rw [deaf context signal]
  cases run : before context with
  | ok value middle => exact second value middle ((deaf.quiet.of_ok run).trans clear)
  | error error middle => exact ⟨signal, rfl⟩

/-- An action that leaves the flag alone ends without a signal. -/
theorem simulates_leaf (quiet : Quiet action) :
    Simulates none (do let text ← action; return ⟨text, none⟩) action := by
  have simulates := simulates_quiet quiet fun text => simulates_pure none text
  rwa [bind_pure] at simulates

/-- Looking at the flag and stopping there if it is set. -/
theorem simulates_stop (signal : Option Interrupt) (text : String)
    (goesOn : Simulates none structured action) :
    Simulates signal
      (match signal with
        | some signal => return ⟨text, some signal⟩
        | none => structured)
      (do if ← isInterrupted then return text else action) := by
  cases signal with
  | some signal => exact fun _ clear => ⟨clear, rfl⟩
  | none => exact goesOn

/-- Taking the pending interrupt. -/
theorem simulates_take {after : Option Interrupt → Render String}
    (taken : Simulates none structured (after signal)) :
    Simulates signal structured (takeInterrupt >>= after) :=
  taken

theorem simulates_withLoop (itemName : String) (id : DropId)
    (inside : Simulates none structured action) :
    Simulates none (withLoop itemName id structured) (withLoop itemName id action) := by
  intro context clear
  rw [Context.withSignal_of_clear clear]
  have clearInside : (context.enterLoop itemName id).2.interrupt = none := clear
  have follows := inside (context.enterLoop itemName id).2 clearInside
  rw [Context.withSignal_of_clear clearInside] at follows
  unfold withLoop
  cases run : structured (context.enterLoop itemName id).2 with
  | ok outcome last =>
    rw [run] at follows
    obtain ⟨clear, same⟩ := follows
    simp only [run, same]
    exact ⟨clear, rfl⟩
  | error error last =>
    rw [run] at follows
    obtain ⟨pending, same⟩ := follows
    simp only [run, same]
    exact ⟨pending, rfl⟩

end Render

namespace LoopHeader

variable {body : Render String} {structured : Render Outcome}

theorem quiet_beginIteration (header : LoopHeader) (id : DropId) (index : Nat) (item : Data) :
    Render.Quiet (header.beginIteration id index item) := by
  refine Render.keeps_bind (fun _ => rfl) fun _ => ?_
  refine Render.keeps_bind (Render.deaf_assign _ _).quiet fun _ => ?_
  exact (Render.deaf_assign _ _).quiet

theorem simulates_iterate (header : LoopHeader) (id : DropId) (window : Sequence)
    (inside : Render.Simulates none structured body) (remaining index : Nat) (out : String) :
    Render.Simulates none (header.performIterations id window structured remaining index out)
      (header.iterate id window body remaining index out) := by
  induction remaining generalizing index out with
  | zero => exact Render.simulates_pure none out
  | succ remaining ih =>
    unfold performIterations iterate
    refine Render.simulates_quiet (quiet_beginIteration header id index _) fun _ => ?_
    refine Render.simulates_bind inside fun outcome => Render.simulates_take ?_
    cases outcome.signal with
    | none => exact ih (index + 1) (out ++ outcome.text)
    | some signal =>
      cases signal with
      | breakLoop => exact Render.simulates_pure none _
      | continueLoop => exact ih (index + 1) (out ++ outcome.text)

theorem simulates_render (header : LoopHeader) {otherwise : Render String}
    {structuredOtherwise : Render Outcome} (inside : Render.Simulates none structured body)
    (last : Render.Simulates none structuredOtherwise otherwise) :
    Render.Simulates none (header.perform structured structuredOtherwise)
      (header.render body otherwise) := by
  have reads := header.reads_window.mono Context.Reads.sameSignal
  refine Render.simulates_quiet reads fun window => ?_
  split
  · exact last
  · have adds := (reads_addForloop window.length).mono Context.Reads.sameSignal
    refine Render.simulates_quiet adds fun id => ?_
    exact Render.simulates_withLoop _ _ (simulates_iterate header id window inside _ 0 "")

/-- Every iteration ends by taking the interrupt. -/
theorem interrupt_iterate (header : LoopHeader) (id : DropId) (window : Sequence)
    (body : Render String) (remaining index : Nat) (out : String) {context last : Context}
    {text : String} (clear : remaining = 0 → context.interrupt = none)
    (run : header.iterate id window body remaining index out context = .ok text last) :
    last.interrupt = none := by
  induction remaining generalizing index out context with
  | zero =>
    cases run
    exact clear rfl
  | succ remaining ih =>
    unfold iterate at run
    obtain ⟨_, _, -, run⟩ := Render.bind_eq_ok.1 run
    obtain ⟨text, ended, -, run⟩ := Render.bind_eq_ok.1 run
    obtain ⟨_, _, taken, run⟩ := Render.bind_eq_ok.1 run
    cases taken
    cases signal : ended.interrupt with
    | none =>
      rw [signal] at run
      exact ih _ _ (fun _ => rfl) run
    | some interrupt =>
      rw [signal] at run
      cases interrupt with
      | breakLoop =>
        cases run
        rfl
      | continueLoop => exact ih _ _ (fun _ => rfl) run

/-- A loop with items that succeeds leaves no interrupt pending, whatever its body does. -/
theorem interrupt_render (header : LoopHeader) (body otherwise : Render String)
    {context opened last : Context} {window : Sequence} {text : String}
    (windowed : header.window context = .ok window opened) (items : window.length ≠ 0)
    (run : header.render body otherwise context = .ok text last) : last.interrupt = none := by
  obtain ⟨_, _, same, run⟩ := Render.bind_eq_ok.1 run
  rw [windowed] at same
  cases same
  rw [if_neg items] at run
  obtain ⟨id, added, -, run⟩ := Render.bind_eq_ok.1 run
  unfold Render.withLoop at run
  cases inside : header.iterate id window body window.length 0 ""
      (added.enterLoop header.itemName id).2 with
  | error error ended => simp [inside] at run
  | ok value ended =>
    have clear := interrupt_iterate header id window body window.length 0 ""
      (fun empty => absurd empty items) inside
    simp only [inside] at run
    cases run
    exact clear

end LoopHeader

namespace Node

open Render (Simulates)

theorem quiet_object (filters : FilterTable) (pipeline : Pipeline) :
    Render.Quiet ((object pipeline).render filters) :=
  Render.keeps_bind ((pipeline.reads_eval filters).mono Context.Reads.sameSignal) fun _ =>
    Render.keeps_pure _

theorem quiet_assign (filters : FilterTable) (name : String) (pipeline : Pipeline) :
    Render.Quiet ((assign name pipeline).render filters) := by
  refine Render.keeps_bind ((pipeline.reads_eval filters).mono Context.Reads.sameSignal)
    fun data => ?_
  exact Render.keeps_bind (Render.deaf_assign name data).quiet fun _ => Render.keeps_pure ""

theorem quiet_cycle (filters : FilterTable) (rotation : Cycle) :
    Render.Quiet ((cycle rotation).render filters) :=
  rotation.keeps_render Context.Reads.sameSignal fun _ _ _ _ => rfl

theorem simulates_ofDrops {α : Type} {next : Context → DropM α} {structured : α → Render Outcome}
    {action : α → Render String}
    (second : ∀ value, Simulates none (structured value) (action value)) :
    Simulates none (do structured (← Render.ofDrops (next (← get))))
      (do action (← Render.ofDrops (next (← get)))) := by
  refine Render.simulates_quiet Render.keeps_get fun context => ?_
  have reads := (Render.keeps_reads_ofDrops (next context)).mono Context.Reads.sameSignal
  exact Render.simulates_quiet reads second

mutual

theorem simulates_render (filters : FilterTable) :
    (node : Node) → BuiltIn [node] → Simulates none (node.perform filters) (node.render filters)
  | .cond negate sections otherwise, builtIn => by
    have last := simulates_renderOtherwise filters otherwise fun body held =>
      builtIn.inner (mem_bodies_of_otherwise held)
    exact simulates_renderFirst filters last negate sections fun part held =>
      builtIn.inner (mem_bodies_of_section held)
  | .case subject sections otherwise, builtIn => by
    have last := simulates_renderOtherwise filters otherwise fun body held =>
      builtIn.inner (mem_bodies_of_otherwise held)
    refine simulates_ofDrops fun value => ?_
    exact simulates_renderMatching filters last value "" false sections fun part held =>
      builtIn.inner (mem_bodies_of_section held)
  | .loop header body otherwise, builtIn => by
    have inside := simulates_renderBody filters "" body (builtIn.inner List.mem_cons_self)
    have last := simulates_renderOtherwise filters otherwise fun body held =>
      builtIn.inner (.tail _ (Option.mem_toList.2 held))
    exact header.simulates_render inside last
  | .capture name body, builtIn => by
    have inside := simulates_renderBody filters "" body (builtIn.inner List.mem_cons_self)
    refine Render.simulates_bind inside fun outcome => ?_
    refine Render.simulates_deaf (Render.deaf_assign name _) fun _ => ?_
    exact Render.simulates_pure outcome.signal ""
  | .changed body, builtIn => by
    have inside := simulates_renderBody filters "" body (builtIn.inner List.mem_cons_self)
    refine Render.simulates_bind inside fun outcome => ?_
    have compares := Render.simulates_deaf (Render.deaf_ifChanged outcome.text) fun text =>
      Render.simulates_pure outcome.signal text
    rwa [bind_pure] at compares
  | .interrupt signal, _ => fun _ clear => ⟨clear, rfl⟩
  | .text literal, _ => Render.simulates_leaf (Render.keeps_pure literal)
  | .object pipeline, _ => Render.simulates_leaf (quiet_object filters pipeline)
  | .cycle rotation, _ => Render.simulates_leaf (quiet_cycle filters rotation)
  | .assign name pipeline, _ => Render.simulates_leaf (quiet_assign filters name pipeline)
  | .increment name, _ => Render.simulates_leaf fun _ => rfl
  | .decrement name, _ => Render.simulates_leaf fun _ => rfl
  | .comment, _ => Render.simulates_leaf (Render.keeps_pure "")
  | .host run body, builtIn => nomatch builtIn _ (.top List.mem_cons_self)

/-- A body without nodes of the host is rendered as the structured semantics says. -/
theorem simulates_renderBody (filters : FilterTable) (out : String) :
    (body : List Node) → BuiltIn body →
      Simulates none (performBody filters out body) (renderBody filters out body)
  | [], _ => Render.simulates_pure none out
  | node :: nodes, builtIn => by
    have first := simulates_render filters node builtIn.head
    refine Render.simulates_bind first fun outcome => ?_
    exact Render.simulates_stop outcome.signal _
      (simulates_renderBody filters (out ++ outcome.text) nodes builtIn.tail)

theorem simulates_renderOtherwise (filters : FilterTable) :
    (otherwise : Option (List Node)) → (∀ body ∈ otherwise, BuiltIn body) →
      Simulates none (performOtherwise filters otherwise) (renderOtherwise filters otherwise)
  | some body, builtIn => simulates_renderBody filters "" body (builtIn body rfl)
  | none, _ => Render.simulates_pure none ""

theorem simulates_renderFirst (filters : FilterTable) {structured : Render Outcome}
    {otherwise : Render String} (last : Simulates none structured otherwise) (negate : Bool) :
    (sections : List (Section Condition Node)) → (∀ part ∈ sections, BuiltIn part.body) →
      Simulates none (performFirst filters structured negate sections)
        (renderFirst filters otherwise negate sections)
  | [], _ => last
  | ⟨condition, body⟩ :: sections, builtIn => by
    have inside := simulates_renderBody filters "" body (builtIn _ List.mem_cons_self)
    have rest := simulates_renderFirst filters last false sections fun part held =>
      builtIn part (List.mem_cons_of_mem _ held)
    refine simulates_ofDrops fun holds => ?_
    split
    · exact inside
    · exact rest

theorem simulates_renderMatching (filters : FilterTable) {structured : Render Outcome}
    {otherwise : Render String} (last : Simulates none structured otherwise) (subject : Data)
    (out : String) (matched : Bool) :
    (sections : List (Section (List Expr) Node)) → (∀ part ∈ sections, BuiltIn part.body) →
      Simulates none (performMatching filters structured subject out matched sections)
        (renderMatching filters otherwise subject out matched sections)
  | [], _ => by
    unfold performMatching renderMatching
    split
    · exact Render.simulates_pure none out
    · exact Render.simulates_bind last fun outcome => Render.simulates_pure outcome.signal _
  | ⟨values, body⟩ :: sections, builtIn => by
    have inside := simulates_renderBody filters "" body (builtIn _ List.mem_cons_self)
    have rest (out : String) (matched : Bool) := simulates_renderMatching filters last subject out
      matched sections fun part held => builtIn part (List.mem_cons_of_mem _ held)
    refine simulates_ofDrops fun found => ?_
    split
    · refine Render.simulates_bind inside fun outcome => ?_
      exact Render.simulates_stop outcome.signal _ (rest (out ++ outcome.text) true)
    · exact rest out matched

end

/-- The pending interrupt implements structured `break` and `continue`: a body does what the
structured semantics says and leaves the uncaught signal pending, no node is rendered while an
interrupt is pending, and a loop with items leaves none. -/
theorem interrupts_are_structured (filters : FilterTable) {body : List Node} {context : Context}
    (builtIn : BuiltIn body) (clear : context.interrupt = none) :
    Render.Follows (performBody filters "" body context) (renderBody filters "" body context) ∧
    (∀ loops, ∀ visit ∈ (traceBody filters loops "" body).visits context,
      ∀ node, visit.moment = .node node → visit.context.interrupt = none) ∧
    ∀ (header : LoopHeader) (inner : List Node) (otherwise : Option (List Node))
      (before opened last : Context) (window : Sequence) (text : String),
      header.window before = .ok window opened → window.length ≠ 0 →
      (loop header inner otherwise).render filters before = .ok text last →
      last.interrupt = none := by
  refine ⟨?_, ?_, ?_⟩
  · have follows := simulates_renderBody filters "" body builtIn context clear
    rwa [Context.withSignal_of_clear clear] at follows
  · intro loops visit member node here
    -- what is wanted holds at every point, so the invariant may be the trivial one
    have course : CourseInvariant fun _ _ => True := ⟨fun _ _ => trivial, fun _ _ => trivial⟩
    have ready : context.Ready (fun _ _ => True) True loops := ⟨trivial, fun _ => clear⟩
    have sound := sound_traceBody course filters loops "" body builtIn.bindsOnly context ready
      visit member
    refine sound.uncut trivial fun text compares => ?_
    rw [here] at compares
    exact nomatch compares
  · intro header inner otherwise before opened last window text windowed items run
    exact header.interrupt_render _ _ windowed items run

/-- A `break` inside a capture ends the inner loop only and a `continue` goes on with the outer one,
while the last `break` meets no loop. -/
theorem interrupts_are_structured_nested :
    let items : LoopSource := .collection (.lookup [.key "items"])
    let inner : Node := .loop ⟨"x", items, false, none, none⟩
      [.object ⟨.lookup [.key "x"], []⟩,
        .capture "kept" [.text "c", .interrupt .breakLoop], .text "after"] none
    let outer : Node := .loop ⟨"y", items, false, none, none⟩
      [.text "<", inner, .text ">", .interrupt .continueLoop, .text "after"] none
    let body : List Node := [outer, .text ".", .interrupt .breakLoop, .text "after"]
    let context := Context.start (.hash (.ofList [("items", .array [.int 1, .int 2])])) .empty
    BuiltIn body ∧ context.interrupt = none ∧
      ∃ last, renderBody .empty "" body context = .ok "<1><1>." last ∧
        last.interrupt = some .breakLoop := by
  intro items inner outer body context
  have builtIn : BuiltIn body := by
    simp [body, outer, inner, bodies, isHost]
  have clear : context.interrupt = none := rfl
  obtain ⟨next, run⟩ : ∃ next, performBody .empty "" body context =
      .ok ⟨"<1><1>.", some .breakLoop⟩ next :=
    Render.exists_ok (by decide +kernel)
  -- the run is known, so nothing needs to look at what is rendered any more
  clear_value body context
  have follows := (interrupts_are_structured .empty builtIn clear).1
  rw [run] at follows
  exact ⟨builtIn, clear, _, follows.2, rfl⟩

end Node

end TextTemplate
