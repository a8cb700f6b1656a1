import TextTemplate.Proofs.Evolution
import TextTemplate.Proofs.Table
import TextTemplate.Proofs.Trace

/-!
# Invariants along the course of a render

A property of the state and of the running loops that evolution keeps, and that entering a loop
carries on to the longer list of loops, holds at every point that a render comes by
(`Node.sound_traceBody`). Two facts hold at the points whatever the property is: an iteration
starts with its bindings made, and no node is rendered while an interrupt is pending unless one
was pending from the start.
-/

namespace TextTemplate

/-- The property is kept while nodes are rendered and when a loop is entered. -/
structure CourseInvariant (invariant : List RunningLoop → Context → Prop) : Prop where
  evolves : ∀ {loops : List RunningLoop} {names : String → Prop} {first last : Context},
    invariant loops first → Context.Evolves False names first last → invariant loops last
  enters : ∀ {loops : List RunningLoop} {context : Context} (loop : RunningLoop),
    invariant loops context →
      invariant (loop :: loops) (context.enterLoop loop.header.itemName loop.id).2

/-- The data root binds the variable of the innermost loop to the item and `forloop` to the loop's
drop. The drop wins if the variable has the same name. -/
def Visit.BindsItem (visit : Visit) : Prop :=
  ∃ loop outer, visit.loops = loop :: outer ∧
    visit.context.root.binding? Context.forloopKey = some (.drop loop.id) ∧
    visit.context.root.binding? loop.header.itemName =
      some (if loop.header.itemName = Context.forloopKey then .drop loop.id else loop.item)

/-- Actions that read drops between the points of a course. -/
inductive Render.Reading : {α : Type} → Render α → Prop
  | expr (expr : Expr) : Reading do ofDrops (expr.eval (← get).root)
  | condition (condition : Condition) : Reading do ofDrops (condition.eval (← get).root)
  | values (subject : Data) (values : List Expr) :
      Reading do ofDrops (Expr.anyEquals (← get).root subject values)
  | window (header : LoopHeader) : Reading header.window

theorem Render.Reading.keeps {α : Type} {action : Render α} (reading : Reading action) :
    Keeps Context.Reads action := by
  cases reading with
  | window header => exact header.reads_window
  | _ => exact keeps_bind keeps_get fun _ => keeps_reads_ofDrops _

/-- The property `invariant` is kept between the points of a course through nodes with the property
`allowed`. When a loop is entered and after each of its iterations `entered` holds, with the number
of the next iteration, and it gives the invariant of this iteration. -/
structure Course (filters : FilterTable) (allowed : Node → Prop)
    (invariant : List RunningLoop → Context → Prop)
    (entered : RunningLoop → List RunningLoop → Context → Prop) : Prop where
  reads : ∀ {loops : List RunningLoop} {context : Context} {α : Type} {action : Render α},
    action.Reading → invariant loops context → invariant loops (action.stateAfter context)
  node : ∀ {loops : List RunningLoop} {context : Context} {node : Node},
    Node.Everywhere allowed [node] → invariant loops context →
      invariant loops ((node.render filters).stateAfter context)
  body : ∀ {loops : List RunningLoop} {context : Context} {body : List Node},
    Node.Everywhere allowed body → invariant loops context →
      invariant loops ((Node.renderBody filters "" body).stateAfter context)
  enters : ∀ {loops : List RunningLoop} {context added : Context} {header : LoopHeader}
    {window : Sequence} {id : DropId}, invariant loops context →
      LoopHeader.addForloop window.length context = .ok id added →
      entered ⟨header, id, window, 0⟩ loops (added.enterLoop header.itemName id).2
  begins : ∀ {loops : List RunningLoop} {context begun : Context} {loop : RunningLoop},
    entered loop loops context → loop.index < loop.window.length →
      loop.header.beginIteration loop.id loop.index loop.item context = .ok () begun →
      invariant (loop :: loops) begun
  ends : ∀ {loops : List RunningLoop} {before context : Context} {loop : RunningLoop},
    entered loop loops before → invariant (loop :: loops) context →
      entered { loop with index := loop.index + 1 } loops { context with interrupt := none }

variable {invariant : List RunningLoop → Context → Prop} {clear : Prop}
  {entered : RunningLoop → List RunningLoop → Context → Prop} {filters : FilterTable}
  {allowed : Node → Prop}

/-- What a theorem about courses says of a point. With `clear` no interrupt was pending at the
start. -/
structure Visit.Sound (invariant : List RunningLoop → Context → Prop) (clear : Prop)
    (visit : Visit) : Prop where
  kept : invariant visit.loops visit.context
  binds : visit.moment = .iteration → visit.BindsItem
  uncut : clear → (∀ text, visit.moment ≠ .comparison text) → visit.context.interrupt = none

/-- What a course asks of the state in which it starts. -/
structure Context.Ready (invariant : List RunningLoop → Context → Prop) (clear : Prop)
    (loops : List RunningLoop) (context : Context) : Prop where
  kept : invariant loops context
  uncut : clear → context.interrupt = none

namespace Context.Ready

variable {loops : List RunningLoop} {first last : Context}

theorem after_reading (ready : Ready invariant clear loops first)
    (course : Course filters allowed invariant entered) {α : Type} {action : Render α} {value : α}
    (reading : action.Reading) (run : action first = .ok value last) :
    Ready invariant clear loops last := by
  refine ⟨Render.of_stateAfter (course.reads reading ready.kept) run, ?_⟩
  obtain ⟨drops, rfl⟩ := reading.keeps.of_ok run
  exact ready.uncut

end Context.Ready

namespace Traced

variable {α β : Type} {context : Context} {visit : Visit}

theorem mem_visits_bind {action : Traced α} {next : α → Traced β} :
    visit ∈ (action >>= next).visits context ↔
      visit ∈ action.visits context ∨ ∃ value last, action.erase context = .ok value last ∧
        visit ∈ (next value).visits last := by
  change visit ∈ (Traced.bind action next context).2 ↔ _
  unfold Traced.bind visits erase
  cases run : action context with
  | mk result points =>
    cases result with
    | ok value last => simp [and_assoc]
    | error error last => simp

theorem mem_visits_lift_bind {action : Render α} {next : α → Traced β} :
    visit ∈ (lift action >>= next).visits context ↔
      ∃ value last, action context = .ok value last ∧ visit ∈ (next value).visits last := by
  rw [mem_visits_bind, erase_lift]
  exact or_iff_right List.not_mem_nil

theorem mem_visits_note_bind {moment : Moment} {loops : List RunningLoop} {next : Unit → Traced β} :
    visit ∈ (note moment loops >>= next).visits context ↔
      visit = ⟨moment, loops, context⟩ ∨ visit ∈ (next ()).visits context := by
  rw [mem_visits_bind, erase_note]
  constructor
  · rintro (here | ⟨_, last, run, there⟩)
    · exact .inl (List.mem_singleton.1 here)
    · cases run
      exact .inr there
  · rintro (here | there)
    · exact .inl (List.mem_singleton.2 here)
    · exact .inr ⟨(), context, rfl, there⟩

/-- All points are sound that the action comes by from a state that is ready. -/
def Sound (invariant : List RunningLoop → Context → Prop) (clear : Prop)
    (loops : List RunningLoop) (action : Traced α) : Prop :=
  ∀ context, context.Ready invariant clear loops →
    ∀ visit ∈ action.visits context, visit.Sound invariant clear

end Traced

theorem Data.binding?_set {root written : Data} {key : String} {data : Data}
    (set : root.set key data = .ok written) (other : String) :
    written.binding? other = if other = key then some data else root.binding? other := by
  cases root with
  | hash entries =>
    simp only [Data.set, Except.ok.injEq] at set
    subst set
    exact Table.get?_set entries key other data
  | _ => simp [Data.set] at set

theorem Render.assign_eq_ok {context last : Context} {key : String} {data : Data}
    (run : Render.assign key data context = .ok () last) :
    ∃ root, context.root.set key data = .ok root ∧ last = { context with root } := by
  unfold assign Context.assign at run
  cases written : context.root.set key data with
  | ok root =>
    rw [written] at run
    cases run
    exact ⟨root, rfl, rfl⟩
  | error error =>
    rw [written] at run
    cases run

namespace LoopHeader

variable {header : LoopHeader} {id : DropId} {loops : List RunningLoop} {window : Sequence}
  {context last : Context}

/-- An iteration that starts sets the number that the loop's drop tells, and binds two keys of the
data root. -/
theorem beginIteration_eq_ok {index : Nat} {item : Data}
    (run : header.beginIteration id index item context = .ok () last) :
    (∃ root, last = { context with root, drops := context.drops.setLoopIndex id index }) ∧
      last.root.binding? Context.forloopKey = some (.drop id) ∧
      last.root.binding? header.itemName =
        some (if header.itemName = Context.forloopKey then .drop id else item) := by
  obtain ⟨_, first, begun, run⟩ := Render.bind_eq_ok.1 run
  obtain ⟨_, second, itemBound, forloopBound⟩ := Render.bind_eq_ok.1 run
  obtain ⟨root, set, rfl⟩ := Render.assign_eq_ok itemBound
  obtain ⟨written, setForloop, rfl⟩ := Render.assign_eq_ok forloopBound
  cases begun
  refine ⟨⟨written, rfl⟩, ?_, ?_⟩
  · rw [Data.binding?_set setForloop, if_pos rfl]
  · rw [Data.binding?_set setForloop, Data.binding?_set set, if_pos rfl]
    split <;> rfl

/-- The iterations of a loop are sound if its body is. -/
theorem sound_traceIterate (course : Course filters allowed invariant entered)
    {body : List RunningLoop → Traced String} {action : Render String}
    (same : ∀ loops, (body loops).erase = action)
    (keeps : ∀ {loops : List RunningLoop} {context : Context}, invariant loops context →
      invariant loops (action.stateAfter context))
    (bodySound : ∀ loops, Traced.Sound invariant clear loops (body loops))
    (remaining index : Nat) (out : String) (within : index + remaining = window.length)
    (ready : context.Ready (entered ⟨header, id, window, index⟩) clear loops)
    {visit : Visit} (member : visit ∈
      (header.traceIterate loops id window body remaining index out).visits context) :
    visit.Sound invariant clear := by
  induction remaining generalizing index out context with
  | zero => exact absurd member List.not_mem_nil
  | succ remaining ih =>
    unfold traceIterate at member
    obtain ⟨_, begun, begin, member⟩ := Traced.mem_visits_lift_bind.1 member
    obtain ⟨⟨root, begunAs⟩, bindsForloop, bindsItem⟩ := beginIteration_eq_ok begin
    have flag : begun.interrupt = context.interrupt := by rw [begunAs]
    have before : index < window.length := by omega
    have readyBegun : begun.Ready invariant clear (⟨header, id, window, index⟩ :: loops) :=
      ⟨course.begins ready.kept before begin, fun holds => flag.trans (ready.uncut holds)⟩
    rcases Traced.mem_visits_note_bind.1 member with rfl | member
    · exact ⟨readyBegun.kept, fun _ => ⟨_, loops, rfl, bindsForloop, bindsItem⟩,
        fun holds _ => readyBegun.uncut holds⟩
    rcases Traced.mem_visits_bind.1 member with here | ⟨text, ended, run, member⟩
    · exact bodySound _ begun readyBegun visit here
    rw [same] at run
    obtain ⟨_, _, taken, member⟩ := Traced.mem_visits_lift_bind.1 member
    cases taken
    -- the interrupt was taken, so the next iteration is ready whatever the body did
    have readyNext : Context.Ready (entered ⟨header, id, window, index + 1⟩) clear loops
        { ended with interrupt := none } :=
      ⟨course.ends ready.kept (Render.of_stateAfter (keeps readyBegun.kept) run), fun _ => rfl⟩
    have withinNext : index + 1 + remaining = window.length := by omega
    cases signal : ended.interrupt with
    | none =>
      rw [signal] at member
      exact ih (index + 1) _ withinNext readyNext member
    | some interrupt =>
      rw [signal] at member
      cases interrupt with
      | breakLoop => exact absurd member List.not_mem_nil
      | continueLoop => exact ih (index + 1) _ withinNext readyNext member

/-- A loop is sound if its bodies are. -/
theorem sound_trace (course : Course filters allowed invariant entered)
    {body : List RunningLoop → Traced String} {otherwise : Traced String} {action : Render String}
    (same : ∀ loops, (body loops).erase = action)
    (keeps : ∀ {loops : List RunningLoop} {context : Context}, invariant loops context →
      invariant loops (action.stateAfter context))
    (bodySound : ∀ loops, Traced.Sound invariant clear loops (body loops))
    (otherwiseSound : Traced.Sound invariant clear loops otherwise) :
    Traced.Sound invariant clear loops (header.trace loops body otherwise) := by
  intro context ready visit member
  obtain ⟨window, opened, run, member⟩ := Traced.mem_visits_lift_bind.1 member
  have readyOpened := ready.after_reading course (.window header) run
  split at member
  · exact otherwiseSound opened readyOpened visit member
  obtain ⟨id, added, run, member⟩ := Traced.mem_visits_lift_bind.1 member
  have uncut : clear → added.interrupt = none := by
    obtain ⟨drops, rfl⟩ := (reads_addForloop window.length).of_ok run
    exact readyOpened.uncut
  exact sound_traceIterate course same keeps bodySound window.length 0 "" (Nat.zero_add _)
    ⟨course.enters readyOpened.kept run, uncut⟩ member

end LoopHeader

namespace Node

theorem isInterrupted_eq_ok {context last : Context} {interrupted : Bool}
    (run : Render.isInterrupted context = .ok interrupted last) :
    last = context ∧ interrupted = context.interrupt.isSome := by
  cases run
  exact ⟨rfl, rfl⟩

end Node

namespace Course

open Node (Everywhere traceBody traceOtherwise traceFirst traceMatching erase_trace
  erase_traceBody isInterrupted_eq_ok mem_bodies_of_section mem_bodies_of_otherwise)

mutual

theorem sound_trace (course : Course filters allowed invariant entered)
    (loops : List RunningLoop) :
    (node : Node) → Everywhere allowed [node] →
      Traced.Sound invariant clear loops (node.trace filters loops)
  | .cond negate sections otherwise, all => by
    have last := course.sound_traceOtherwise loops otherwise fun body held =>
      all.inner (mem_bodies_of_otherwise held)
    exact course.sound_traceFirst loops last negate sections fun part held =>
      all.inner (mem_bodies_of_section held)
  | .case subject sections otherwise, all => by
    have last := course.sound_traceOtherwise loops otherwise fun body held =>
      all.inner (mem_bodies_of_otherwise held)
    intro context ready visit member
    obtain ⟨value, next, run, member⟩ := Traced.mem_visits_lift_bind.1 member
    have readyNext := ready.after_reading course (.expr subject) run
    exact course.sound_traceMatching loops last value "" false sections (fun part held =>
      all.inner (mem_bodies_of_section held)) next readyNext visit member
  | .loop header body otherwise, all => by
    have inside : Everywhere allowed body := all.inner List.mem_cons_self
    have last := course.sound_traceOtherwise loops otherwise fun body held =>
      all.inner (.tail _ (Option.mem_toList.2 held))
    exact header.sound_trace course (fun loops => erase_traceBody filters loops "" body)
      (course.body inside) (fun loops => course.sound_traceBody loops "" body inside) last
  | .capture name body, all => by
    intro context ready visit member
    rcases Traced.mem_visits_bind.1 member with here | ⟨text, next, -, member⟩
    · exact course.sound_traceBody loops "" body (all.inner List.mem_cons_self)
        context ready visit here
    · obtain ⟨_, _, -, nowhere⟩ := Traced.mem_visits_lift_bind.1 member
      exact nomatch nowhere
  | .changed body, all => by
    intro context ready visit member
    have inside : Everywhere allowed body := all.inner List.mem_cons_self
    rcases Traced.mem_visits_bind.1 member with here | ⟨text, next, run, member⟩
    · exact course.sound_traceBody loops "" body inside context ready visit here
    rw [erase_traceBody] at run
    rcases Traced.mem_visits_note_bind.1 member with rfl | member
    · have kept := Render.of_stateAfter (course.body inside ready.kept) run
      exact ⟨kept, nofun, fun _ other => absurd rfl (other text)⟩
    · exact nomatch member
  | .text _, _ | .object _, _ | .cycle _, _ | .assign .., _ | .increment _, _ | .decrement _, _
  | .comment, _ | .interrupt _, _ | .host .., _ => fun _ _ _ member => nomatch member

/-- All points of a body are sound. -/
theorem sound_traceBody (course : Course filters allowed invariant entered)
    (loops : List RunningLoop) (out : String) :
    (body : List Node) → Everywhere allowed body →
      Traced.Sound invariant clear loops (traceBody filters loops out body)
  | [], _ => fun _ _ _ member => nomatch member
  | node :: nodes, all => by
    intro context ready visit member
    rcases Traced.mem_visits_note_bind.1 member with rfl | member
    · exact ⟨ready.kept, nofun, fun holds _ => ready.uncut holds⟩
    rcases Traced.mem_visits_bind.1 member with here | ⟨text, next, run, member⟩
    · exact course.sound_trace loops node all.head context ready visit here
    rw [erase_trace] at run
    have kept := Render.of_stateAfter (course.node all.head ready.kept) run
    obtain ⟨interrupted, last, test, member⟩ := Traced.mem_visits_lift_bind.1 member
    obtain ⟨rfl, rfl⟩ := isInterrupted_eq_ok test
    split at member
    · exact nomatch member
    next goesOn =>
      have uncut : last.interrupt = none := by simpa using goesOn
      exact course.sound_traceBody loops (out ++ text) nodes all.tail last
        ⟨kept, fun _ => uncut⟩ visit member

theorem sound_traceOtherwise (course : Course filters allowed invariant entered)
    (loops : List RunningLoop) :
    (otherwise : Option (List Node)) → (∀ body ∈ otherwise, Everywhere allowed body) →
      Traced.Sound invariant clear loops (traceOtherwise filters loops otherwise)
  | some body, all => course.sound_traceBody loops "" body (all body rfl)
  | none, _ => fun _ _ _ member => nomatch member

theorem sound_traceFirst (course : Course filters allowed invariant entered)
    (loops : List RunningLoop) {otherwise : Traced String}
    (last : Traced.Sound invariant clear loops otherwise) (negate : Bool) :
    (sections : List (Section Condition Node)) →
      (∀ part ∈ sections, Everywhere allowed part.body) →
      Traced.Sound invariant clear loops (traceFirst filters loops otherwise negate sections)
  | [], _ => last
  | ⟨condition, body⟩ :: sections, all => by
    intro context ready visit member
    obtain ⟨holds, next, run, member⟩ := Traced.mem_visits_lift_bind.1 member
    have readyNext := ready.after_reading course (.condition condition) run
    split at member
    · exact course.sound_traceBody loops "" body (all _ List.mem_cons_self) next
        readyNext visit member
    · exact course.sound_traceFirst loops last false sections
        (fun part held => all part (List.mem_cons_of_mem _ held)) next readyNext visit member

theorem sound_traceMatching (course : Course filters allowed invariant entered)
    (loops : List RunningLoop) {otherwise : Traced String}
    (last : Traced.Sound invariant clear loops otherwise) (subject : Data) (out : String)
    (matched : Bool) :
    (sections : List (Section (List Expr) Node)) →
      (∀ part ∈ sections, Everywhere allowed part.body) →
      Traced.Sound invariant clear loops
        (traceMatching filters loops otherwise subject out matched sections)
  | [], _ => by
    intro context ready visit member
    unfold traceMatching at member
    split at member
    · exact nomatch member
    rcases Traced.mem_visits_bind.1 member with here | ⟨text, next, -, member⟩
    · exact last context ready visit here
    · exact nomatch member
  | ⟨values, body⟩ :: sections, all => by
    have rest (out : String) (matched : Bool) := course.sound_traceMatching loops last
      subject out matched sections fun part held => all part (List.mem_cons_of_mem _ held)
    have inside := all _ List.mem_cons_self
    intro context ready visit member
    obtain ⟨found, next, run, member⟩ := Traced.mem_visits_lift_bind.1 member
    have readyNext := ready.after_reading course (.values subject values) run
    split at member
    · rcases Traced.mem_visits_bind.1 member with here | ⟨text, ended, run, member⟩
      · exact course.sound_traceBody loops "" body inside next readyNext visit here
      rw [erase_traceBody] at run
      have kept := Render.of_stateAfter (course.body inside readyNext.kept) run
      obtain ⟨interrupted, left, test, member⟩ := Traced.mem_visits_lift_bind.1 member
      obtain ⟨rfl, rfl⟩ := isInterrupted_eq_ok test
      split at member
      · exact nomatch member
      next goesOn =>
        have uncut : left.interrupt = none := by simpa using goesOn
        exact rest _ true left ⟨kept, fun _ => uncut⟩ visit member
    · exact rest out matched next readyNext visit member

end

end Course

/-! ## Invariants of evolution -/

/-- The loop before its first iteration. -/
def RunningLoop.rewind (loop : RunningLoop) : RunningLoop :=
  { loop with index := 0 }

/-- The property holds in whichever iterations the loops are that were entered inside `base`. -/
def HoldsInside (invariant : List RunningLoop → Context → Prop) (base loops : List RunningLoop)
    (context : Context) : Prop :=
  ∃ inner, loops = inner ++ base ∧ ∀ others : List RunningLoop,
    others.map RunningLoop.rewind = inner.map RunningLoop.rewind →
      invariant (others ++ base) context

namespace HoldsInside

variable {base loops : List RunningLoop} {context : Context}

theorem here (kept : invariant base context) : HoldsInside invariant base base context := by
  refine ⟨[], rfl, fun others same => ?_⟩
  rw [List.map_eq_nil_iff.1 same]
  exact kept

theorem holds (inside : HoldsInside invariant base loops context) : invariant loops context := by
  obtain ⟨inner, rfl, kept⟩ := inside
  exact kept inner rfl

theorem evolves (course : CourseInvariant invariant) {names : String → Prop} {last : Context}
    (inside : HoldsInside invariant base loops context)
    (evolution : Context.Evolves False names context last) :
    HoldsInside invariant base loops last := by
  obtain ⟨inner, same, kept⟩ := inside
  exact ⟨inner, same, fun others rewound => course.evolves (kept others rewound) evolution⟩

theorem enters (course : CourseInvariant invariant) (loop : RunningLoop)
    (inside : HoldsInside invariant base loops context) :
    HoldsInside invariant base (loop :: loops)
      (context.enterLoop loop.header.itemName loop.id).2 := by
  obtain ⟨inner, rfl, kept⟩ := inside
  refine ⟨loop :: inner, rfl, fun others rewound => ?_⟩
  obtain ⟨other, rest, rfl, sameLoop, sameRest⟩ := List.map_eq_cons_iff.1 rewound
  have sameHeader : other.header = loop.header :=
    (congrArg RunningLoop.header sameLoop : other.rewind.header = loop.rewind.header)
  have sameId : other.id = loop.id :=
    (congrArg RunningLoop.id sameLoop : other.rewind.id = loop.rewind.id)
  rw [← sameHeader, ← sameId]
  exact course.enters other (kept rest sameRest)

theorem move {loop : RunningLoop} (index : Nat) (isInner : base <:+ loops)
    (inside : HoldsInside invariant base (loop :: loops) context) :
    HoldsInside invariant base ({ loop with index } :: loops) context := by
  obtain ⟨inner, same, kept⟩ := inside
  obtain ⟨rest, rfl⟩ := isInner
  have isLoop : loop :: rest = inner := List.append_cancel_right same
  refine ⟨{ loop with index } :: rest, rfl, fun others rewound => kept others ?_⟩
  rw [rewound, ← isLoop]
  rfl

end HoldsInside

/-- What evolution keeps and loops carry on is kept along courses through built-in nodes. -/
theorem CourseInvariant.course (course : CourseInvariant invariant) (filters : FilterTable)
    (names : String → Prop) (base : List RunningLoop) :
    Course filters
      (fun node => (node.isHost = true → False) ∧ ∀ name, node.target? = some name → names name)
      (HoldsInside invariant base) fun loop loops context =>
        base <:+ loops ∧ HoldsInside invariant base (loop :: loops) context where
  reads reading kept :=
    have evolves : Context.Evolves False (fun _ => False) _ _ := (reading.keeps _).evolves
    kept.evolves course evolves
  node all kept := kept.evolves course (Node.confined_render filters _ all _)
  body all kept := kept.evolves course (Node.confined_renderBody filters "" _ all _)
  enters {_ _ _ header window id} kept run := by
    have evolves : Context.Evolves False (fun _ => False) _ _ :=
      ((LoopHeader.reads_addForloop window.length).of_ok run).evolves
    refine ⟨?_, (kept.evolves course evolves).enters course ⟨header, id, window, 0⟩⟩
    obtain ⟨inner, rfl, -⟩ := kept
    exact List.suffix_append inner base
  begins {_ _ _ loop} kept _ run := by
    have evolves : Context.Evolves False (fun _ => True) _ _ :=
      (LoopHeader.confined_beginIteration loop.header loop.id loop.index loop.item
        trivial trivial).of_ok run
    exact kept.2.evolves course evolves
  ends {_ _ context loop} before kept := by
    have evolves : Context.Evolves False (fun _ => False) context { context with interrupt := none } :=
      .signal context none
    exact ⟨before.1, (kept.evolves course evolves).move (loop.index + 1) before.1⟩

namespace Node

variable {names : String → Prop}

theorem sound_trace (course : CourseInvariant invariant) (filters : FilterTable)
    (loops : List RunningLoop) (node : Node) (only : BindsOnly False names [node]) :
    Traced.Sound invariant clear loops (node.trace filters loops) := by
  intro context ready visit member
  have readyInside : context.Ready (HoldsInside invariant loops) clear loops :=
    ⟨.here ready.kept, ready.uncut⟩
  have sound := (course.course filters names loops).sound_trace loops node only context readyInside
    visit member
  exact ⟨sound.kept.holds, sound.binds, sound.uncut⟩

/-- All points of a body without nodes of the host are sound. -/
theorem sound_traceBody (course : CourseInvariant invariant) (filters : FilterTable)
    (loops : List RunningLoop) (out : String) (body : List Node)
    (only : BindsOnly False names body) :
    Traced.Sound invariant clear loops (traceBody filters loops out body) := by
  intro context ready visit member
  have readyInside : context.Ready (HoldsInside invariant loops) clear loops :=
    ⟨.here ready.kept, ready.uncut⟩
  have sound := (course.course filters names loops).sound_traceBody loops out body only context
    readyInside visit member
  exact ⟨sound.kept.holds, sound.binds, sound.uncut⟩

end Node

end TextTemplate
