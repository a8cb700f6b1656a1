import TextTemplate.Render

/-!
What actions keep.

`Render.Keeps` says that an action relates the state before it to the state after it, whether it
succeeds or fails. For a reflexive and transitive relation it is enough to look at the steps of the
action. Two relations are used wherever actions are built: an action that reads changes nothing but
drops (`Context.Reads`), and none replaces a hash at the root by something else
(`Context.StaysHash`).
-/

namespace TextTemplate

/-- The states differ at most in their drops. -/
def Context.Reads (before after : Context) : Prop :=
  ∃ drops, after = { before with drops }

instance : Std.Refl Context.Reads := ⟨fun context => ⟨context.drops, rfl⟩⟩

instance : Trans Context.Reads Context.Reads Context.Reads where
  trans := by
    rintro first second third ⟨drops, rfl⟩ ⟨last, rfl⟩
    exact ⟨last, rfl⟩

/-- If the data root was a hash it is one. -/
def Context.StaysHash (before after : Context) : Prop :=
  ∀ entries, before.root = .hash entries → ∃ left, after.root = .hash left

instance : Std.Refl Context.StaysHash := ⟨fun _ entries isHash => ⟨entries, isHash⟩⟩

instance : Trans Context.StaysHash Context.StaysHash Context.StaysHash where
  trans := by
    intro first second third before after entries isHash
    obtain ⟨middle, isMiddle⟩ := before entries isHash
    exact after middle isMiddle

theorem Context.Reads.staysHash {first last : Context} (reads : Reads first last) :
    StaysHash first last := by
  obtain ⟨drops, rfl⟩ := reads
  exact fun entries isHash => ⟨entries, isHash⟩

namespace Render

variable {α β : Type} {relation : Context → Context → Prop}

/-- The state in which an action leaves the render, whether it succeeds or fails. -/
def stateAfter (action : Render α) (context : Context) : Context :=
  match action context with
  | .ok _ next => next
  | .error _ next => next

/-- From every state the action leads to a related one. -/
def Keeps (relation : Context → Context → Prop) (action : Render α) : Prop :=
  ∀ context, relation context (stateAfter action context)

/-- The action leaves a hash for the data root where it found one. -/
abbrev KeepsHash (action : Render α) : Prop :=
  Keeps Context.StaysHash action

section

variable {action : Render α} {context last : Context} {value : α} {error : RenderError}
  {itemName : String} {id : DropId}

theorem stateAfter_ok (run : action context = .ok value last) :
    stateAfter action context = last := by
  unfold stateAfter
  rw [run]

theorem stateAfter_error (run : action context = .error error last) :
    stateAfter action context = last := by
  unfold stateAfter
  rw [run]

theorem bind_of_ok {next : α → Render β} (run : action context = .ok value last) :
    (action >>= next) context = next value last := by
  show EStateM.bind action next context = _
  unfold EStateM.bind
  rw [run]

theorem bind_of_error {next : α → Render β} (run : action context = .error error last) :
    (action >>= next) context = .error error last := by
  show EStateM.bind action next context = _
  unfold EStateM.bind
  rw [run]

theorem withLoop_ok (run : action (context.enterLoop itemName id).2 = .ok value last) :
    withLoop itemName id action context =
      .ok value (last.leaveLoop (context.enterLoop itemName id).1) := by
  simp [withLoop, run]

theorem withLoop_error (run : action (context.enterLoop itemName id).2 = .error error last) :
    withLoop itemName id action context =
      .error error (last.leaveLoop (context.enterLoop itemName id).1) := by
  simp [withLoop, run]

theorem ofDrops_some {action : DropM α} {drops : DropStore}
    (run : action.run context.drops = some (value, drops)) :
    ofDrops action context = .ok value { context with drops } := by
  unfold ofDrops
  rw [run]

theorem ofDrops_none {action : DropM α} (run : action.run context.drops = none) :
    ofDrops action context = .error ⟨.endlessComparison, none⟩ context := by
  unfold ofDrops
  rw [run]

end

theorem stateAfter_bind (action : Render α) (next : α → Render β) (context : Context) :
    stateAfter (action >>= next) context =
      match action context with
      | .ok value middle => stateAfter (next value) middle
      | .error _ middle => middle := by
  cases run : action context with
  | ok value middle =>
    unfold stateAfter
    rw [bind_of_ok run]
  | error error middle => exact stateAfter_error (bind_of_error run)

theorem stateAfter_withLoop (itemName : String) (id : DropId) (action : Render α)
    (context : Context) :
    stateAfter (withLoop itemName id action) context =
      (stateAfter action (context.enterLoop itemName id).2).leaveLoop
        (context.enterLoop itemName id).1 := by
  cases run : action (context.enterLoop itemName id).2 with
  | ok value last => rw [stateAfter_ok (withLoop_ok run), stateAfter_ok run]
  | error error last => rw [stateAfter_error (withLoop_error run), stateAfter_error run]

theorem Keeps.mono {wider : Context → Context → Prop} {action : Render α}
    (keeps : Keeps relation action)
    (weaker : ∀ {first last}, relation first last → wider first last) :
    Keeps wider action :=
  fun context => weaker (keeps context)

theorem Keeps.of_ok {action : Render α} {context next : Context} {value : α}
    (keeps : Keeps relation action) (run : action context = .ok value next) :
    relation context next := by
  have related := keeps context
  rwa [stateAfter_ok run] at related

theorem Keeps.of_error {action : Render α} {context next : Context} {error : RenderError}
    (keeps : Keeps relation action) (run : action context = .error error next) :
    relation context next := by
  have related := keeps context
  rwa [stateAfter_error run] at related

theorem of_stateAfter {property : Context → Prop} {action : Render α} {context last : Context}
    {value : α} (holds : property (stateAfter action context))
    (run : action context = .ok value last) : property last :=
  stateAfter_ok run ▸ holds

/-- A run that shows its text is one that succeeds with it. -/
theorem exists_ok {action : Render α} {context : Context} {shows : α}
    (shown : (match action context with
      | .ok value _ => some value
      | .error _ _ => none) = some shows) : ∃ last, action context = .ok shows last := by
  cases run : action context with
  | ok value last =>
    rw [run] at shown
    cases shown
    exact ⟨last, rfl⟩
  | error error last =>
    rw [run] at shown
    cases shown

theorem bind_eq_ok {action : Render α} {next : α → Render β} {context last : Context} {value : β} :
    (action >>= next) context = .ok value last ↔
      ∃ first middle, action context = .ok first middle ∧ next first middle = .ok value last := by
  show EStateM.bind action next context = .ok value last ↔ _
  unfold EStateM.bind
  cases action context with
  | ok first middle => simp [and_assoc]
  | error error middle => simp

theorem keeps_ite {condition : Prop} [Decidable condition] {yes no : Render α}
    (yesKeeps : Keeps relation yes) (noKeeps : Keeps relation no) :
    Keeps relation (if condition then yes else no) := by
  split
  · exact yesKeeps
  · exact noKeeps

theorem keeps_reads_ofDrops (action : DropM α) : Keeps Context.Reads (ofDrops action) := by
  intro context
  unfold stateAfter ofDrops
  cases action.run context.drops with
  | none => exact ⟨context.drops, rfl⟩
  | some result => exact ⟨result.2, rfl⟩

theorem keeps_bind [Trans relation relation relation] {action : Render α}
    {next : α → Render β} (first : Keeps relation action)
    (second : ∀ value, Keeps relation (next value)) : Keeps relation (action >>= next) := by
  intro context
  rw [stateAfter_bind]
  cases run : action context with
  | error error middle => exact first.of_error run
  | ok value middle => exact Trans.trans (first.of_ok run) (second value middle)

section

variable [Std.Refl relation]

theorem keeps_pure (value : α) : Keeps relation (pure value : Render α) :=
  fun context => Std.Refl.refl context

theorem keeps_get : Keeps relation (get : Render Context) :=
  fun context => Std.Refl.refl context

theorem keeps_throw (error : RenderError) : Keeps relation (throw error : Render α) :=
  fun context => Std.Refl.refl context

theorem keeps_ofExcept (result : Except RenderError α) : Keeps relation (ofExcept result) := by
  cases result with
  | ok value => exact keeps_pure value
  | error error => exact keeps_throw error

variable [Trans relation relation relation]

theorem keeps_register (name : String) : Keeps relation (register name) :=
  keeps_bind keeps_get fun _ => keeps_pure _

theorem keeps_isInterrupted : Keeps relation isInterrupted :=
  keeps_bind keeps_get fun _ => keeps_pure _

end

end Render

end TextTemplate
