import TextTemplate.Engine
import TextTemplate.Proofs.Evolution
import TextTemplate.Proofs.Table

/-!
# What a render leaves in the caller's data

Loops bind their variable and `forloop` in the data root and put back what was there. So a render
changes the root only where an `assign` or `capture` node of the template says so:
`Template.render_changes_targets_only`.
-/

namespace TextTemplate

/-- A hash stays a hash that binds all keys but `names` as before and has lost no key. Any other
value stays as it is. -/
structure Data.ChangedOnlyAt (names : String → Prop) (before after : Data) : Prop where
  ofHash : ∀ entries, before = .hash entries → ∃ left, after = .hash left ∧
    (∀ key, ¬ names key → left.get? key = entries.get? key) ∧
    ∀ key, entries.contains key = true → left.contains key = true
  ofOther : before.hash? = none → after = before

namespace Data.ChangedOnlyAt

variable {names : String → Prop} {first second third : Data}

theorem refl (data : Data) : ChangedOnlyAt names data data :=
  ⟨fun entries same => ⟨entries, same, fun _ _ => rfl, fun _ bound => bound⟩, fun _ => rfl⟩

theorem trans (before : ChangedOnlyAt names first second)
    (after : ChangedOnlyAt names second third) : ChangedOnlyAt names first third where
  ofHash entries same := by
    obtain ⟨middle, isHash, kept, present⟩ := before.ofHash entries same
    obtain ⟨last, isLast, keptLast, presentLast⟩ := after.ofHash middle isHash
    refine ⟨last, isLast, ?_, ?_⟩
    · intro key free
      rw [keptLast key free, kept key free]
    · intro key bound
      exact presentLast key (present key bound)
  ofOther other := by
    have same := before.ofOther other
    rw [after.ofOther (same ▸ other), same]

theorem of_set {key : String} {data : Data} (allowed : names key)
    (written : first.set key data = .ok second) : ChangedOnlyAt names first second := by
  cases first with
  | hash entries =>
    simp only [Data.set, Except.ok.injEq] at written
    subst written
    refine ⟨fun before same => ?_, fun other => nomatch other⟩
    cases same
    refine ⟨_, rfl, ?_, ?_⟩
    · intro other free
      have different : other ≠ key := fun equal => free (equal ▸ allowed)
      rw [Table.get?_set, if_neg different]
    · intro other bound
      unfold Table.contains
      rw [Table.get?_set]
      split
      · rfl
      · exact bound
  | _ => simp [Data.set] at written

theorem binding? (changed : ChangedOnlyAt names first second) {key : String}
    (free : ¬ names key) : second.binding? key = first.binding? key := by
  cases first with
  | hash entries =>
    obtain ⟨left, rfl, kept, -⟩ := changed.ofHash entries rfl
    exact kept key free
  | _ => rw [changed.ofOther rfl]

end Data.ChangedOnlyAt

namespace Context

theorem restore_other {root : Data} (other : root.hash? = none) (key : String) :
    restore root key (root.binding? key) = root := by
  cases root with
  | hash entries => cases other
  | _ => rfl

/-- The bindings that a loop leaves in a hash: those that it saved, and beside them those that the
hash has at its end. -/
theorem leaveLoop_hash {context inside : Context} (itemName : String) (id : DropId)
    {before left : Table Data} (isHash : context.root = .hash before)
    (isLeft : inside.root = .hash left) :
    ∃ back, (inside.leaveLoop (context.enterLoop itemName id).1).root = .hash back ∧
      ∀ key, back.get? key =
        if key = forloopKey ∨ key = itemName then before.get? key else left.get? key := by
  obtain ⟨middle, isMiddle, bound⟩ := restore_hash left itemName (before.get? itemName)
  obtain ⟨back, isBack, boundBack⟩ := restore_hash middle forloopKey (before.get? forloopKey)
  refine ⟨back, ?_, ?_⟩
  · show restore (restore inside.root itemName (context.root.binding? itemName)) forloopKey
      (context.root.binding? forloopKey) = .hash back
    rw [isHash, isLeft]
    show restore (restore (.hash left) itemName (before.get? itemName)) forloopKey
      (before.get? forloopKey) = .hash back
    rw [isMiddle, isBack]
  · intro key
    rw [boundBack, bound]
    by_cases forloop : key = forloopKey
    · simp [forloop]
    · by_cases item : key = itemName
      · subst item
        simp [forloop]
      · simp [forloop, item]

theorem leaveLoop_other {context inside : Context} (itemName : String) (id : DropId)
    (other : context.root.hash? = none) (same : inside.root = context.root) :
    (inside.leaveLoop (context.enterLoop itemName id).1).root = context.root := by
  show restore (restore inside.root itemName (context.root.binding? itemName)) forloopKey
    (context.root.binding? forloopKey) = context.root
  rw [same, restore_other other, restore_other other]

/-- What a loop did to the bindings that it saved at its start is undone. -/
theorem changedOnlyAt_leaveLoop {names : String → Prop} {context inside : Context}
    {itemName : String} {id : DropId}
    (within : Data.ChangedOnlyAt (fun key => names key ∨ key = itemName ∨ key = forloopKey)
      context.root inside.root) :
    Data.ChangedOnlyAt names context.root
      (inside.leaveLoop (context.enterLoop itemName id).1).root := by
  constructor
  · intro entries isHash
    obtain ⟨left, isLeft, kept, present⟩ := within.ofHash entries isHash
    obtain ⟨back, isBack, bound⟩ := leaveLoop_hash itemName id isHash isLeft
    refine ⟨back, isBack, ?_, ?_⟩
    · intro key free
      rw [bound]
      split
      · rfl
      · next inner =>
        have notLoop := not_or.1 inner
        exact kept key (not_or.2 ⟨free, not_or.2 ⟨notLoop.2, notLoop.1⟩⟩)
    · intro key isBound
      unfold Table.contains
      rw [bound]
      split
      · exact isBound
      · exact present key isBound
  · intro other
    exact leaveLoop_other itemName id other (within.ofOther other)

/-- Rendering changes the data root at the names only that it may bind. -/
theorem Evolves.changedOnlyAt {names : String → Prop} {first last : Context}
    (evolves : Evolves False names first last) : Data.ChangedOnlyAt names first.root last.root := by
  induction evolves with
  | host hosted => exact hosted.elim
  | trans _ _ before after => exact before.trans after
  | assign allowed written => exact .of_set allowed written
  | loop _ within => exact changedOnlyAt_leaveLoop within
  | refl | drops | count | setRegister | signal => exact .refl _

end Context

theorem Template.render_root (config : Config) (template : Template) (root : Data)
    (drops : DropStore) :
    (template.render config root drops).root =
      (Render.stateAfter (Node.renderBody config.filters "" template.body)
        (.start root drops)).root := by
  unfold render EStateM.run Render.stateAfter
  cases Node.renderBody config.filters "" template.body (.start root drops) with
  | ok text context => rfl
  | error error context => rfl

/-- A render changes the data root at the targets of the template's `assign` and `capture` nodes
only, whether it succeeds or fails. -/
theorem Template.render_changes_targets_only (config : Config) (template : Template)
    (root : Data) (drops : DropStore) (builtIn : Node.BuiltIn template.body) :
    Data.ChangedOnlyAt (Node.Targets template.body) root
      (template.render config root drops).root := by
  have evolves := Node.confined_renderBody config.filters "" template.body builtIn.bindsOnly
    (Context.start root drops)
  rw [render_root]
  exact evolves.changedOnlyAt

/-- A loop whose variable is called `forloop` around a loop that binds a key of the caller: both
names are bound afterwards as before. -/
theorem Template.render_nested_loops_leave_caller :
    let items : LoopSource := .collection (.lookup [.key "items"])
    let inner : Node :=
      .loop ⟨"x", items, false, none, none⟩ [.object ⟨.lookup [.key "x"], []⟩] none
    let outer : Node :=
      .loop ⟨"forloop", items, false, none, none⟩ [inner, .assign "total" ⟨.int 1, []⟩] none
    let before : Table Data := .ofList [("items", .array [.int 1, .int 2]), ("x", .string "mine")]
    let template : Template := ⟨"", [outer]⟩
    Node.BuiltIn [outer] ∧
      ∃ after, (template.render .standard (.hash before) .empty).root = .hash after ∧
        after.get? "x" = some (.string "mine") ∧ after.get? "forloop" = none := by
  intro items inner outer before template
  have builtIn : Node.BuiltIn [outer] := by
    simp [outer, inner, Node.bodies, Node.isHost]
  refine ⟨builtIn, ?_⟩
  obtain ⟨after, isHash, kept, -⟩ := (Template.render_changes_targets_only .standard
    template (.hash before) .empty builtIn).ofHash before rfl
  have free (key : String) (other : key ≠ "total") : ¬ Node.Targets [outer] key := by
    simp [outer, inner, Node.bodies, Node.target?, other.symm]
  refine ⟨after, isHash, ?_, ?_⟩
  · rw [kept "x" (free "x" (by decide))]
    rfl
  · rw [kept "forloop" (free "forloop" (by decide))]
    rfl

end TextTemplate
