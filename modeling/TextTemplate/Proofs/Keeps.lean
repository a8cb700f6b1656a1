import TextTemplate.Node.Render

/-!
# What evaluating changes

Evaluating expressions, pipelines and the window of a loop changes nothing but drops
(`Context.Reads`). A cycle also writes a register, which is none of a loop's (`Cycle.keeps_render`).
-/

namespace TextTemplate

namespace Pipeline

theorem reads_applyAll (filters : FilterTable) (root value : Data) (calls : List FilterCall) :
    Render.Keeps Context.Reads (applyAll filters root value calls) := by
  induction calls generalizing value with
  | nil => exact Render.keeps_pure value
  | cons call calls ih =>
    unfold applyAll
    cases filters.get? call.name with
    | none => exact Render.keeps_throw _
    | some filter =>
      refine Render.keeps_bind (Render.keeps_reads_ofDrops _) fun args => ?_
      cases filter value args with
      | ok value => exact ih value
      | error error => exact Render.keeps_throw _

theorem reads_eval (filters : FilterTable) (pipeline : Pipeline) :
    Render.Keeps Context.Reads (pipeline.eval filters) := by
  refine Render.keeps_bind Render.keeps_get fun context => ?_
  refine Render.keeps_bind (Render.keeps_reads_ofDrops _) fun value => ?_
  exact reads_applyAll filters context.root value pipeline.calls

end Pipeline

/-- Rendering a cycle reads, and writes a register that no loop uses. -/
theorem Cycle.keeps_render {relation : Context → Context → Prop} [Std.Refl relation]
    [Trans relation relation relation]
    (reads : ∀ {first last}, Context.Reads first last → relation first last)
    (writes : ∀ (context : Context) (name : String) (data : Data), name ≠ Context.forRegister →
      relation context (context.setRegister name data))
    (cycle : Cycle) : Render.Keeps relation cycle.render := by
  -- whatever the register, the value is shown in the same way
  have shows (register key : String) (free : register ≠ Context.forRegister) :
      Render.Keeps relation (do
        let place ← advance register key cycle.values.length
        let value ← Render.ofDrops ((cycle.values.getD place .nil).eval (← get).root)
        return value.display) := by
    refine Render.keeps_bind ?_ fun place => ?_
    · refine Render.keeps_bind (Render.keeps_register register) fun data => ?_
      refine Render.keeps_bind (fun context => writes context register _ free) fun _ => ?_
      exact Render.keeps_pure _
    · refine Render.keeps_bind Render.keeps_get fun context => ?_
      refine Render.keeps_bind ((Render.keeps_reads_ofDrops _).mono reads) fun value => ?_
      exact Render.keeps_pure _
  unfold render
  cases cycle.group with
  | none =>
    simp only [pure_bind]
    exact shows siteRegister cycle.key (by decide)
  | some group =>
    simp only [pure_bind]
    refine Render.keeps_bind Render.keeps_get fun context => ?_
    refine Render.keeps_bind ((Render.keeps_reads_ofDrops _).mono reads) fun name => ?_
    exact shows groupRegister name.display (by decide)

namespace LoopHeader

theorem reads_natural (header : LoopHeader) (root : Data) :
    Render.Keeps Context.Reads (header.natural root) := by
  unfold natural
  cases header.source with
  | range first last =>
    refine Render.keeps_bind (Render.keeps_reads_ofDrops _) fun _ => ?_
    refine Render.keeps_bind (Render.keeps_ofExcept _) fun _ => ?_
    refine Render.keeps_bind (Render.keeps_reads_ofDrops _) fun _ => ?_
    refine Render.keeps_bind (Render.keeps_ofExcept _) fun _ => ?_
    exact Render.keeps_pure _
  | collection expr =>
    refine Render.keeps_bind (Render.keeps_reads_ofDrops _) fun _ => ?_
    exact Render.keeps_pure _

theorem reads_modifier (name : String) (expr : Option Expr) (root : Data) :
    Render.Keeps Context.Reads (modifier name expr root) := by
  cases expr with
  | none => exact Render.keeps_pure _
  | some expr =>
    exact Render.keeps_bind (Render.keeps_reads_ofDrops _) fun _ => Render.keeps_ofExcept _

theorem reads_window (header : LoopHeader) : Render.Keeps Context.Reads header.window := by
  refine Render.keeps_bind Render.keeps_get fun context => ?_
  refine Render.keeps_bind (reads_natural header context.root) fun natural => ?_
  refine Render.keeps_bind (reads_modifier "offset" header.offset context.root) fun offset => ?_
  refine Render.keeps_bind (reads_modifier "limit" header.limit context.root) fun limit => ?_
  exact Render.keeps_pure _

theorem reads_addForloop (length : Nat) : Render.Keeps Context.Reads (addForloop length) :=
  fun _ => ⟨_, rfl⟩

end LoopHeader

end TextTemplate
