import TextTemplate.Engine
import TextTemplate.Proofs.ErrorPlaces
import TextTemplate.Proofs.Table

/-!
# What registering a tag or a filter changes

The compiler asks its table for the names of tags, and rendering asks for the names of filter calls.
They ask for nothing else, so two tables that agree on the names that occur are as good as each
other, and registering a name changes nothing for the templates that do not use it
(`registering_affects_uses_only`).
-/

namespace TextTemplate

/-! ## Compiling -/

section Compiling

variable {tags other : TagTable} {mode : LexMode}

/-- The tables mean the same by the fragment, if it is a tag. -/
def TagTable.AgreeOn (tags other : TagTable) (fragment : Fragment) : Prop :=
  ∀ name, fragment.IsTag name → other.get? name = tags.get? name

theorem TagTable.agreeOn_set {name : String} {fragment : Fragment} (unused : ¬ fragment.IsTag name)
    (rule : TagRule) : AgreeOn tags (tags.set name rule) fragment := by
  intro used isTag
  have different : used ≠ name := by
    intro same
    exact unused (same ▸ isTag)
  rw [Table.get?_set, if_neg different]

/-- One fragment is taken alike. What stands in a passed over text is not looked up at all. -/
theorem Compiler.step_congr {fragment : Fragment} (agree : tags.AgreeOn other fragment)
    (compiler : Compiler) : step other mode compiler fragment = step tags mode compiler fragment := by
  unfold step
  cases compiler.verbatim with
  | some verbatim => rfl
  | none =>
    cases kind : fragment.kind with
    | text => rfl
    | markup delimiter =>
      cases delimiter with
      | object => rfl
      | tag => simp only [agree fragment.tagHead.name ⟨kind, rfl⟩]

theorem Compiler.foldlM_congr {fragments : List Fragment}
    (agree : ∀ fragment ∈ fragments, tags.AgreeOn other fragment) (compiler : Compiler) :
    fragments.foldlM (step other mode) compiler = fragments.foldlM (step tags mode) compiler := by
  induction fragments generalizing compiler with
  | nil => rfl
  | cons fragment fragments ih =>
    rw [List.foldlM_cons, List.foldlM_cons, step_congr (agree fragment List.mem_cons_self)]
    cases step tags mode compiler fragment with
    | error error => rfl
    | ok next => exact ih (fun later member => agree later (.tail _ member)) next

theorem compile_congr {source : String}
    (agree : ∀ fragments, Fragment.scan source = .ok fragments →
      ∀ fragment ∈ fragments, tags.AgreeOn other fragment) :
    compile other mode source = compile tags mode source := by
  unfold compile
  cases scanned : Fragment.scan source with
  | error error => rfl
  | ok fragments =>
    simp only [Compiler.run, Compiler.foldlM_congr (agree fragments scanned)]

end Compiling

/-! ## Rendering -/

section Rendering

variable {filters other : FilterTable}

/-- The tables have the same filters for what the node calls itself. -/
def FilterTable.AgreeOn (filters other : FilterTable) (node : Node) : Prop :=
  ∀ call ∈ node.calls, other.get? call.name = filters.get? call.name

theorem FilterTable.agreeOn_set {name : String} {node : Node}
    (unused : ∀ call ∈ node.calls, call.name ≠ name) (filter : Filter) :
    AgreeOn filters (filters.set name filter) node := by
  intro call member
  rw [Table.get?_set, if_neg (unused call member)]

namespace Pipeline

theorem applyAll_congr {root : Data} {calls : List FilterCall}
    (agree : ∀ call ∈ calls, other.get? call.name = filters.get? call.name) (value : Data) :
    applyAll other root value calls = applyAll filters root value calls := by
  induction calls generalizing value with
  | nil => rfl
  | cons call calls ih =>
    have later := ih fun call member => agree call (.tail _ member)
    unfold applyAll
    rw [agree call List.mem_cons_self]
    simp only [later]

theorem eval_congr {pipeline : Pipeline}
    (agree : ∀ call ∈ pipeline.calls, other.get? call.name = filters.get? call.name) :
    pipeline.eval other = pipeline.eval filters := by
  unfold eval
  simp only [applyAll_congr agree]

end Pipeline

namespace Node

mutual

/-- Nodes whose calls mean the same render the same. -/
theorem render_congr :
    (node : Node) → Everywhere (filters.AgreeOn other) [node] →
      node.render other = node.render filters
  | .object pipeline, all => by
    unfold render
    rw [Pipeline.eval_congr all.here]
  | .cond negate sections otherwise, all => by
    unfold render
    rw [renderOtherwise_congr otherwise fun body held => all.inner (mem_bodies_of_otherwise held)]
    exact renderFirst_congr _ negate sections fun part held =>
      all.inner (mem_bodies_of_section held)
  | .case subject sections otherwise, all => by
    have searched value last := renderMatching_congr last value "" false sections
      fun part held => all.inner (mem_bodies_of_section held)
    unfold render
    rw [renderOtherwise_congr otherwise fun body held => all.inner (mem_bodies_of_otherwise held)]
    simp only [searched]
  | .loop header body otherwise, all => by
    unfold render
    rw [renderBody_congr "" body (all.inner List.mem_cons_self), renderOtherwise_congr otherwise
      fun body held => all.inner (.tail _ (Option.mem_toList.2 held))]
  | .assign name pipeline, all => by
    unfold render
    rw [Pipeline.eval_congr all.here]
  | .capture name body, all => by
    unfold render
    rw [renderBody_congr "" body (all.inner List.mem_cons_self)]
  | .changed body, all => by
    unfold render
    rw [renderBody_congr "" body (all.inner List.mem_cons_self)]
  | .host run body, all => by
    unfold render
    rw [renderBody_congr "" body (all.inner List.mem_cons_self)]
  | .text _, _ | .cycle _, _ | .increment _, _ | .decrement _, _ | .comment, _
  | .interrupt _, _ => rfl

theorem renderBody_congr (out : String) :
    (body : List Node) → Everywhere (filters.AgreeOn other) body →
      renderBody other out body = renderBody filters out body
  | [], _ => rfl
  | node :: nodes, all => by
    have later text := renderBody_congr (out ++ text) nodes all.tail
    unfold renderBody
    rw [render_congr node all.head]
    simp only [later]

theorem renderOtherwise_congr :
    (otherwise : Option (List Node)) →
      (∀ body ∈ otherwise, Everywhere (filters.AgreeOn other) body) →
      renderOtherwise other otherwise = renderOtherwise filters otherwise
  | none, _ => rfl
  | some body, all => renderBody_congr "" body (all body rfl)

theorem renderFirst_congr (otherwise : Render String) (negate : Bool) :
    (sections : List (Section Condition Node)) →
      (∀ part ∈ sections, Everywhere (filters.AgreeOn other) part.body) →
      renderFirst other otherwise negate sections = renderFirst filters otherwise negate sections
  | [], _ => rfl
  | ⟨condition, body⟩ :: sections, all => by
    unfold renderFirst
    rw [renderBody_congr "" body (all _ List.mem_cons_self),
      renderFirst_congr otherwise false sections fun part held => all part (.tail _ held)]

theorem renderMatching_congr (otherwise : Render String) (subject : Data) (out : String)
    (matched : Bool) :
    (sections : List (Section (List Expr) Node)) →
      (∀ part ∈ sections, Everywhere (filters.AgreeOn other) part.body) →
      renderMatching other otherwise subject out matched sections =
        renderMatching filters otherwise subject out matched sections
  | [], _ => rfl
  | ⟨values, body⟩ :: sections, all => by
    have later out matched := renderMatching_congr otherwise subject out matched sections
      fun part held => all part (.tail _ held)
    unfold renderMatching
    rw [renderBody_congr "" body (all _ List.mem_cons_self)]
    simp only [later]

end

end Node

end Rendering

/-! ## Registering -/

/-- Registering a tag makes no difference to a source without a tag of that name: it compiles to the
same tree, or fails with the same error at the same place. Registering a filter makes no difference
to a template without a call of it: a render comes to the same output or error, the same root and
the same drops. In both cases the name may have been registered before. -/
theorem registering_affects_uses_only (config : Config) (name : String) :
    (∀ rule source,
      (∀ fragments, Fragment.scan source = .ok fragments →
        ∀ fragment ∈ fragments, ¬ fragment.IsTag name) →
      Template.compile (config.withTag name rule) source = Template.compile config source) ∧
    ∀ filter (template : Template) root drops,
      (∀ node, Node.Within node template.body → ∀ call ∈ node.calls, call.name ≠ name) →
      template.render (config.withFilter name filter) root drops =
        template.render config root drops := by
  constructor
  · intro rule source unused
    have agree : ∀ fragments, Fragment.scan source = .ok fragments →
        ∀ fragment ∈ fragments, config.tags.AgreeOn (config.tags.set name rule) fragment := by
      intro fragments scanned fragment member
      exact TagTable.agreeOn_set (unused fragments scanned fragment member) rule
    unfold Template.compile Config.withTag
    rw [compile_congr agree]
  · intro filter template root drops unused
    have agree : Node.Everywhere (config.filters.AgreeOn (config.filters.set name filter))
        template.body := by
      intro node within
      exact FilterTable.agreeOn_set (unused node within) filter
    unfold Template.render Config.withFilter
    rw [Node.renderBody_congr "" template.body agree]

/-- `else` may mean something of its own where an `if` does without it, though it would end the
first body of another `if`. A filter `size` may be replaced where only `upcase` is called. -/
theorem registering_affects_uses_only_else :
    let source := "\x7b% if a %\x7d\x7b\x7b b | upcase \x7d\x7d\x7b% endif %\x7d"
    let shout : Node := .object ⟨.lookup [.key "b"], [⟨"upcase", [], ⟨17, 23⟩⟩]⟩
    let template : Template :=
      ⟨source, [.cond false [⟨.truthy (.lookup [.key "a"]), [shout]⟩] none]⟩
    (∀ fragments, Fragment.scan source = .ok fragments →
      ∀ fragment ∈ fragments, ¬ fragment.IsTag "else") ∧
    (∀ node, Node.Within node template.body → ∀ call ∈ node.calls, call.name ≠ "size") ∧
    Template.compile (Config.standard.withTag "else" .comment) source =
      Template.compile .standard source ∧
    template.render (Config.standard.withFilter "size" fun input _ => .ok input) .nil .empty =
      template.render .standard .nil .empty := by
  intro source shout template
  have noElse : ∀ fragments, Fragment.scan source = .ok fragments →
      ∀ fragment ∈ fragments, ¬ fragment.IsTag "else" := by
    have scans : ∃ fragments, Fragment.scan source = .ok fragments ∧
        ∀ fragment ∈ fragments, ¬ fragment.IsTag "else" :=
      ⟨(Fragment.scan source).toOption.getD [], by decide +kernel, by decide +kernel⟩
    obtain ⟨fragments, scanned, unused⟩ := scans
    intro other same
    cases scanned.symm.trans same
    exact unused
  have noSize : Node.Everywhere (fun node => ∀ call ∈ node.calls, call.name ≠ "size")
      template.body := by
    simp [template, shout, Node.calls, Node.bodies]
  have affects := registering_affects_uses_only .standard
  exact ⟨noElse, noSize, (affects "else").1 .comment source noElse,
    (affects "size").2 _ template .nil .empty noSize⟩

end TextTemplate
