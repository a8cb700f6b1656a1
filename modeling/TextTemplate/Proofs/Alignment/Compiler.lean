import TextTemplate.Proofs.Alignment.Trees
import TextTemplate.Proofs.Table

/-!
# The compiler keeps to an alignment

From corresponding fragments the compiler makes trees that differ in the places of filter calls
only, or it reports corresponding errors (`Alignment.outcomes_run`). The run may begin with nodes on
both sides that have nothing to do with each other; these stay below what is read
(`Alignment.outcomes_feed`).
-/

namespace TextTemplate

/-- No rule of the host is in the table. -/
def TagTable.BuiltIn (tags : TagTable) : Prop :=
  ∀ name rule, tags.get? name ≠ some (.host rule)

theorem TagTable.standard_builtIn : TagTable.standard.BuiltIn := by
  intro name rule known
  have member := Table.mem_of_get?_ofList known
  simp at member

namespace Alignment

variable {a : Alignment} {mode : LexMode}

/-- The two spans are at corresponding places. -/
def Places (a : Alignment) (span span' : Span) : Prop :=
  ∃ text, a.spans text span span'

theorem places_of_heads {tag tag' : TagHead} (heads : a.Heads tag tag') :
    a.Places tag.span tag'.span :=
  ⟨_, heads.span⟩

/-- Open blocks of one name and related forms. The nodes before them are left aside. -/
structure Blocks (a : Alignment) (block block' : OpenBlock) : Prop where
  tag : block'.tag = block.tag
  openedAt : a.Places block.openedAt block'.openedAt
  form : a.Forms block.form block'.form

/-- Texts being passed over that are the same so far. -/
structure Verbatims (a : Alignment) (verbatim verbatim' : Verbatim) : Prop where
  tag : verbatim'.tag = verbatim.tag
  openedAt : a.Places verbatim.openedAt verbatim'.openedAt
  keep : verbatim'.keep = verbatim.keep
  text : verbatim'.text = verbatim.text

/-- Nodes and open blocks that are related but for the nodes of the template that were there at
first, `bottom` on the one side and `bottom'` on the other. -/
inductive Stacks (a : Alignment) (bottom bottom' : List Node) :
    List Node → List OpenBlock → List Node → List OpenBlock → Prop
  | outer {nodes nodes' : List Node} (bodies : a.Bodies nodes nodes') :
      Stacks a bottom bottom' (nodes ++ bottom) [] (nodes' ++ bottom') []
  | inner {nodes nodes' : List Node} {block block' : OpenBlock} {blocks blocks' : List OpenBlock}
      (bodies : a.Bodies nodes nodes') (open' : a.Blocks block block')
      (around : Stacks a bottom bottom' block.before blocks block'.before blocks') :
      Stacks a bottom bottom' nodes (block :: blocks) nodes' (block' :: blocks')

/-- States of the compiler that are related but for the nodes that were there at first. -/
structure States (a : Alignment) (bottom bottom' : List Node) (compiler compiler' : Compiler) :
    Prop where
  stacked : a.Stacks bottom bottom' compiler.nodes compiler.blocks compiler'.nodes compiler'.blocks
  verbatim : Option.Rel a.Verbatims compiler.verbatim compiler'.verbatim

variable {bottom bottom' : List Node} {compiler compiler' : Compiler}
  {fragment fragment' : Fragment}

theorem Stacks.push {nodes nodes' : List Node} {blocks blocks' : List OpenBlock}
    {node node' : Node} (stacked : a.Stacks bottom bottom' nodes blocks nodes' blocks')
    (related : a.Nodes node node') :
    a.Stacks bottom bottom' (node :: nodes) blocks (node' :: nodes') blocks' := by
  cases stacked with
  | outer bodies => exact .outer (.cons related bodies)
  | inner bodies open' around => exact .inner (.cons related bodies) open' around

theorem States.push {node node' : Node} (states : a.States bottom bottom' compiler compiler')
    (related : a.Nodes node node') :
    a.States bottom bottom' (compiler.push node) (compiler'.push node') :=
  ⟨states.stacked.push related, states.verbatim⟩

theorem States.openTag {tag tag' : TagHead} {opened opened' : Opened}
    (states : a.States bottom bottom' compiler compiler') (heads : a.Heads tag tag')
    (openings : a.Openings opened opened') :
    a.States bottom bottom' (compiler.openTag tag opened) (compiler'.openTag tag' opened') := by
  cases openings with
  | node related => exact states.push related
  | block forms =>
    exact ⟨.inner .nil ⟨heads.name, places_of_heads heads, forms⟩ states.stacked, states.verbatim⟩
  | verbatim keep => exact ⟨states.stacked, .some ⟨heads.name, places_of_heads heads, rfl, rfl⟩⟩

theorem closes_of_fragments (fragments : a.fragments fragment fragment') (name : String) :
    fragment'.closes name = fragment.closes name := by
  rw [Fragment.closes, a.kind fragments, (heads_of_fragments fragments).name, Fragment.closes]

theorem States.passOver {verbatim verbatim' : Verbatim}
    (states : a.States bottom bottom' compiler compiler')
    (verbatims : a.Verbatims verbatim verbatim') (fragments : a.fragments fragment fragment') :
    a.States bottom bottom' (compiler.passOver verbatim fragment)
      (compiler'.passOver verbatim' fragment') := by
  have text : fragment'.sourceText = fragment.sourceText := by
    rw [Fragment.sourceText, a.kind fragments, a.text fragments, Fragment.sourceText]
  unfold Compiler.passOver
  rw [verbatims.tag, verbatims.keep, verbatims.text, closes_of_fragments fragments, text]
  split
  · refine ⟨states.stacked.push ?_, .none⟩
    split
    · exact .text _
    · exact .comment
  · exact ⟨states.stacked, .some ⟨rfl, verbatims.openedAt, rfl, rfl⟩⟩

theorem Stacks.bodyEnd {nodes nodes' : List Node} {blocks blocks' : List OpenBlock}
    {verbatim verbatim' : Option Verbatim}
    (stacked : a.Stacks bottom bottom' nodes blocks nodes' blocks')
    (fragments : a.fragments fragment fragment') (isTag : fragment.kind = .markup .tag) :
    a.Outcomes Eq
      ((Compiler.bodyEnd ⟨nodes, blocks, verbatim⟩).check (some fragment.tagHead))
      ((Compiler.bodyEnd ⟨nodes', blocks', verbatim'⟩).check (some fragment'.tagHead)) := by
  have unknown : a.Errors ⟨.unknownTag fragment.tagHead.name, some fragment.tagHead.span⟩
      ⟨.unknownTag fragment'.tagHead.name, some fragment'.tagHead.span⟩ :=
    .unknownTag fragments isTag
  cases stacked with
  | outer bodies => exact .error unknown
  | inner bodies open' around =>
    simp only [Compiler.bodyEnd, BodyEnd.check, open'.tag, open'.form.keywords,
      (heads_of_fragments fragments).name] at unknown ⊢
    split
    · exact .ok rfl
    · exact .error unknown

theorem outcomes_endBody (states : a.States bottom bottom' compiler compiler')
    (fragments : a.fragments fragment fragment') (isTag : fragment.kind = .markup .tag) :
    a.Outcomes (a.States bottom bottom') (compiler.endBody mode fragment.tagHead)
      (compiler'.endBody mode fragment'.tagHead) := by
  obtain ⟨nodes, blocks, verbatim⟩ := compiler
  obtain ⟨nodes', blocks', verbatim'⟩ := compiler'
  obtain ⟨stacked, verbatims⟩ := states
  have heads := heads_of_fragments fragments
  refine outcomes_bind (stacked.bodyEnd fragments isTag) fun _ _ _ => ?_
  cases stacked with
  | outer bodies => exact .ok ⟨.outer bodies, verbatims⟩
  | inner bodies open' around =>
    have bodies := List.rel_reverse bodies
    simp only [heads.name, open'.tag]
    split
    · exact .ok ⟨around.push (open'.form.close bodies), verbatims⟩
    · refine outcomes_bind (outcomes_resume _ fragments isTag open'.form bodies) ?_
      intro form form' forms
      exact .ok ⟨.inner .nil ⟨rfl, places_of_heads heads, forms⟩ around, verbatims⟩

theorem outcomes_step {tags : TagTable} (builtIn : tags.BuiltIn)
    (states : a.States bottom bottom' compiler compiler')
    (fragments : a.fragments fragment fragment') :
    a.Outcomes (a.States bottom bottom') (Compiler.step tags mode compiler fragment)
      (Compiler.step tags mode compiler' fragment') := by
  have heads := heads_of_fragments fragments
  unfold Compiler.step
  have overlooked := states.verbatim
  generalize compiler.verbatim = verbatim at overlooked
  generalize compiler'.verbatim = verbatim' at overlooked
  cases overlooked with
  | some verbatims => exact .ok (states.passOver verbatims fragments)
  | none =>
    simp only [a.kind fragments, a.text fragments]
    split
    · exact .ok (states.push (.text _))
    · exact outcomes_bind (outcomes_readObject fragments) fun _ _ pipelines =>
        .ok (states.push (.object pipelines))
    · next isTag =>
      rw [heads.name]
      split
      next rule known =>
        have noHost host : rule ≠ .host host := by
          rintro rfl
          exact builtIn _ host known
        exact outcomes_bind (outcomes_rule heads noHost) fun _ _ openings =>
          .ok (states.openTag heads openings)
      next => exact outcomes_endBody states fragments isTag

theorem outcomes_feed {tags : TagTable} (builtIn : tags.BuiltIn)
    {fragments fragments' : List Fragment} (related : List.Forall₂ a.fragments fragments fragments')
    (states : a.States bottom bottom' compiler compiler') :
    a.Outcomes (a.States bottom bottom') (fragments.foldlM (Compiler.step tags mode) compiler)
      (fragments'.foldlM (Compiler.step tags mode) compiler') := by
  induction related generalizing compiler compiler' with
  | nil => exact .ok states
  | cons here later ih =>
    rw [List.foldlM_cons, List.foldlM_cons]
    exact outcomes_bind (outcomes_step builtIn states here) fun _ _ states => ih states

theorem outcomes_finish (states : a.States bottom bottom' compiler compiler') :
    a.Outcomes
      (fun body body' => ∃ nodes nodes', a.Bodies nodes nodes' ∧ body = bottom.reverse ++ nodes ∧
        body' = bottom'.reverse ++ nodes')
      compiler.finish compiler'.finish := by
  obtain ⟨nodes, blocks, verbatim⟩ := compiler
  obtain ⟨nodes', blocks', verbatim'⟩ := compiler'
  obtain ⟨stacked, verbatims⟩ := states
  cases verbatims with
  | some verbatims =>
    obtain ⟨text, spans⟩ := verbatims.openedAt
    simp only [Compiler.finish, verbatims.tag]
    exact .error (.placed spans trivial)
  | none =>
    cases stacked with
    | outer bodies =>
      exact .ok ⟨_, _, List.rel_reverse bodies, List.reverse_append, List.reverse_append⟩
    | inner bodies open' around =>
      obtain ⟨text, spans⟩ := open'.openedAt
      simp only [Compiler.finish, Compiler.bodyEnd, open'.tag]
      exact .error (.placed spans trivial)

/-- From corresponding fragments the compiler makes the same tree, but for the places of filter
calls, which correspond, or it reports errors at corresponding places. -/
theorem outcomes_run {tags : TagTable} (builtIn : tags.BuiltIn)
    {fragments fragments' : List Fragment}
    (related : List.Forall₂ a.fragments fragments fragments') :
    a.Outcomes a.Bodies (Compiler.run tags mode fragments) (Compiler.run tags mode fragments') := by
  have states : a.States [] [] Compiler.start Compiler.start := ⟨.outer .nil, .none⟩
  refine outcomes_bind (outcomes_feed builtIn related states) fun compiler compiler' states => ?_
  refine (outcomes_finish states).mono ?_
  rintro _ _ ⟨nodes, nodes', bodies, rfl, rfl⟩
  exact bodies

end Alignment

end TextTemplate
