import TextTemplate.Proofs.Keeps
import TextTemplate.Proofs.Table
import TextTemplate.Proofs.Tree

/-!
# What rendering does to its state

`Context.Evolves` lists once what rendering nodes can do to the state: the elementary writes, loops,
which undo what they bind, and, where there may be nodes of the host, what these can do.
`Node.confined_renderBody` says that it does nothing else, however the render ends. An invariant of
renders then needs an induction over `Evolves` only, and none over nodes. Of all bodies, those with
nodes of the host included, it is known that a hash at the root stays one
(`Node.keepsHash_renderBody`).
-/

namespace TextTemplate

/-- The second state can come about from the first one while nodes are rendered, among them nodes of
the host if `hosts` says so. Outside loops and by others than the host only `names` are bound in the
data root. -/
inductive Context.Evolves (hosts : Prop) : (String → Prop) → Context → Context → Prop
  | refl {names : String → Prop} (context : Context) : Evolves hosts names context context
  | trans {names : String → Prop} {first second third : Context}
      (before : Evolves hosts names first second) (after : Evolves hosts names second third) :
      Evolves hosts names first third
  | drops {names : String → Prop} (context : Context) (drops : DropStore) :
      Evolves hosts names context { context with drops }
  | assign {names : String → Prop} {context : Context} {key : String} {data root : Data}
      (allowed : names key) (written : context.root.set key data = .ok root) :
      Evolves hosts names context { context with root }
  | count {names : String → Prop} (context : Context) (name : String) (n : Int64) :
      Evolves hosts names context { context with counters := context.counters.set name n }
  | setRegister {names : String → Prop} {name : String} (context : Context) (data : Data)
      (free : name ≠ Context.forRegister) :
      Evolves hosts names context (context.setRegister name data)
  | signal {names : String → Prop} (context : Context) (interrupt : Option Interrupt) :
      Evolves hosts names context { context with interrupt }
  | loop {names : String → Prop} {itemName : String} {id : DropId} {context inside : Context}
      (within : Evolves hosts (fun key => names key ∨ key = itemName ∨ key = Context.forloopKey)
        (context.enterLoop itemName id).2 inside) :
      Evolves hosts names context (inside.leaveLoop (context.enterLoop itemName id).1)
  | host {names : String → Prop} {first last : Context} (hosted : hosts)
      (stays : first.StaysHash last) : Evolves hosts names first last

theorem Context.Evolves.mono {hosts : Prop} {names more : String → Prop} {first last : Context}
    (evolves : Evolves hosts names first last) (weaker : ∀ key, names key → more key) :
    Evolves hosts more first last := by
  induction evolves generalizing more with
  | refl context => exact .refl context
  | trans _ _ before after => exact .trans (before weaker) (after weaker)
  | drops context drops => exact .drops context drops
  | assign allowed written => exact .assign (weaker _ allowed) written
  | count context name n => exact .count context name n
  | setRegister context data free => exact .setRegister context data free
  | signal context interrupt => exact .signal context interrupt
  | loop _ ih => exact .loop (ih fun key allowed => allowed.imp_left (weaker key))
  | host hosted stays => exact .host hosted stays

instance (hosts : Prop) (names : String → Prop) : Std.Refl (Context.Evolves hosts names) := ⟨.refl⟩

instance (hosts : Prop) (names : String → Prop) :
    Trans (Context.Evolves hosts names) (Context.Evolves hosts names)
      (Context.Evolves hosts names) := ⟨.trans⟩

namespace Context

/-- Restoring a key of a hash binds this key as asked and no other one. -/
theorem restore_hash (entries : Table Data) (key : String) (saved : Option Data) :
    ∃ back, restore (.hash entries) key saved = .hash back ∧
      ∀ other, back.get? other = if other = key then saved else entries.get? other := by
  cases saved with
  | none => exact ⟨entries.erase key, rfl, fun other => Table.get?_erase entries key other⟩
  | some data =>
    exact ⟨entries.set key data, rfl, fun other => Table.get?_set entries key other data⟩

theorem staysHash_leaveLoop (context : Context) (scope : LoopScope) :
    context.StaysHash (context.leaveLoop scope) := by
  intro entries isHash
  obtain ⟨middle, isMiddle, -⟩ := restore_hash entries scope.itemName scope.savedItem
  obtain ⟨back, isBack, -⟩ := restore_hash middle forloopKey scope.savedForloop
  refine ⟨back, ?_⟩
  show restore (restore context.root _ _) _ _ = _
  rw [isHash, isMiddle, isBack]

/-- However the state came about, a hash at the root is one still. -/
theorem Evolves.staysHash {hosts : Prop} {names : String → Prop} {first last : Context}
    (evolves : Evolves hosts names first last) : first.StaysHash last := by
  induction evolves with
  | trans _ _ before after => exact Trans.trans before after
  | assign allowed written =>
    intro entries isHash
    rw [isHash] at written
    cases written
    exact ⟨_, rfl⟩
  | loop _ ih =>
    intro entries isHash
    obtain ⟨left, isLeft⟩ := ih entries isHash
    exact staysHash_leaveLoop _ _ left isLeft
  | host hosted stays => exact stays
  | refl | drops | count | setRegister | signal => exact fun entries isHash => ⟨entries, isHash⟩

end Context

theorem Context.Reads.evolves {hosts : Prop} {names : String → Prop} {first last : Context}
    (reads : Reads first last) : Evolves hosts names first last := by
  obtain ⟨drops, rfl⟩ := reads
  exact .drops first drops

namespace Render

variable {α : Type} {hosts : Prop} {names : String → Prop}

/-- From every state the action only does what rendering can do. -/
abbrev Confined (hosts : Prop) (names : String → Prop) (action : Render α) : Prop :=
  Keeps (Context.Evolves hosts names) action

theorem confined_of_reads {action : Render α} (reads : Keeps Context.Reads action) :
    Confined hosts names action :=
  reads.mono Context.Reads.evolves

theorem confined_ofDrops (action : DropM α) : Confined hosts names (ofDrops action) :=
  confined_of_reads (keeps_reads_ofDrops action)

theorem confined_assign {key : String} (allowed : names key) (data : Data) :
    Confined hosts names (assign key data) := by
  intro context
  unfold stateAfter assign Context.assign
  cases written : context.root.set key data with
  | ok root => exact .assign allowed written
  | error error => exact .refl context

theorem confined_setRegister {name : String} (free : name ≠ Context.forRegister) (data : Data) :
    Confined hosts names (setRegister name data) :=
  fun context => .setRegister context data free

theorem confined_withLoop {itemName : String} {id : DropId} {action : Render α}
    (inside : Confined hosts
      (fun key => names key ∨ key = itemName ∨ key = Context.forloopKey) action) :
    Confined hosts names (withLoop itemName id action) := by
  intro context
  rw [stateAfter_withLoop]
  exact .loop (inside _)

end Render

namespace LoopHeader

variable {hosts : Prop} {names : String → Prop}

theorem confined_beginIteration (header : LoopHeader) (id : DropId) (index : Nat) (item : Data)
    (itemAllowed : names header.itemName) (forloopAllowed : names Context.forloopKey) :
    Render.Confined hosts names (header.beginIteration id index item) := by
  refine Render.keeps_bind (fun context => .drops context _) fun _ => ?_
  refine Render.keeps_bind (Render.confined_assign itemAllowed item) fun _ => ?_
  exact Render.confined_assign forloopAllowed _

theorem confined_iterate (header : LoopHeader) (id : DropId) (window : Sequence)
    {body : Render String} (bodyConfined : Render.Confined hosts names body)
    (itemAllowed : names header.itemName) (forloopAllowed : names Context.forloopKey)
    (remaining index : Nat) (out : String) :
    Render.Confined hosts names (header.iterate id window body remaining index out) := by
  induction remaining generalizing index out with
  | zero => exact Render.keeps_pure out
  | succ remaining ih =>
    unfold iterate
    refine Render.keeps_bind
      (confined_beginIteration header id index _ itemAllowed forloopAllowed) fun _ => ?_
    refine Render.keeps_bind bodyConfined fun text => ?_
    refine Render.keeps_bind (fun context => .signal context none) fun signal => ?_
    split
    · exact Render.keeps_pure _
    · exact ih (index + 1) (out ++ text)

theorem confined_render (header : LoopHeader) {body otherwise : Render String}
    (bodyConfined : Render.Confined hosts names body)
    (otherwiseConfined : Render.Confined hosts names otherwise) :
    Render.Confined hosts names (header.render body otherwise) := by
  refine Render.keeps_bind (Render.confined_of_reads header.reads_window) fun window => ?_
  split
  · exact otherwiseConfined
  · refine Render.keeps_bind
      (Render.confined_of_reads (reads_addForloop window.length)) fun id => ?_
    refine Render.confined_withLoop ?_
    have inside : Render.Confined hosts (fun key => names key ∨ key = header.itemName ∨
        key = Context.forloopKey) body :=
      bodyConfined.mono fun evolves => evolves.mono fun _ allowed => .inl allowed
    exact confined_iterate header id window inside (.inr (.inl rfl)) (.inr (.inr rfl))
      window.length 0 ""

end LoopHeader

namespace Node

variable {hosts : Prop} {names : String → Prop}

theorem confined_ifChanged (text : String) :
    Render.Confined hosts names (Render.ifChanged text) := by
  have free : changedRegister ≠ Context.forRegister := by decide
  refine Render.keeps_bind (Render.keeps_register changedRegister) fun last => ?_
  refine Render.keeps_ite (Render.keeps_pure "") ?_
  exact Render.keeps_bind (Render.confined_setRegister free _) fun _ => Render.keeps_pure _

mutual

theorem confined_render (filters : FilterTable) :
    (node : Node) → BindsOnly hosts names [node] → Render.Confined hosts names (node.render filters)
  | .text literal, _ => Render.keeps_pure literal
  | .object pipeline, _ =>
    Render.keeps_bind (Render.confined_of_reads (pipeline.reads_eval filters)) fun _ =>
      Render.keeps_pure _
  | .cond negate sections otherwise, only => by
    have last := confined_renderOtherwise filters otherwise fun body held =>
      only.inner (mem_bodies_of_otherwise held)
    exact confined_renderFirst filters last negate sections fun part held =>
      only.inner (mem_bodies_of_section held)
  | .case subject sections otherwise, only => by
    have last := confined_renderOtherwise filters otherwise fun body held =>
      only.inner (mem_bodies_of_otherwise held)
    refine Render.keeps_bind Render.keeps_get fun context => ?_
    refine Render.keeps_bind (Render.confined_ofDrops _) fun value => ?_
    exact confined_renderMatching filters last value "" false sections fun part held =>
      only.inner (mem_bodies_of_section held)
  | .loop header body otherwise, only =>
    header.confined_render
      (confined_renderBody filters "" body (only.inner List.mem_cons_self))
      (confined_renderOtherwise filters otherwise fun _ held =>
        only.inner (.tail _ (Option.mem_toList.2 held)))
  | .cycle rotation, _ =>
    rotation.keeps_render Context.Reads.evolves fun context _ data free =>
      .setRegister context data free
  | .assign name pipeline, only =>
    Render.keeps_bind (Render.confined_of_reads (pipeline.reads_eval filters)) fun data =>
      Render.keeps_bind (Render.confined_assign (only.target rfl) data) fun _ =>
        Render.keeps_pure ""
  | .capture name body, only =>
    Render.keeps_bind
      (confined_renderBody filters "" body (only.inner List.mem_cons_self)) fun text =>
        Render.keeps_bind (Render.confined_assign (only.target rfl) _) fun _ =>
          Render.keeps_pure ""
  | .increment name, _ => fun context => .count context name _
  | .decrement name, _ => fun context => .count context name _
  | .changed body, only =>
    Render.keeps_bind
      (confined_renderBody filters "" body (only.inner List.mem_cons_self)) confined_ifChanged
  | .comment, _ => Render.keeps_pure ""
  | .interrupt signal, _ =>
    Render.keeps_bind (fun context => .signal context (some signal)) fun _ => Render.keeps_pure ""
  | .host run body, only => by
    have inside := confined_renderBody filters "" body (only.inner List.mem_cons_self)
    have keeps : (renderBody filters "" body).KeepsHash := inside.mono Context.Evolves.staysHash
    exact fun context => .host (only.hosted rfl) (run.keepsHash keeps context)

/-- Rendering a body does what `Context.Evolves` lists, and binds the targets of its nodes only. -/
theorem confined_renderBody (filters : FilterTable) (out : String) :
    (body : List Node) → BindsOnly hosts names body →
      Render.Confined hosts names (renderBody filters out body)
  | [], _ => Render.keeps_pure out
  | node :: nodes, only => by
    refine Render.keeps_bind (confined_render filters node only.head) fun text => ?_
    refine Render.keeps_bind Render.keeps_isInterrupted fun interrupted => ?_
    split
    · exact Render.keeps_pure _
    · exact confined_renderBody filters (out ++ text) nodes only.tail

theorem confined_renderOtherwise (filters : FilterTable) :
    (otherwise : Option (List Node)) → (∀ body ∈ otherwise, BindsOnly hosts names body) →
      Render.Confined hosts names (renderOtherwise filters otherwise)
  | some body, only => confined_renderBody filters "" body (only body rfl)
  | none, _ => Render.keeps_pure ""

theorem confined_renderFirst (filters : FilterTable) {otherwise : Render String}
    (last : Render.Confined hosts names otherwise) (negate : Bool) :
    (sections : List (Section Condition Node)) →
      (∀ part ∈ sections, BindsOnly hosts names part.body) →
      Render.Confined hosts names (renderFirst filters otherwise negate sections)
  | [], _ => last
  | ⟨condition, body⟩ :: sections, only => by
    refine Render.keeps_bind Render.keeps_get fun context => ?_
    refine Render.keeps_bind (Render.confined_ofDrops _) fun holds => ?_
    split
    · exact confined_renderBody filters "" body (only _ List.mem_cons_self)
    · exact confined_renderFirst filters last false sections fun part held =>
        only part (List.mem_cons_of_mem _ held)

theorem confined_renderMatching (filters : FilterTable) {otherwise : Render String}
    (last : Render.Confined hosts names otherwise) (subject : Data) (out : String) (matched : Bool) :
    (sections : List (Section (List Expr) Node)) →
      (∀ part ∈ sections, BindsOnly hosts names part.body) →
      Render.Confined hosts names (renderMatching filters otherwise subject out matched sections)
  | [], _ => by
    unfold renderMatching
    split
    · exact Render.keeps_pure out
    · exact Render.keeps_bind last fun text => Render.keeps_pure _
  | ⟨values, body⟩ :: sections, only => by
    have rest (out : String) (matched : Bool) := confined_renderMatching filters last subject out
      matched sections fun part held => only part (List.mem_cons_of_mem _ held)
    refine Render.keeps_bind Render.keeps_get fun context => ?_
    refine Render.keeps_bind (Render.confined_ofDrops _) fun found => ?_
    split
    · refine Render.keeps_bind
        (confined_renderBody filters "" body (only _ List.mem_cons_self)) fun text => ?_
      refine Render.keeps_bind Render.keeps_isInterrupted fun interrupted => ?_
      split
      · exact Render.keeps_pure _
      · exact rest _ true
    · exact rest out matched

end

/-- Whatever nodes a body has, it leaves a hash for the data root where it found one. -/
theorem keepsHash_renderBody (filters : FilterTable) (out : String) (body : List Node) :
    (renderBody filters out body).KeepsHash :=
  (confined_renderBody filters out body (bindsOnly_any body)).mono Context.Evolves.staysHash

end Node

end TextTemplate
