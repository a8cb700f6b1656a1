import TextTemplate.Node

/-!
# Nodes of a tree

A template is a tree of nodes. `Node.bodies` lists the bodies that one node holds, and
`Node.Within` says that a node stands somewhere in a body, at any depth. What a theorem asks of a
tree is asked of every node within it.
-/

namespace TextTemplate.Node

/-- The bodies that a node holds. -/
def bodies : Node → List (List Node)
  | cond _ sections otherwise => sections.map Section.body ++ otherwise.toList
  | case _ sections otherwise => sections.map Section.body ++ otherwise.toList
  | loop _ body otherwise => body :: otherwise.toList
  | capture _ body | changed body | host _ body => [body]
  | _ => []

/-- Whether a node is one of the host's. -/
def isHost : Node → Bool
  | host .. => true
  | _ => false

/-- The name that a node binds in the data root for good. -/
def target? : Node → Option String
  | assign name _ | capture name _ => some name
  | _ => none

/-- The node stands somewhere in the body. -/
inductive Within (node : Node) : List Node → Prop
  | top {body : List Node} (member : node ∈ body) : Within node body
  | nested {body inner : List Node} {outer : Node} (member : outer ∈ body)
      (held : inner ∈ outer.bodies) (within : Within node inner) : Within node body

/-- No node of the host stands in the body. -/
def BuiltIn (body : List Node) : Prop :=
  ∀ node, Within node body → node.isHost = false

/-- The names of the `assign` and `capture` nodes in the body. -/
def Targets (body : List Node) (name : String) : Prop :=
  ∃ node, Within node body ∧ node.target? = some name

variable {node : Node} {body : List Node}

theorem mem_bodies_of_section {γ : Type} {part : Section γ Node} {sections : List (Section γ Node)}
    {otherwise : Option (List Node)} (held : part ∈ sections) :
    part.body ∈ sections.map Section.body ++ otherwise.toList :=
  List.mem_append_left _ (List.mem_map_of_mem held)

theorem mem_bodies_of_otherwise {before : List (List Node)} {otherwise : Option (List Node)}
    (held : body ∈ otherwise) : body ∈ before ++ otherwise.toList :=
  List.mem_append_right _ (Option.mem_toList.2 held)

theorem within_nil : ¬ Within node [] := by
  intro within
  cases within with
  | top member => cases member
  | nested member => cases member

theorem within_cons {head : Node} :
    Within node (head :: body) ↔
      node = head ∨ (∃ inner ∈ head.bodies, Within node inner) ∨ Within node body := by
  constructor
  · intro within
    cases within with
    | top member =>
      rcases List.mem_cons.1 member with rfl | member
      · exact .inl rfl
      · exact .inr (.inr (.top member))
    | nested member held within =>
      rcases List.mem_cons.1 member with rfl | member
      · exact .inr (.inl ⟨_, held, within⟩)
      · exact .inr (.inr (.nested member held within))
  · rintro (rfl | ⟨inner, held, within⟩ | within)
    · exact .top List.mem_cons_self
    · exact .nested List.mem_cons_self held within
    · cases within with
      | top member => exact .top (List.mem_cons_of_mem _ member)
      | nested member held within => exact .nested (List.mem_cons_of_mem _ member) held within

/-- Every node within the body has the property. -/
def Everywhere (property : Node → Prop) (body : List Node) : Prop :=
  ∀ node, Within node body → property node

section Everywhere

variable {property : Node → Prop} {nodes : List Node}

@[simp] theorem everywhere_nil : Everywhere property [] :=
  fun _ within => absurd within within_nil

@[simp] theorem everywhere_cons :
    Everywhere property (node :: nodes) ↔
      property node ∧ (∀ inner ∈ node.bodies, Everywhere property inner) ∧
        Everywhere property nodes := by
  constructor
  · intro everywhere
    refine ⟨everywhere node (within_cons.2 (.inl rfl)), ?_, ?_⟩
    · intro inner held found within
      exact everywhere found (within_cons.2 (.inr (.inl ⟨inner, held, within⟩)))
    · intro found within
      exact everywhere found (within_cons.2 (.inr (.inr within)))
  · rintro ⟨here, inside, after⟩ found within
    rcases within_cons.1 within with rfl | ⟨inner, held, within⟩ | within
    · exact here
    · exact inside inner held found within
    · exact after found within

theorem Everywhere.here (everywhere : Everywhere property [node]) : property node :=
  (everywhere_cons.1 everywhere).1

theorem Everywhere.inner (everywhere : Everywhere property [node]) (held : body ∈ node.bodies) :
    Everywhere property body :=
  (everywhere_cons.1 everywhere).2.1 body held

theorem Everywhere.head (everywhere : Everywhere property (node :: nodes)) :
    Everywhere property [node] := by
  have ⟨here, inside, _⟩ := everywhere_cons.1 everywhere
  exact everywhere_cons.2 ⟨here, inside, everywhere_nil⟩

theorem Everywhere.tail (everywhere : Everywhere property (node :: nodes)) :
    Everywhere property nodes :=
  (everywhere_cons.1 everywhere).2.2

end Everywhere

@[simp] theorem builtIn_nil : BuiltIn [] :=
  everywhere_nil

@[simp] theorem builtIn_cons :
    BuiltIn (node :: body) ↔
      node.isHost = false ∧ (∀ inner ∈ node.bodies, BuiltIn inner) ∧ BuiltIn body :=
  everywhere_cons

@[simp] theorem targets_nil {name : String} : ¬ Targets [] name :=
  fun ⟨_, within, _⟩ => within_nil within

@[simp] theorem targets_cons {name : String} :
    Targets (node :: body) name ↔
      node.target? = some name ∨ (∃ inner ∈ node.bodies, Targets inner name) ∨
        Targets body name := by
  constructor
  · rintro ⟨found, within, binds⟩
    rcases within_cons.1 within with rfl | ⟨inner, held, within⟩ | within
    · exact .inl binds
    · exact .inr (.inl ⟨inner, held, found, within, binds⟩)
    · exact .inr (.inr ⟨found, within, binds⟩)
  · rintro (binds | ⟨inner, held, found, within, binds⟩ | ⟨found, within, binds⟩)
    · exact ⟨node, within_cons.2 (.inl rfl), binds⟩
    · exact ⟨found, within_cons.2 (.inr (.inl ⟨inner, held, within⟩)), binds⟩
    · exact ⟨found, within_cons.2 (.inr (.inr within)), binds⟩

/-- The nodes of the body bind `names` only, and are not the host's unless `hosts` says so. -/
def BindsOnly (hosts : Prop) (names : String → Prop) (body : List Node) : Prop :=
  ∀ node, Within node body →
    (node.isHost = true → hosts) ∧ ∀ name, node.target? = some name → names name

namespace BindsOnly

variable {hosts : Prop} {names : String → Prop} {nodes : List Node}

theorem head (only : BindsOnly hosts names (node :: nodes)) : BindsOnly hosts names [node] :=
  Everywhere.head only

theorem tail (only : BindsOnly hosts names (node :: nodes)) : BindsOnly hosts names nodes :=
  Everywhere.tail only

theorem inner (only : BindsOnly hosts names [node]) (held : body ∈ node.bodies) :
    BindsOnly hosts names body :=
  Everywhere.inner only held

theorem hosted (only : BindsOnly hosts names [node]) : node.isHost = true → hosts :=
  (Everywhere.here only).1

theorem target (only : BindsOnly hosts names [node]) {name : String}
    (binds : node.target? = some name) : names name :=
  (Everywhere.here only).2 name binds

end BindsOnly

theorem BuiltIn.inner {held : List Node} (builtIn : BuiltIn [node]) (member : held ∈ node.bodies) :
    BuiltIn held :=
  Everywhere.inner builtIn member

theorem BuiltIn.head (builtIn : BuiltIn (node :: body)) : BuiltIn [node] :=
  Everywhere.head builtIn

theorem BuiltIn.tail (builtIn : BuiltIn (node :: body)) : BuiltIn body :=
  Everywhere.tail builtIn

theorem BuiltIn.bindsOnly (builtIn : BuiltIn body) : BindsOnly False (Targets body) body := by
  refine fun node within => ⟨fun hosted => ?_, fun _ binds => ⟨node, within, binds⟩⟩
  rw [builtIn node within] at hosted
  cases hosted

theorem bindsOnly_any (body : List Node) : BindsOnly True (fun _ => True) body :=
  fun _ _ => ⟨fun _ => trivial, fun _ _ => trivial⟩

end TextTemplate.Node
