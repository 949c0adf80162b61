import MemberMapping.Proofs.RevisedDeclarations

/-!
The spellings of containers.

The optional wrapper and the collections are recognized with their scope and without it. Two types
are the same up to spelling if they are equal once every container in them, at any depth, is written
without a scope. Two schemas are the same up to spelling if the types of their members are; then
they differ in no look-up, and convert each pair of members alike.
-/

namespace MemberMapping

/-- The reference means the optional wrapper or a collection. -/
def WellKnown.isContainer (w : WellKnown) (path : TypePath) : Bool :=
  w.isOptional path || w.isEnumerable path

mutual

/-- The type with every container in it, at any depth, written without a scope. -/
def Ty.unqualified (w : WellKnown) : Ty → Ty
  | .primitive scalar => .primitive scalar
  | .path target => .path (target.unqualified w)
  | .dyn interface => .dyn (interface.unqualified w)

@[inherit_doc Ty.unqualified]
def TypePath.unqualified (w : WellKnown) : TypePath → TypePath
  | ⟨scope, name, args⟩ =>
    ⟨if w.isContainer ⟨scope, name, args⟩ then .global else scope, name, Ty.unqualifiedAll w args⟩

@[inherit_doc Ty.unqualified]
def Ty.unqualifiedAll (w : WellKnown) : List Ty → List Ty
  | [] => []
  | ty :: rest => ty.unqualified w :: Ty.unqualifiedAll w rest

end

variable {w : WellKnown}

lemma Ty.unqualifiedAll_eq_map (tys : List Ty) :
    Ty.unqualifiedAll w tys = tys.map (Ty.unqualified w) := by
  induction tys with
  | nil => rfl
  | cons ty rest ih => rw [Ty.unqualifiedAll, ih, List.map_cons]

namespace TypePath

lemma unqualified_scope (path : TypePath) :
    (path.unqualified w).scope = if w.isContainer path then .global else path.scope := by
  obtain ⟨scope, name, args⟩ := path
  rw [unqualified]

@[simp] lemma unqualified_name (path : TypePath) : (path.unqualified w).name = path.name := by
  obtain ⟨scope, name, args⟩ := path
  rw [unqualified]

@[simp] lemma unqualified_args (path : TypePath) :
    (path.unqualified w).args = path.args.map (Ty.unqualified w) := by
  obtain ⟨scope, name, args⟩ := path
  rw [unqualified, Ty.unqualifiedAll_eq_map]

end TypePath

namespace WellKnown

/-- Whether a reference means a container does not depend on what its arguments are, and what is
recognized with a scope is recognized without one. -/
lemma isContainer_of_global {path path' : TypePath} (container : w.isContainer path = true)
    (name : path'.name = path.name) (count : path'.args.length = path.args.length)
    (outside : path'.scope = .global) : w.isContainer path' = true := by
  have recognized : ∀ known, recognizes known path = true → recognizes known path' = true := by
    intro known means
    rw [recognizes, Bool.and_eq_true] at means ⊢
    refine ⟨by rw [name]; exact means.1, ?_⟩
    rw [outside]
    rfl
  rw [isContainer, isOptional, isEnumerable, Bool.or_eq_true, Bool.and_eq_true,
    List.any_eq_true] at container ⊢
  rw [count]
  rcases container with ⟨single, means⟩ | ⟨known, listed, means⟩
  · exact Or.inl ⟨single, recognized _ means⟩
  · exact Or.inr ⟨known, listed, recognized known means⟩

lemma isContainer_congr {path path' : TypePath} (scope : path'.scope = path.scope)
    (name : path'.name = path.name) (count : path'.args.length = path.args.length) :
    w.isContainer path' = w.isContainer path := by
  simp only [isContainer, isOptional, isEnumerable, recognizes, scope, name, count]

/-- Containers are recognized without their scope, and nothing else is. -/
@[simp] lemma isContainer_unqualified (path : TypePath) :
    w.isContainer (path.unqualified w) = w.isContainer path := by
  have count : (path.unqualified w).args.length = path.args.length := by simp
  cases container : w.isContainer path with
  | true =>
    refine isContainer_of_global container path.unqualified_name count ?_
    rw [path.unqualified_scope, if_pos container]
  | false =>
    rw [← container]
    refine isContainer_congr ?_ path.unqualified_name count
    rw [path.unqualified_scope, if_neg (by simp [container])]

end WellKnown

/-- References that are the same up to spelling mean containers alike, and if not they are
looked up alike. -/
lemma TypePath.spelled_alike {path path' : TypePath}
    (same : path.unqualified w = path'.unqualified w) :
    w.isContainer path = w.isContainer path' ∧
      (w.isContainer path = false → path.scope = path'.scope ∧ path.name = path'.name) := by
  have containers : w.isContainer path = w.isContainer path' := by
    rw [← WellKnown.isContainer_unqualified path, same, WellKnown.isContainer_unqualified]
  refine ⟨containers, fun plain => ⟨?_, ?_⟩⟩
  · have scopes := congrArg TypePath.scope same
    rwa [unqualified_scope, unqualified_scope, ← containers, plain] at scopes
  · simpa using congrArg TypePath.name same

/-! ### Members and declarations -/

/-- The member with its type written without the scopes of containers. -/
def Member.unqualified (w : WellKnown) (m : Member) : Member :=
  { m with ty := m.ty.unqualified w }

/-- Members that are the same up to spelling differ in the spelling of their types alone. -/
lemma Member.fields_alike {m m' : Member} (same : m.unqualified w = m'.unqualified w) :
    m.name = m'.name ∧ m.ty.unqualified w = m'.ty.unqualified w ∧
      m.lookupName = m'.lookupName ∧ m.converter? = m'.converter? := by
  rw [unqualified, unqualified, mk.injEq] at same
  obtain ⟨name, ty, _, _, _, markers⟩ := same
  simp only [lookupName, rename?, converter?, name, ty, markers, and_self]

/-- The constructor with the types of its parameters written so. -/
def Constructor.unqualified (w : WellKnown) (c : Constructor) : Constructor :=
  { c with params := c.params.map (Member.unqualified w) }

/-- The declaration with the types of its members and parameters written so. -/
def TypeDef.unqualified (w : WellKnown) (d : TypeDef) : TypeDef :=
  { d with
    members := d.members.map (Member.unqualified w)
    constructors := d.constructors.map (Constructor.unqualified w) }

lemma TypeDef.constructionMembers_unqualified (d : TypeDef) :
    (d.unqualified w).constructionMembers = d.constructionMembers.map (Member.unqualified w) := by
  have wider : ∀ first second : Constructor,
      wider (first.unqualified w) (second.unqualified w) = (wider first second).unqualified w := by
    intro first second
    simp only [TypeDef.wider, Constructor.unqualified, List.length_map]
    split <;> rfl
  have widest : (d.unqualified w).widestConstructor? =
      d.widestConstructor?.map (Constructor.unqualified w) := by
    rw [widestConstructor?, widestConstructor?, unqualified]
    cases d.constructors with
    | nil => rfl
    | cons first rest =>
      rw [List.map_cons, Option.map_some, Option.some.injEq, List.foldl_map]
      induction rest generalizing first with
      | nil => rfl
      | cons second rest ih => rw [List.foldl_cons, wider, ih, List.foldl_cons]
  rw [constructionMembers, constructionMembers, widest]
  cases d.widestConstructor? with
  | none => rfl
  | some c => rfl

/-- Declarations that are the same up to spelling differ in their members and constructors alone. -/
lemma TypeDef.outline_alike {d d' : TypeDef} (same : d.unqualified w = d'.unqualified w) :
    d.outline = d'.outline := by
  have kept := congrArg TypeDef.outline same
  exact kept

lemma TypeDef.name_alike {d d' : TypeDef} (same : d.unqualified w = d'.unqualified w) :
    d.name = d'.name := by
  have kept := congrArg TypeDef.name same
  exact kept

/-- Writes the containers in the types of members without their scopes. -/
def unqualifying (w : WellKnown) : Revision where
  ofType := TypeDef.unqualified w
  ofMember := Member.unqualified w
  outline _ := rfl
  members _ := rfl
  constructionMembers d _ := d.constructionMembers_unqualified
  name _ := rfl
  markers _ := rfl

/-- The schema with the containers in the types of members written without their scopes. -/
def Schema.unqualified (s : Schema) : Schema := s.revised (unqualifying s.known)

namespace Schema

variable (s : Schema) (d : TypeDef)

lemma sourceOf?_unqualified :
    s.unqualified.sourceOf? (d.unqualified s.known) =
      (s.sourceOf? d).map (TypeDef.unqualified s.known) :=
  s.sourceOf?_revised (unqualifying s.known) d

lemma mappedBase?_unqualified :
    s.unqualified.mappedBase? (d.unqualified s.known) =
      (s.mappedBase? d).map (TypeDef.unqualified s.known) :=
  s.mappedBase?_revised (unqualifying s.known) d

lemma targetMembers_unqualified :
    s.unqualified.targetMembers (d.unqualified s.known) =
      (s.targetMembers d).map (Member.unqualified s.known) :=
  s.targetMembers_revised (unqualifying s.known) d

lemma sourceCandidates_unqualified :
    s.unqualified.sourceCandidates (d.unqualified s.known) =
      (s.sourceCandidates d).map (Member.unqualified s.known) :=
  s.sourceCandidates_revised (unqualifying s.known) d

lemma isUnrelated_unqualified (source : TypeDef) :
    s.unqualified.isUnrelated (d.unqualified s.known) (source.unqualified s.known) =
      s.isUnrelated d source :=
  s.isUnrelated_revised (unqualifying s.known) d source

lemma conversion?_unqualified : s.unqualified.conversion? = s.conversion? := by
  funext source member
  exact s.conversion?_revised (unqualifying s.known) source member

end Schema

/-- The second schema and target are the first, up to the spelling of containers in the types of
members. -/
structure Schema.Respells (s s' : Schema) (target target' : TypeDef) : Prop where
  schema : s.unqualified = s'.unqualified
  target : target.unqualified s.known = target'.unqualified s.known

namespace Schema.Respells

variable {s s' : Schema} {target target' : TypeDef} (respells : s.Respells s' target target')

include respells

lemma known : s.known = s'.known := by
  have kept := congrArg Schema.known respells.schema
  exact kept

lemma conversion?_eq : s.conversion? = s'.conversion? := by
  rw [← s.conversion?_unqualified, respells.schema, s'.conversion?_unqualified]

lemma sourceOf?_alike :
    (s.sourceOf? target).map (TypeDef.unqualified s.known) =
      (s'.sourceOf? target').map (TypeDef.unqualified s.known) := by
  rw [← sourceOf?_unqualified, respells.schema, respells.target, respells.known,
    sourceOf?_unqualified]

lemma mappedBase?_alike :
    (s.mappedBase? target).map (TypeDef.unqualified s.known) =
      (s'.mappedBase? target').map (TypeDef.unqualified s.known) := by
  rw [← mappedBase?_unqualified, respells.schema, respells.target, respells.known,
    mappedBase?_unqualified]

lemma targetMembers_alike :
    (s.targetMembers target).map (Member.unqualified s.known) =
      (s'.targetMembers target').map (Member.unqualified s.known) := by
  rw [← targetMembers_unqualified, respells.schema, respells.target, respells.known,
    targetMembers_unqualified]

lemma sourceCandidates_alike {source source' : TypeDef}
    (same : source.unqualified s.known = source'.unqualified s.known) :
    (s.sourceCandidates source).map (Member.unqualified s.known) =
      (s'.sourceCandidates source').map (Member.unqualified s.known) := by
  rw [← sourceCandidates_unqualified, respells.schema, same, respells.known,
    sourceCandidates_unqualified]

lemma isUnrelated_alike {source source' : TypeDef}
    (same : source.unqualified s.known = source'.unqualified s.known) :
    s.isUnrelated target source = s'.isUnrelated target' source' := by
  rw [← isUnrelated_unqualified, respells.schema, respells.target, same, respells.known,
    isUnrelated_unqualified]

end Schema.Respells

end MemberMapping
