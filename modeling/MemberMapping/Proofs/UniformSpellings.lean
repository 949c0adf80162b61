import MemberMapping.Proofs.AlikeOutcomes
import MemberMapping.Proofs.DirectValues
import MemberMapping.Proofs.References

/-!
Schemas that write each container in one way.

Types that are the same up to spelling and written in one way are equal. So where containers are
told apart from each other and from what is declared, comparing types letter by letter comes to the
same in any one way of writing.
-/

namespace MemberMapping

/-! ## One way of writing -/

/-- Every container among the paths is written with the scope that is chosen for its name. -/
def SpelledBy (w : WellKnown) (spell : String → Namespace) (paths : List TypePath) : Prop :=
  ∀ path ∈ paths, w.isContainer path = true → path.scope = spell path.name

section SpelledBy

variable {w : WellKnown} {spell : String → Namespace}

mutual

/-- Types that are the same up to spelling, and written in the same way, are equal. -/
lemma Ty.eq_of_spelled (ty ty' : Ty) (first : SpelledBy w spell ty.paths)
    (second : SpelledBy w spell ty'.paths) (same : ty.unqualified w = ty'.unqualified w) :
    ty = ty' := by
  cases ty with
  | primitive scalar =>
    cases ty' with
    | primitive scalar' => exact same
    | path | dyn => cases same
  | path target =>
    cases ty' with
    | path target' =>
      exact congrArg Ty.path
        (TypePath.eq_of_spelled target target' first second (Ty.path.inj same))
    | primitive | dyn => cases same
  | dyn interface =>
    cases ty' with
    | dyn interface' =>
      exact congrArg Ty.dyn
        (TypePath.eq_of_spelled interface interface' first second (Ty.dyn.inj same))
    | primitive | path => cases same

@[inherit_doc Ty.eq_of_spelled]
lemma TypePath.eq_of_spelled (path path' : TypePath) (first : SpelledBy w spell path.paths)
    (second : SpelledBy w spell path'.paths) (same : path.unqualified w = path'.unqualified w) :
    path = path' := by
  obtain ⟨containers, plain⟩ := TypePath.spelled_alike same
  obtain ⟨scope, name, args⟩ := path
  obtain ⟨scope', name', args'⟩ := path'
  rw [TypePath.unqualified, TypePath.unqualified, TypePath.mk.injEq] at same
  obtain ⟨_, rfl, rest⟩ := same
  obtain rfl : args = args' := Ty.eq_of_spelledAll args args'
    (fun inner present => first inner (List.mem_cons_of_mem _ present))
    (fun inner present => second inner (List.mem_cons_of_mem _ present)) rest
  cases container : w.isContainer ⟨scope, name, args⟩ with
  | false =>
    obtain ⟨rfl, _⟩ := plain container
    rfl
  | true =>
    have chosen := first _ List.mem_cons_self container
    have chosen' := second _ List.mem_cons_self (containers.symm.trans container)
    obtain rfl : scope = scope' := chosen.trans chosen'.symm
    rfl

@[inherit_doc Ty.eq_of_spelled]
lemma Ty.eq_of_spelledAll (tys tys' : List Ty) (first : SpelledBy w spell (Ty.pathsOf tys))
    (second : SpelledBy w spell (Ty.pathsOf tys'))
    (same : Ty.unqualifiedAll w tys = Ty.unqualifiedAll w tys') : tys = tys' := by
  cases tys with
  | nil =>
    cases tys' with
    | nil => rfl
    | cons => cases same
  | cons ty rest =>
    cases tys' with
    | nil => cases same
    | cons ty' rest' =>
      obtain ⟨head, tail⟩ := List.cons.inj same
      obtain rfl : ty = ty' := Ty.eq_of_spelled ty ty'
        (fun inner present => first inner (List.mem_append_left _ present))
        (fun inner present => second inner (List.mem_append_left _ present)) head
      obtain rfl : rest = rest' := Ty.eq_of_spelledAll rest rest'
        (fun inner present => first inner (List.mem_append_right _ present))
        (fun inner present => second inner (List.mem_append_right _ present)) tail
      rfl

end

lemma SpelledBy.arg {path : TypePath} {ty : Ty} (spelled : SpelledBy w spell path.paths)
    (present : ty ∈ path.args) : SpelledBy w spell ty.paths := by
  have within : ∀ tys : List Ty, ty ∈ tys → ty.paths ⊆ Ty.pathsOf tys := by
    intro tys
    induction tys with
    | nil => intro present; cases present
    | cons first rest ih =>
      intro present inner listed
      rw [Ty.pathsOf, List.mem_append]
      rcases List.mem_cons.mp present with rfl | later
      · exact Or.inl listed
      · exact Or.inr (ih later listed)
  obtain ⟨scope, name, args⟩ := path
  intro inner listed
  exact spelled inner (List.mem_cons_of_mem _ (within args present listed))

end SpelledBy

/-! ## What is written in a schema -/

namespace Schema

/-- Each container is written with the scope that is chosen for its name, throughout the schema. -/
def Spells (s : Schema) (spell : String → Namespace) : Prop :=
  ∀ d ∈ s.types, SpelledBy s.known spell d.paths

variable {s : Schema} {spell : String → Namespace} {d : TypeDef}

lemma holder_of_kindMembers (declared : d ∈ s.types) {declaredOnly : Bool} {m : Member}
    (listed : m ∈ s.kindMembers d declaredOnly) :
    ∃ holder ∈ s.types, m ∈ holder.members ∨ m ∈ holder.constructionMembers := by
  rw [kindMembers] at listed
  split at listed
  · rw [members] at listed
    split at listed
    · exact ⟨d, declared, Or.inl listed⟩
    · rcases List.mem_append.mp listed with inherited | own
      · obtain ⟨base, met, own⟩ := List.mem_flatMap.mp inherited
        exact ⟨base, mem_types_of_bases (List.mem_reverse.mp met), Or.inl own⟩
      · exact ⟨d, declared, Or.inl own⟩
  · exact ⟨d, declared, Or.inr listed⟩
  · exact ⟨d, declared, Or.inl listed⟩
  · exact ⟨d, declared, Or.inl listed⟩

lemma Spells.member (spells : s.Spells spell) (declared : d ∈ s.types) {declaredOnly : Bool}
    {m : Member} (listed : m ∈ mappable (s.kindMembers d declaredOnly)) :
    SpelledBy s.known spell m.ty.paths := by
  obtain ⟨holder, known, own⟩ := holder_of_kindMembers declared (List.mem_filter.mp listed).1
  intro path present
  exact spells holder known path
    (TypeDef.paths_of_member own (List.mem_append_left _ present))

lemma Spells.interface (spells : s.Spells spell) (declared : d ∈ s.types) {interface : TypePath}
    (listed : interface ∈ s.allInterfaces d) : SpelledBy s.known spell interface.paths := by
  obtain ⟨holder, met, own⟩ := List.mem_flatMap.mp listed
  have known : holder ∈ s.types := by
    rcases List.mem_cons.mp met with rfl | above
    · exact declared
    · exact mem_types_of_bases above
  intro path present
  exact spells holder known path (TypeDef.paths_of_interface own present)

/-! ## Containers that are told apart -/

/-- Containers are told apart from each other and from what is declared: no collection has the name
of the optional wrapper in another scope, no declaration has the name of a container, and no type is
mapped from one. -/
structure TellsContainers (s : Schema) : Prop where
  distinct : ∀ known ∈ s.known.enumerables, known.name = s.known.optional.name →
    known.scope = s.known.optional.scope
  undeclared : ∀ path, s.known.isContainer path = true → s.typeDef? path = none
  unmapped : ∀ d ∈ s.types, ∀ mapped, d.mapFrom? = some mapped →
    ∀ path, s.known.isContainer path = true → mapped.definitionName ≠ path.definitionName

/-- A reference means a well-known type by its name, and by its scope where it has one. -/
lemma recognizes_iff {known path : TypePath} :
    WellKnown.recognizes known path = true ↔
      known.name = path.name ∧ (path.scope.isGlobal = true ∨ known.scope = path.scope) := by
  rw [WellKnown.recognizes, Bool.and_eq_true, Bool.or_eq_true, beq_iff_eq, beq_iff_eq]

/-- A container is looked up under the name of a well-known type, with or without its scope. -/
lemma definitionName_of_isContainer {w : WellKnown} {path : TypePath}
    (container : w.isContainer path = true) :
    ∃ known ∈ w.optional :: w.enumerables,
      path.definitionName = known.name ∨ path.definitionName = known.definitionName := by
  obtain ⟨known, listed, means⟩ : ∃ known ∈ w.optional :: w.enumerables,
      WellKnown.recognizes known path = true := by
    rw [WellKnown.isContainer, Bool.or_eq_true] at container
    rcases container with optional | collection
    · rw [WellKnown.isOptional, Bool.and_eq_true] at optional
      exact ⟨_, List.mem_cons_self, optional.2⟩
    · obtain ⟨known, listed, means⟩ := List.any_eq_true.mp collection
      exact ⟨known, List.mem_cons_of_mem _ listed, means⟩
  obtain ⟨name, outside | inside⟩ := recognizes_iff.mp means
  · exact ⟨known, listed, Or.inl (by rw [TypePath.definitionName, if_pos outside, name])⟩
  · refine ⟨known, listed, Or.inr ?_⟩
    rw [TypePath.definitionName, TypePath.definitionName, inside, name]

namespace TellsContainers

variable (tells : s.TellsContainers)

include tells

lemma recognizes_optional {path : TypePath} (container : s.known.isContainer path = true)
    (name : s.known.optional.name = path.name) :
    WellKnown.recognizes s.known.optional path = true := by
  rw [WellKnown.isContainer, Bool.or_eq_true] at container
  rcases container with optional | collection
  · rw [WellKnown.isOptional, Bool.and_eq_true] at optional
    exact optional.2
  · obtain ⟨known, listed, means⟩ := List.any_eq_true.mp collection
    obtain ⟨named, scope⟩ := recognizes_iff.mp means
    rw [recognizes_iff, ← tells.distinct known listed (named.trans name.symm)]
    exact ⟨name, scope⟩

lemma isEnumerable_of_name {path known : TypePath} (container : s.known.isContainer path = true)
    (listed : known ∈ s.known.enumerables) (name : known.name = path.name) :
    s.known.isEnumerable path = true := by
  rw [WellKnown.isContainer, Bool.or_eq_true] at container
  rcases container with optional | collection
  · rw [WellKnown.isOptional, Bool.and_eq_true] at optional
    obtain ⟨named, scope⟩ := recognizes_iff.mp optional.2
    refine List.any_eq_true.mpr ⟨known, listed, recognizes_iff.mpr ⟨name, ?_⟩⟩
    rw [tells.distinct known listed (name.trans named.symm)]
    exact scope
  · exact collection

lemma isOptional_unqualified (path : TypePath) :
    s.known.isOptional (path.unqualified s.known) = s.known.isOptional path := by
  have containers := WellKnown.isContainer_unqualified (w := s.known) path
  cases container : s.known.isContainer path with
  | false =>
    rw [container, WellKnown.isContainer, Bool.or_eq_false_iff] at containers
    rw [WellKnown.isContainer, Bool.or_eq_false_iff] at container
    rw [containers.1, container.1]
  | true =>
    rw [container] at containers
    rw [Bool.eq_iff_iff, WellKnown.isOptional, WellKnown.isOptional, Bool.and_eq_true,
      Bool.and_eq_true, path.unqualified_args, List.length_map]
    refine and_congr_right fun _ => ⟨fun means => ?_, fun means => ?_⟩
    · have name := (recognizes_iff.mp means).1
      rw [path.unqualified_name] at name
      exact tells.recognizes_optional container name
    · have name := (recognizes_iff.mp means).1
      rw [← path.unqualified_name (w := s.known)] at name
      exact tells.recognizes_optional containers name

lemma isEnumerable_unqualified (path : TypePath) :
    s.known.isEnumerable (path.unqualified s.known) = s.known.isEnumerable path := by
  have containers := WellKnown.isContainer_unqualified (w := s.known) path
  cases container : s.known.isContainer path with
  | false =>
    rw [container, WellKnown.isContainer, Bool.or_eq_false_iff] at containers
    rw [WellKnown.isContainer, Bool.or_eq_false_iff] at container
    rw [containers.2, container.2]
  | true =>
    rw [container] at containers
    rw [Bool.eq_iff_iff]
    constructor
    · intro collection
      obtain ⟨known, listed, means⟩ := List.any_eq_true.mp collection
      have name := (recognizes_iff.mp means).1
      rw [path.unqualified_name] at name
      exact tells.isEnumerable_of_name container listed name
    · intro collection
      obtain ⟨known, listed, means⟩ := List.any_eq_true.mp collection
      have name := (recognizes_iff.mp means).1
      rw [← path.unqualified_name (w := s.known)] at name
      exact tells.isEnumerable_of_name containers listed name

lemma typeDef?_alike {path path' : TypePath}
    (same : path.unqualified s.known = path'.unqualified s.known) :
    s.typeDef? path = s.typeDef? path' := by
  obtain ⟨containers, plain⟩ := TypePath.spelled_alike same
  cases container : s.known.isContainer path with
  | true =>
    rw [tells.undeclared path container, tells.undeclared path' (containers ▸ container)]
  | false =>
    obtain ⟨scope, name⟩ := plain container
    rw [typeDef?, typeDef?, TypePath.definitionName, TypePath.definitionName, scope, name]

lemma typeOf?_alike {ty ty' : Ty} (same : ty.unqualified s.known = ty'.unqualified s.known) :
    s.typeOf? ty = s.typeOf? ty' := by
  cases ty with
  | primitive =>
    cases ty' with
    | primitive => rfl
    | path | dyn => cases same
  | path target =>
    cases ty' with
    | path target' => exact tells.typeDef?_alike (Ty.path.inj same)
    | primitive | dyn => cases same
  | dyn interface =>
    cases ty' with
    | dyn interface' => exact tells.typeDef?_alike (Ty.dyn.inj same)
    | primitive | path => cases same

lemma mappedFrom_alike {target source target' source' : Ty}
    (targets : target.unqualified s.known = target'.unqualified s.known)
    (sources : source.unqualified s.known = source'.unqualified s.known)
    (maps : s.MappedFrom target source) : s.MappedFrom target' source' := by
  obtain ⟨path, d, mapped, rfl, found, marked, named⟩ := maps
  cases source' with
  | primitive | dyn => cases sources
  | path path' =>
    have declared : d ∈ s.types := by
      obtain ⟨nominal, _, looked⟩ := Option.bind_eq_some_iff.mp found
      exact (mem_of_find? looked).1
    have plain : s.known.isContainer path = false := by
      by_contra container
      exact tells.unmapped d declared mapped marked path (by simpa using container) named
    obtain ⟨scope, name⟩ := (TypePath.spelled_alike (Ty.path.inj sources)).2 plain
    refine ⟨path', d, mapped, rfl, (tells.typeOf?_alike targets).symm.trans found, marked, ?_⟩
    rw [named, TypePath.definitionName, TypePath.definitionName, scope, name]

lemma isGenericEnumerable_alike {path path' : TypePath}
    (same : path.unqualified s.known = path'.unqualified s.known) :
    s.isGenericEnumerable (.path path) = s.isGenericEnumerable (.path path') := by
  have collections : s.known.isEnumerable path = s.known.isEnumerable path' := by
    rw [← tells.isEnumerable_unqualified path, same, tells.isEnumerable_unqualified]
  have counts := congrArg (fun p => p.args.length) same
  simp only [TypePath.unqualified_args, List.length_map] at counts
  rw [isGenericEnumerable, isGenericEnumerable, collections, counts, tells.typeDef?_alike same]

lemma enumerableElement?_alike {ty ty' element : Ty}
    (same : ty.unqualified s.known = ty'.unqualified s.known)
    (found : s.enumerableElement? ty = some element) :
    ∃ element', s.enumerableElement? ty' = some element' ∧
      element.unqualified s.known = element'.unqualified s.known := by
  cases ty with
  | primitive | dyn => cases found
  | path path =>
    cases ty' with
    | primitive | dyn => cases same
    | path path' =>
      have paths := Ty.path.inj same
      rw [enumerableElement?, tells.isGenericEnumerable_alike paths] at found
      rw [enumerableElement?]
      split at found
      · rename_i collection
        have heads := congrArg (fun p => p.args.head?) paths
        have head : path.args.head? = some element := found
        simp only [TypePath.unqualified_args, List.head?_map, head, Option.map_some] at heads
        obtain ⟨element', head', alike⟩ := Option.map_eq_some_iff.mp heads.symm
        exact ⟨element', by rw [if_pos collection]; exact head', alike.symm⟩
      · cases found

lemma isSome_elementConversion?_alike {source target source' target' : Ty}
    (sources : source.unqualified s.known = source'.unqualified s.known)
    (targets : target.unqualified s.known = target'.unqualified s.known)
    (converts : (s.elementConversion? source target).isSome = true) :
    (s.elementConversion? source' target').isSome = true := by
  rw [elementConversion?] at converts ⊢
  split at converts
  · rename_i sourceElement element found found'
    split at converts
    · rename_i maps
      obtain ⟨sourceElement', second, alike⟩ := tells.enumerableElement?_alike sources found
      obtain ⟨element', second', alike'⟩ := tells.enumerableElement?_alike targets found'
      have maps' := tells.mappedFrom_alike alike' alike maps
      simp only [second, second', if_pos maps', Option.isSome_some]
    · cases converts
  · cases converts

/-! ## Comparisons in one way of writing -/

section Spelled

variable {source target source' target' : Ty}
  (sources : source.unqualified s.known = source'.unqualified s.known)
  (targets : target.unqualified s.known = target'.unqualified s.known)
  (written : SpelledBy s.known spell source'.paths)
  (written' : SpelledBy s.known spell target'.paths)
  (interfaces : ∀ d ∈ s.types, ∀ interface ∈ s.allInterfaces d,
    SpelledBy s.known spell interface.paths)

include sources targets written written' interfaces

/-- What is assigned as it is still is where the types are written as the interfaces are. -/
lemma assignable_alike (assignable : s.Assignable source target) :
    s.Assignable source' target' := by
  -- One case for each rule. Types that are only compared by shape keep their shape, and types
  -- that are compared letter by letter are equal, as both are written the one way.
  cases assignable with
  | same =>
    obtain rfl : source' = target' :=
      Ty.eq_of_spelled source' target' written written' (sources.symm.trans targets)
    exact .same source'
  | widened widens =>
    cases source' with
    | path | dyn => cases sources
    | primitive p =>
      cases target' with
      | path | dyn => cases targets
      | primitive q =>
        cases sources
        cases targets
        exact .widened widens
  | @lifted _ wrapper optional content =>
    cases target' with
    | primitive | dyn => cases targets
    | path wrapper' =>
      have wrappers := Ty.path.inj targets
      have optional' : s.known.isOptional wrapper' = true := by
        rw [← tells.isOptional_unqualified, ← wrappers, tells.isOptional_unqualified, optional]
      have contents := congrArg TypePath.args wrappers
      rw [wrapper.unqualified_args, wrapper'.unqualified_args, content, List.map_cons, List.map_nil,
        eq_comm, List.map_eq_singleton_iff] at contents
      obtain ⟨held, content', alike⟩ := contents
      have inside : SpelledBy s.known spell held.paths :=
        SpelledBy.arg written' (by rw [content']; exact List.mem_singleton_self held)
      obtain rfl : held = source' :=
        Ty.eq_of_spelled held source' inside written (alike.trans sources)
      exact .lifted optional' content'
  | @boxed path interface boxes =>
    cases source' with
    | primitive | dyn => cases sources
    | path path' =>
      cases target' with
      | primitive | path => cases targets
      | dyn interface' =>
        refine .boxed ?_
        rw [implements, ← tells.typeDef?_alike (Ty.path.inj sources)]
        rw [implements] at boxes
        cases found : s.typeDef? path with
        | none =>
          rw [found] at boxes
          cases boxes
        | some d =>
          rw [found] at boxes
          have listed := List.contains_iff_mem.mp boxes
          obtain rfl : interface = interface' :=
            TypePath.eq_of_spelled interface interface'
              (interfaces d (mem_of_find? found).1 interface listed) written' (Ty.dyn.inj targets)
          exact boxes

omit tells in
lemma convertedBy_alike {converter : TypePath} (converts : s.ConvertedBy converter source target) :
    s.ConvertedBy converter source' target' := by
  obtain ⟨d, found, interface, listed, means, args⟩ := converts
  have inside : ∀ ty ∈ interface.args, SpelledBy s.known spell ty.paths := by
    intro ty present
    exact SpelledBy.arg (interfaces d (mem_of_find? found).1 interface listed) present
  have first := inside source (by simp [args])
  have second := inside target (by simp [args])
  obtain rfl : source = source' := Ty.eq_of_spelled source source' first written sources
  obtain rfl : target = target' := Ty.eq_of_spelled target target' second written' targets
  exact ⟨d, found, interface, listed, means, args⟩

end Spelled

/-- Pairs of members of which each is written in one way are compared alike, if the interfaces of
declared types are written in both ways. -/
lemma comparesAlike {spell spell' : String → Namespace} {source member source' member' : Member}
    (sources : source.ty.unqualified s.known = source'.ty.unqualified s.known)
    (members : member.ty.unqualified s.known = member'.ty.unqualified s.known)
    (written : SpelledBy s.known spell source.ty.paths ∧ SpelledBy s.known spell member.ty.paths)
    (written' : SpelledBy s.known spell' source'.ty.paths ∧
      SpelledBy s.known spell' member'.ty.paths)
    (interfaces : ∀ d ∈ s.types, ∀ interface ∈ s.allInterfaces d,
      SpelledBy s.known spell interface.paths)
    (interfaces' : ∀ d ∈ s.types, ∀ interface ∈ s.allInterfaces d,
      SpelledBy s.known spell' interface.paths) :
    s.ComparesAlike source member source' member' where
  assigned := by
    rw [Bool.eq_iff_iff, isCompatible_iff, isCompatible_iff]
    exact ⟨tells.assignable_alike sources members written'.1 written'.2 interfaces',
      tells.assignable_alike sources.symm members.symm written.1 written.2 interfaces⟩
  converted _ _ _ _ :=
    ⟨convertedBy_alike sources members written'.1 written'.2 interfaces',
      convertedBy_alike sources.symm members.symm written.1 written.2 interfaces⟩
  mapped _ _ :=
    ⟨tells.mappedFrom_alike members sources, tells.mappedFrom_alike members.symm sources.symm⟩
  elements _ _ _ := by
    rw [Bool.eq_iff_iff]
    exact ⟨tells.isSome_elementConversion?_alike sources members,
      tells.isSome_elementConversion?_alike sources.symm members.symm⟩

end TellsContainers

end Schema

end MemberMapping
