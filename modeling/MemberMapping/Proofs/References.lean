import MemberMapping.Proofs.BuiltSchema
import MemberMapping.Proofs.Lists

/-!
The paths that a declaration refers to, at any depth of type arguments, and the names under which
their declarations are looked up.
-/

namespace MemberMapping

mutual

/-- The paths in a type: its own, then those of its arguments. -/
def Ty.paths : Ty → List TypePath
  | .primitive _ => []
  | .path target => target.paths
  | .dyn interface => interface.paths

def TypePath.paths : TypePath → List TypePath
  | ⟨scope, name, args⟩ => ⟨scope, name, args⟩ :: Ty.pathsOf args

def Ty.pathsOf : List Ty → List TypePath
  | [] => []
  | ty :: rest => ty.paths ++ Ty.pathsOf rest

end

def Marker.paths : Marker → List TypePath
  | .mapFrom source => source.paths
  | .converter name _ => name.paths
  | .mapProperty _ | .ignoreMember | .useUpdate | .jsonExtension => []

def Member.paths (m : Member) : List TypePath :=
  m.ty.paths ++ m.markers.flatMap Marker.paths

/-- The paths in a declaration: in its markers, its base, its interfaces, its members and the
parameters of its constructors. -/
def TypeDef.paths (d : TypeDef) : List TypePath :=
  d.markers.flatMap Marker.paths ++ d.base.toList.flatMap TypePath.paths ++
    d.interfaces.flatMap TypePath.paths ++ d.members.flatMap Member.paths ++
    d.constructors.flatMap fun c => c.params.flatMap Member.paths

@[simp] lemma TypeDef.stamped_paths (d : TypeDef) : d.stamped.paths = d.paths := by
  simp only [TypeDef.paths, TypeDef.stamped, List.flatMap_map]
  rfl

namespace Markers

lemma mem_of_get? {ms : Markers} {kind : MarkerKind} {marker : Marker}
    (found : ms.get? kind = some marker) : marker ∈ ms :=
  List.mem_of_find?_eq_some found

end Markers

lemma TypeDef.mem_of_widestConstructor? {d : TypeDef} {c : Constructor}
    (widest : d.widestConstructor? = some c) : c ∈ d.constructors := by
  rw [widestConstructor?] at widest
  split at widest
  · cases widest
  · rename_i first rest listed
    rw [listed, ← Option.some.inj widest]
    refine foldl_mem_of_choice (fun one other => ?_) first rest
    rw [wider]
    split
    · exact Or.inr rfl
    · exact Or.inl rfl

lemma TypeDef.paths_of_member {d : TypeDef} {m : Member}
    (listed : m ∈ d.members ∨ m ∈ d.constructionMembers) : m.paths ⊆ d.paths := by
  intro path present
  have declared : ∀ {m : Member}, m ∈ d.members → ∀ path ∈ m.paths, path ∈ d.paths := by
    intro m own path present
    simp only [TypeDef.paths, List.mem_append, List.mem_flatMap]
    exact Or.inl (Or.inr ⟨m, own, present⟩)
  rcases listed with own | built
  · exact declared own path present
  · rw [constructionMembers] at built
    split at built
    · rename_i c widest
      simp only [TypeDef.paths, List.mem_append, List.mem_flatMap]
      exact Or.inr ⟨c, mem_of_widestConstructor? widest, m, built, present⟩
    · exact declared built path present

lemma TypeDef.paths_of_interface {d : TypeDef} {interface : TypePath}
    (listed : interface ∈ d.interfaces) : interface.paths ⊆ d.paths := by
  intro path present
  simp only [TypeDef.paths, List.mem_append, List.mem_flatMap]
  exact Or.inl (Or.inl (Or.inr ⟨interface, listed, present⟩))

/-- Every path of the list has its declaration under one of the names. -/
def Within (names : String → Prop) (paths : List TypePath) : Prop :=
  ∀ path ∈ paths, names path.definitionName

namespace Within

variable {names : String → Prop}

lemma own {path : TypePath} (within : Within names path.paths) : names path.definitionName := by
  obtain ⟨scope, name, args⟩ := path
  exact within _ List.mem_cons_self

lemma head {path : TypePath} {arg : Ty} (within : Within names path.paths)
    (first : path.args.head? = some arg) : Within names arg.paths := by
  obtain ⟨scope, name, args⟩ := path
  cases args with
  | nil => cases first
  | cons ty rest =>
    cases first
    intro inner present
    exact within inner (List.mem_cons_of_mem _ (List.mem_append_left _ present))

lemma nominal {ty : Ty} {path : TypePath} (within : Within names ty.paths)
    (named : ty.nominal? = some path) : names path.definitionName := by
  cases ty with
  | primitive => cases named
  | path target =>
    cases named
    exact own within
  | dyn interface =>
    cases named
    exact own within

lemma ty {m : Member} (within : Within names m.paths) : Within names m.ty.paths :=
  fun path present => within path (List.mem_append_left _ present)

lemma converter {m : Member} {path : TypePath} {parameters : List Literal}
    (within : Within names m.paths) (marked : m.converter? = some (path, parameters)) :
    names path.definitionName := by
  rw [Member.converter?] at marked
  split at marked
  · rename_i found
    cases marked
    refine own fun inner present => within inner (List.mem_append_right _ ?_)
    exact List.mem_flatMap.mpr ⟨_, Markers.mem_of_get? found, present⟩
  · cases marked

variable {d : TypeDef} (within : Within names d.paths)

include within

lemma base {path : TypePath} (written : d.base = some path) : names path.definitionName := by
  refine own fun inner present => within inner ?_
  simp only [TypeDef.paths, List.mem_append, List.mem_flatMap, written, Option.toList_some]
  exact Or.inl (Or.inl (Or.inl (Or.inr ⟨path, List.mem_singleton.mpr rfl, present⟩)))

lemma source {path : TypePath} (mapped : d.mapFrom? = some path) : names path.definitionName := by
  rw [TypeDef.mapFrom?, Markers.mapFrom?] at mapped
  split at mapped
  · rename_i found
    cases mapped
    refine own fun inner present => within inner ?_
    simp only [TypeDef.paths, List.mem_append, List.mem_flatMap]
    exact Or.inl (Or.inl (Or.inl (Or.inl ⟨_, Markers.mem_of_get? found, present⟩)))
  · cases mapped

lemma member {m : Member} (listed : m ∈ d.members) : Within names m.paths :=
  fun path present => within path (TypeDef.paths_of_member (Or.inl listed) present)

lemma constructionMember {m : Member} (listed : m ∈ d.constructionMembers) :
    Within names m.paths :=
  fun path present => within path (TypeDef.paths_of_member (Or.inr listed) present)

end Within

end MemberMapping
