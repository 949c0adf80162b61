import MemberMapping.Proofs.BuiltSchema
import MemberMapping.Proofs.Failures

/-!
Declarations written anew.

A revision writes the members and constructors of types anew and keeps everything else of the
declarations. Look-ups, base chains and interfaces do not depend on members, so a revised schema
converts each pair of members as the schema itself does; the members that take part in a mapping
are the revised ones.
-/

namespace MemberMapping

/-- A declaration without its members and constructors. -/
def TypeDef.outline (d : TypeDef) : TypeDef :=
  { d with members := [], constructors := [] }

/-- How declarations are written anew. The outline of a type stays; the members that take part in a
mapping are revised one by one and keep their names and markers. -/
structure Revision where
  ofType : TypeDef → TypeDef
  ofMember : Member → Member
  outline : ∀ d, (ofType d).outline = d.outline
  members : ∀ d, (ofType d).members = d.members.map ofMember
  constructionMembers : ∀ d, d.kind = .recordType →
    (ofType d).constructionMembers = d.constructionMembers.map ofMember
  name : ∀ m, (ofMember m).name = m.name
  markers : ∀ m, (ofMember m).markers = m.markers

def Schema.revised (s : Schema) (r : Revision) : Schema :=
  { s with types := s.types.map r.ofType }

namespace Revision

variable (r : Revision)

@[simp] lemma path_ofType (d : TypeDef) : (r.ofType d).path = d.path := by
  have kept := congrArg TypeDef.path (r.outline d)
  exact kept

@[simp] lemma kind_ofType (d : TypeDef) : (r.ofType d).kind = d.kind := by
  have kept := congrArg TypeDef.kind (r.outline d)
  exact kept

@[simp] lemma base_ofType (d : TypeDef) : (r.ofType d).base = d.base := by
  have kept := congrArg TypeDef.base (r.outline d)
  exact kept

@[simp] lemma interfaces_ofType (d : TypeDef) : (r.ofType d).interfaces = d.interfaces := by
  have kept := congrArg TypeDef.interfaces (r.outline d)
  exact kept

@[simp] lemma markers_ofType (d : TypeDef) : (r.ofType d).markers = d.markers := by
  have kept := congrArg TypeDef.markers (r.outline d)
  exact kept

@[simp] lemma fullName_ofType (d : TypeDef) : (r.ofType d).fullName = d.fullName := by
  rw [TypeDef.fullName, path_ofType, TypeDef.fullName]

@[simp] lemma name_ofType (d : TypeDef) : (r.ofType d).name = d.name := by
  rw [TypeDef.name, path_ofType, TypeDef.name]

@[simp] lemma scope_ofType (d : TypeDef) : (r.ofType d).scope = d.scope := by
  rw [TypeDef.scope, path_ofType, TypeDef.scope]

@[simp] lemma mapFrom?_ofType (d : TypeDef) : (r.ofType d).mapFrom? = d.mapFrom? := by
  rw [TypeDef.mapFrom?, markers_ofType, TypeDef.mapFrom?]

@[simp] lemma isIgnored_ofMember (m : Member) : (r.ofMember m).isIgnored = m.isIgnored := by
  rw [Member.isIgnored, r.markers, Member.isIgnored]

@[simp] lemma lookupName_ofMember (m : Member) : (r.ofMember m).lookupName = m.lookupName := by
  simp only [Member.lookupName, Member.rename?, r.markers, r.name]

lemma findSource?_revised (candidates : List Member) (m : Member) :
    findSource? (candidates.map r.ofMember) (r.ofMember m) =
      (findSource? candidates m).map r.ofMember := by
  rw [findSource?, findSource?, List.find?_map, lookupName_ofMember]
  simp only [Function.comp_def, r.name]

lemma findTarget?_revised (targets : List Member) (m : Member) :
    findTarget? (targets.map r.ofMember) (r.ofMember m) =
      (findTarget? targets m).map r.ofMember := by
  rw [findTarget?, findTarget?, List.find?_map, r.name]
  simp only [Function.comp_def, lookupName_ofMember]

@[simp] lemma isSource_ofType (source : TypeDef) :
    isSource (r.ofType source) = isSource source := by
  funext ty
  simp only [isSource, fullName_ofType]

lemma sourceConstructor?_ofType (target source : TypeDef) :
    sourceConstructor? target (r.ofType source) = sourceConstructor? target source := by
  simp only [sourceConstructor?, isSource_ofType]

lemma handsOnSource_ofType (known : WellKnown) (source : TypeDef) :
    handsOnSource known (r.ofType source) = handsOnSource known source := by
  funext c
  simp only [handsOnSource, isSource_ofType]

lemma mappable_revised (members : List Member) :
    mappable (members.map r.ofMember) = (mappable members).map r.ofMember := by
  rw [mappable, mappable, List.filter_map]
  simp only [Function.comp_def, isIgnored_ofMember]

end Revision

namespace Schema

variable (s : Schema) (r : Revision)

/-! ### What the outlines decide -/

lemma find?_revised (name : String) :
    (s.revised r).find? name = (s.find? name).map r.ofType := by
  rw [find?, find?, revised, List.find?_map]
  simp only [Function.comp_def, Revision.fullName_ofType]

lemma typeDef?_revised (path : TypePath) :
    (s.revised r).typeDef? path = (s.typeDef? path).map r.ofType :=
  s.find?_revised r path.definitionName

lemma typeOf?_revised (ty : Ty) : (s.revised r).typeOf? ty = (s.typeOf? ty).map r.ofType := by
  rw [typeOf?, typeOf?]
  cases ty.nominal? with
  | none => rfl
  | some path => exact s.typeDef?_revised r path

lemma sourceOf?_revised (d : TypeDef) :
    (s.revised r).sourceOf? (r.ofType d) = (s.sourceOf? d).map r.ofType := by
  rw [sourceOf?, sourceOf?, Revision.mapFrom?_ofType]
  cases d.mapFrom? with
  | none => rfl
  | some path => exact s.typeDef?_revised r path

lemma baseOf?_revised (d : TypeDef) :
    (s.revised r).baseOf? (r.ofType d) = (s.baseOf? d).map r.ofType := by
  rw [baseOf?, baseOf?, Revision.base_ofType]
  cases d.base with
  | none => rfl
  | some path => exact s.typeDef?_revised r path

lemma bases_revised (d : TypeDef) :
    (s.revised r).bases (r.ofType d) = (s.bases d).map r.ofType := by
  have within : ∀ limit, (s.revised r).basesWithin limit (r.ofType d) =
      (s.basesWithin limit d).map r.ofType := by
    intro limit
    induction limit generalizing d with
    | zero => rfl
    | succ limit ih =>
      rw [basesWithin, basesWithin, baseOf?_revised]
      cases s.baseOf? d with
      | none => rfl
      | some base => exact congrArg (r.ofType base :: ·) (ih base)
  have limit : (s.revised r).types.length = s.types.length := List.length_map r.ofType
  rw [bases, bases, limit, within]

lemma allInterfaces_revised (d : TypeDef) :
    (s.revised r).allInterfaces (r.ofType d) = s.allInterfaces d := by
  rw [allInterfaces, allInterfaces, bases_revised, ← List.map_cons, List.flatMap_map]
  simp only [Revision.interfaces_ofType]

lemma implements_revised (path interface : TypePath) :
    (s.revised r).implements path interface = s.implements path interface := by
  rw [implements, implements, typeDef?_revised]
  cases s.typeDef? path with
  | none => rfl
  | some d => simp only [Option.map_some, allInterfaces_revised]

lemma isCompatible_revised (source target : Ty) :
    (s.revised r).isCompatible source target = s.isCompatible source target := by
  simp only [isCompatible, implements_revised]
  rfl

lemma mappedFrom_revised_iff (target source : Ty) :
    (s.revised r).MappedFrom target source ↔ s.MappedFrom target source := by
  simp only [MappedFrom, typeOf?_revised, Option.map_eq_some_iff]
  constructor
  · rintro ⟨path, _, mapped, rfl, ⟨d, found, rfl⟩, marked, same⟩
    exact ⟨path, d, mapped, rfl, found, (r.mapFrom?_ofType d).symm.trans marked, same⟩
  · rintro ⟨path, d, mapped, rfl, found, marked, same⟩
    exact ⟨path, _, mapped, rfl, ⟨d, found, rfl⟩, (r.mapFrom?_ofType d).trans marked, same⟩

lemma convertedBy_revised_iff (converter : TypePath) (source target : Ty) :
    (s.revised r).ConvertedBy converter source target ↔ s.ConvertedBy converter source target := by
  rw [← isValidConverter_iff, ← isValidConverter_iff, isValidConverter, isValidConverter,
    typeDef?_revised]
  cases s.typeDef? converter with
  | none => rfl
  | some d =>
    simp only [Option.map_some, allInterfaces_revised]
    rfl

lemma enumerableElement?_revised (ty : Ty) :
    (s.revised r).enumerableElement? ty = s.enumerableElement? ty := by
  have collection : (s.revised r).isGenericEnumerable ty = s.isGenericEnumerable ty := by
    cases ty with
    | primitive | dyn => rfl
    | path path =>
      rw [isGenericEnumerable, isGenericEnumerable, typeDef?_revised]
      cases s.typeDef? path with
      | none => rfl
      | some d =>
        simp only [Option.map_some, allInterfaces_revised]
        rfl
  rw [enumerableElement?, enumerableElement?, collection]

/-- Members are converted by a revised schema as they are by the schema itself. -/
theorem conversion?_revised (source target : Member) :
    (s.revised r).conversion? source target = s.conversion? source target := by
  simp only [conversion?, elementConversion?, isCompatible_revised, mappedFrom_revised_iff,
    convertedBy_revised_iff, enumerableElement?_revised]

lemma reading?_revised (candidates : List Member) :
    (s.revised r).reading? candidates = s.reading? candidates := by
  funext member
  simp only [reading?, conversion?_revised]

lemma writing?_revised (targets : List Member) :
    (s.revised r).writing? targets = s.writing? targets := by
  funext source
  simp only [writing?, conversion?_revised]

lemma readingFault?_revised (target : TypeDef) (candidates : List Member) :
    (s.revised r).readingFault? (r.ofType target) candidates =
      s.readingFault? target candidates := by
  funext member
  simp only [readingFault?, conversion?_revised, pairFault,
    Diagnostic.invalidConverterGenericArguments, Diagnostic.noMatchingPropertyTypeFound,
    Revision.name_ofType]

lemma checkChain_revised (start : String) (limit : Nat) (visited : List String) (d : TypeDef) :
    (s.revised r).checkChain start limit visited (r.ofType d) =
      s.checkChain start limit visited d := by
  induction limit generalizing visited d with
  | zero => rfl
  | succ limit ih =>
    rw [checkChain, checkChain, Revision.base_ofType]
    cases d.base with
    | none => rfl
    | some base =>
      simp only [typeDef?_revised, Revision.fullName_ofType]
      cases s.typeDef? base with
      | none => rfl
      | some next => simp only [Option.map_some, Revision.fullName_ofType, ih]

lemma checkBases_revised_iff : (s.revised r).checkBases = .ok () ↔ s.checkBases = .ok () := by
  have limit : (s.revised r).types.length = s.types.length := List.length_map r.ofType
  have all : ∀ check : TypeDef → Prop,
      (∀ d ∈ (s.revised r).types, check d) ↔ ∀ d ∈ s.types, check (r.ofType d) := by
    intro check
    exact List.forall_mem_map
  simp only [checkBases_iff, limit, all, Revision.fullName_ofType, checkChain_revised]

/-! ### What the members decide -/

lemma allMembers_revised (d : TypeDef) :
    (s.revised r).allMembers (r.ofType d) = (s.allMembers d).map r.ofMember := by
  rw [allMembers, allMembers, bases_revised, r.members, ← List.map_reverse, List.flatMap_map,
    List.map_append, List.map_flatMap]
  simp only [r.members]

lemma kindMembers_revised (d : TypeDef) (declaredOnly : Bool) :
    (s.revised r).kindMembers (r.ofType d) declaredOnly =
      (s.kindMembers d declaredOnly).map r.ofMember := by
  rw [kindMembers, kindMembers, Revision.kind_ofType]
  cases kind : d.kind with
  | classType =>
    cases declaredOnly with
    | true => exact r.members d
    | false => exact s.allMembers_revised r d
  | recordType => exact r.constructionMembers d kind
  | structType | interfaceType => exact r.members d

lemma mappedBase?_revised (d : TypeDef) :
    (s.revised r).mappedBase? (r.ofType d) = (s.mappedBase? d).map r.ofType := by
  rw [mappedBase?, mappedBase?, baseOf?_revised, Option.filter_map]
  simp only [Function.comp_def, Revision.mapFrom?_ofType]

lemma targetMembers_revised (d : TypeDef) :
    (s.revised r).targetMembers (r.ofType d) = (s.targetMembers d).map r.ofMember := by
  rw [targetMembers, targetMembers, mappedBase?_revised, Option.isSome_map, Revision.kind_ofType,
    kindMembers_revised, Revision.mappable_revised]

lemma sourceCandidates_revised (d : TypeDef) :
    (s.revised r).sourceCandidates (r.ofType d) = (s.sourceCandidates d).map r.ofMember := by
  rw [sourceCandidates, sourceCandidates, kindMembers_revised, Revision.mappable_revised]

lemma isUnrelated_revised (target source : TypeDef) :
    (s.revised r).isUnrelated (r.ofType target) (r.ofType source) =
      s.isUnrelated target source := by
  rw [isUnrelated, isUnrelated, targetMembers_revised, sourceCandidates_revised,
    mappedBase?_revised, List.all_map, List.isEmpty_map, Option.isNone_map]
  simp only [Function.comp_def, Revision.findSource?_revised, Option.isNone_map]

end Schema

end MemberMapping
