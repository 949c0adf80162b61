import MemberMapping.Proofs.Resolution

/-!
Assembly without a state.

The plan of a type and the diagnostics raised for it are stated member by member: each entry is
decided by a pair of members alone, the diagnostics by the first member at fault and by two checks
of the type as a whole. Assembly, which threads diagnostics and imports through two passes, comes
to the same.
-/

namespace MemberMapping

namespace Schema

/-- No target member has a candidate, though there are candidates and no base could use them. -/
def isUnrelated (s : Schema) (target source : TypeDef) : Bool :=
  (s.targetMembers target).all (fun member =>
      (findSource? (s.sourceCandidates source) member).isNone) &&
    !(s.sourceCandidates source).isEmpty && (s.mappedBase? target).isNone

/-- The constructor that a type has for its source does not hand on what it must. -/
def blocksSource (s : Schema) (target source : TypeDef) : Bool :=
  (sourceConstructor? target source).any fun c => !handsOnSource s.known source c

/-- Everything that is said against mapping `target` from `source`. -/
def complaints (s : Schema) (target source : TypeDef) : Diagnostics :=
  ((s.targetMembers target).findSome?
      (s.readingFault? target (s.sourceCandidates source))).toList ++
    (if s.isUnrelated target source then [.noMatchingPropertyFound target source] else []) ++
    (if s.blocksSource target source then [.missingConstructorArgument target source] else [])

/-- The entries of the target members that are read from the source. -/
def readings (s : Schema) (target source : TypeDef) : List MappedMember :=
  (s.targetMembers target).filterMap (s.reading? (s.sourceCandidates source))

/-- The entries of the source members that are written to the target. -/
def writings (s : Schema) (target source : TypeDef) : List MappedMember :=
  (s.sourceCandidates source).filterMap (s.writing? (s.targetMembers target))

/-- The namespaces met in a plan, in order and with repetitions. -/
def scopesMet (s : Schema) (target source : TypeDef) : List Namespace :=
  [s.known.runtimeScope, s.known.supportScope, source.scope] ++
    (s.readings target source ++ s.writings target source).flatMap MappedMember.scopes

/-- The plan of a target and its source. -/
def plan (s : Schema) (target source : TypeDef) (options : Options) : MappingModel :=
  { options := options
    scope := target.scope
    kind := target.kind
    typeName := target.name
    sourceScope := source.scope
    sourceTypeName := source.name
    sourceFullName := source.fullName
    updatable := target.markers.has .useUpdate
    jsonExtension := target.markers.has .jsonExtension
    hasBaseClass := (s.mappedBase? target).isSome
    baseType := (s.mappedBase? target).map (·.path)
    baseSource := (s.mappedBase? target).bind (·.mapFrom?)
    sourceMembers := s.readings target source
    typeMembers := s.writings target source
    extraParameters :=
      (s.targetMembers target).filterMap (extraParameter? (s.sourceCandidates source))
    imports := (Imports.relevant target.scope (s.scopesMet target source)).eraseDups
    generateSecondaryConstructor := (sourceConstructor? target source).isNone }

def sourceOf? (s : Schema) (target : TypeDef) : Option TypeDef :=
  target.mapFrom?.bind s.typeDef?

/-- The plan of a target, or what is said against it. -/
def outcome (s : Schema) (target : TypeDef) (options : Options) :
    Except Diagnostics MappingModel :=
  match s.sourceOf? target with
  | none => .error [.mapFromAttributeNotFound target]
  | some source =>
    if s.complaints target source = [] then .ok (s.plan target source options)
    else .error (s.complaints target source)

/-- Where no member is at fault, the entries are empty exactly if no member has a candidate. -/
lemma readings_isEmpty {s : Schema} {target : TypeDef} {candidates targets : List Member}
    (faultless : ∀ member ∈ targets, s.readingFault? target candidates member = none) :
    (targets.filterMap (s.reading? candidates)).isEmpty =
      targets.all fun member => (findSource? candidates member).isNone := by
  rw [Bool.eq_iff_iff, List.isEmpty_iff, List.filterMap_eq_nil_iff, List.all_eq_true]
  constructor
  · intro unread member present
    have left := extraParameter?_of_none (unread member present) (faultless member present)
    rw [extraParameter?] at left
    split at left
    · assumption
    · cases left
  · intro unmatched member present
    rw [reading?, Option.isNone_iff_eq_none.mp (unmatched member present), Option.bind_none]

/-- With nothing said against the mapping, no target member is at fault. -/
lemma unblamed_of_faultless {s : Schema} {target source : TypeDef}
    (faultless : s.complaints target source = []) {member : Member}
    (present : member ∈ s.targetMembers target) :
    s.readingFault? target (s.sourceCandidates source) member = none := by
  rw [complaints, List.append_eq_nil_iff, List.append_eq_nil_iff, Option.toList_eq_nil_iff,
    List.findSome?_eq_none_iff] at faultless
  exact faultless.1.1 member present

lemma not_all_unmatched {s : Schema} {target : TypeDef} {candidates targets : List Member}
    {d : Diagnostic} (fault : targets.findSome? (s.readingFault? target candidates) = some d) :
    (targets.all fun member => (findSource? candidates member).isNone) = false := by
  obtain ⟨member, present, blamed⟩ := List.exists_of_findSome?_eq_some fault
  rw [List.all_eq_false]
  refine ⟨member, present, ?_⟩
  cases found : findSource? candidates member with
  | none => simp [readingFault?, found] at blamed
  | some source => simp

end Schema

lemma secondaryConstructor_needed (s : Schema) (target source : TypeDef) :
    (secondaryConstructor s target source).1 = (sourceConstructor? target source).isNone := by
  rw [secondaryConstructor]
  cases sourceConstructor? target source with
  | none => rfl
  | some c => cases handed : handsOnSource s.known source c <;> simp [handed]

lemma secondaryConstructor_complaint (s : Schema) (target source : TypeDef) :
    (secondaryConstructor s target source).2.toList =
      if s.blocksSource target source then [.missingConstructorArgument target source] else [] := by
  rw [secondaryConstructor, Schema.blocksSource]
  cases sourceConstructor? target source with
  | none => rfl
  | some c => cases handed : handsOnSource s.known source c <;> simp [handed]

lemma entries_of_scopesMet (s : Schema) (target source : TypeDef) :
    ((((Resolver.initial s target).register source.scope).importing
        ((s.readings target source).flatMap MappedMember.scopes)).importing
        ((s.writings target source).flatMap MappedMember.scopes)).imports.entries =
      (Imports.relevant target.scope (s.scopesMet target source)).eraseDups := by
  have start : ((Resolver.initial s target).register source.scope).imports =
      (Imports.mk target.scope []).registerAll
        [s.known.runtimeScope, s.known.supportScope, source.scope] := rfl
  rw [Resolver.importing_importing, Resolver.importing, start, ← Imports.registerAll_append,
    Imports.registerAll_entries _ _ rfl, Schema.scopesMet, List.flatMap_append]
  rfl

/-- A target with a declared source is assembled to its plan, or refused for its complaints. -/
theorem assembleFrom_eq (s : Schema) (target source : TypeDef) (options : Options) :
    assembleFrom s target source options =
      if s.complaints target source = [] then .ok (s.plan target source options)
      else .error (s.complaints target source) := by
  have clean : ((Resolver.initial s target).register source.scope).diagnostics = [] := rfl
  have forward := forwardPass_diagnostics s target (s.sourceCandidates source)
    (s.targetMembers target) clean
  rw [assembleFrom]
  simp only [reversePass_diagnostics, forward, secondaryConstructor_needed,
    secondaryConstructor_complaint]
  cases fault : (s.targetMembers target).findSome?
      (s.readingFault? target (s.sourceCandidates source)) with
  | some d =>
    simp [Schema.complaints, Schema.isUnrelated, fault, Schema.not_all_unmatched fault]
  | none =>
    -- The first pass reports nothing, so the second one starts from a clean state.
    have faultless := List.findSome?_eq_none_iff.mp fault
    have all := forwardPass_of_faultless s target (s.sourceCandidates source)
      (s.targetMembers target) clean faultless
    rw [all, reversePass_of_clean s target _ _ (by exact clean)]
    have unrelated : (((s.targetMembers target).filterMap
          (s.reading? (s.sourceCandidates source))).isEmpty &&
        !(s.sourceCandidates source).isEmpty && (s.mappedBase? target).isNone &&
        (none : Option Diagnostic).toList.isEmpty) = s.isUnrelated target source := by
      rw [Schema.readings_isEmpty faultless, Schema.isUnrelated]
      simp
    simp only [unrelated]
    have imports := entries_of_scopesMet s target source
    simp only [Schema.readings, Schema.writings] at imports
    simp only [Schema.complaints, fault, List.isEmpty_iff, Schema.plan, Schema.readings,
      Schema.writings, imports]

lemma assemble_of_declared {s : Schema} {target source : TypeDef} (options : Options)
    (declared : s.sourceOf? target = some source) :
    assemble s target options =
      if s.complaints target source = [] then .ok (s.plan target source options)
      else .error (s.complaints target source) := by
  rw [Schema.sourceOf?] at declared
  simp only [assemble, declared, assembleFrom_eq]

lemma assemble_of_faultless {s : Schema} {target source : TypeDef} (options : Options)
    (declared : s.sourceOf? target = some source) (faultless : s.complaints target source = []) :
    assemble s target options = .ok (s.plan target source options) := by
  rw [assemble_of_declared options declared, if_pos faultless]

lemma assemble_of_undeclared {s : Schema} {target : TypeDef} (options : Options)
    (missing : s.sourceOf? target = none) :
    assemble s target options = .error [.mapFromAttributeNotFound target] := by
  rw [Schema.sourceOf?] at missing
  simp only [assemble, missing]

/-- A model is the plan of the target and its declared source, with nothing said against it. -/
theorem plan_of_assemble {s : Schema} {target : TypeDef} {options : Options} {model : MappingModel}
    (ready : assemble s target options = .ok model) :
    ∃ source, s.sourceOf? target = some source ∧ s.complaints target source = [] ∧
      model = s.plan target source options := by
  rw [assemble] at ready
  rw [Schema.sourceOf?]
  cases declared : target.mapFrom?.bind s.typeDef? with
  | none => rw [declared] at ready; cases ready
  | some source =>
    simp only [declared, assembleFrom_eq] at ready
    by_cases faultless : s.complaints target source = []
    · rw [if_pos faultless] at ready
      exact ⟨source, rfl, faultless, (Except.ok.inj ready).symm⟩
    · rw [if_neg faultless] at ready
      cases ready

end MemberMapping
