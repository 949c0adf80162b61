import Mathlib.Data.List.Forall2
import MemberMapping.Proofs.Generation
import MemberMapping.Proofs.StatelessAssembly

/-!
Why a type gets no plan, and what becomes of every type in a generation.

The diagnostics of a type that fails are few and of a fixed shape: its source is not declared; or
there is at most one objection to its members, and at most one to its constructor behind it. A
generation has the plan or the diagnostics of each mapped type in declaration order, and nothing
else.
-/

namespace MemberMapping

namespace Schema

/-- The first target member, in order, that has a candidate and no conversion from it. -/
def FirstAtFault (s : Schema) (targets candidates : List Member) (member candidate : Member) :
    Prop :=
  ∃ before after, targets = before ++ member :: after ∧
    findSource? candidates member = some candidate ∧ s.conversion? candidate member = none ∧
    ∀ earlier ∈ before, ∀ found, findSource? candidates earlier = some found →
      s.conversion? found earlier ≠ none

/-- What can be said against mapping the members of `target` from those of `source`. -/
inductive Objection (s : Schema) (target source : TypeDef) : Diagnostic → Prop
  | unconvertible {member candidate : Member}
      (first : s.FirstAtFault (s.targetMembers target) (s.sourceCandidates source) member candidate)
      (plain : member.converter? = none) :
      Objection s target source (.noMatchingPropertyTypeFound target member)
  | wrongConverter {member candidate : Member} {converter : TypePath} {parameters : List Literal}
      (first : s.FirstAtFault (s.targetMembers target) (s.sourceCandidates source) member candidate)
      (marked : member.converter? = some (converter, parameters)) :
      Objection s target source
        (.invalidConverterGenericArguments target member candidate converter)
  | unrelated (unmatched : ∀ member ∈ s.targetMembers target,
        findSource? (s.sourceCandidates source) member = none)
      (offered : s.sourceCandidates source ≠ []) (alone : s.mappedBase? target = none) :
      Objection s target source (.noMatchingPropertyFound target source)

/-- The diagnostics of a type that gets no plan. -/
inductive Failure (s : Schema) (target : TypeDef) : Diagnostics → Prop
  | undeclared (missing : s.sourceOf? target = none) :
      Failure s target [.mapFromAttributeNotFound target]
  | members {source : TypeDef} {d : Diagnostic} (declared : s.sourceOf? target = some source)
      (objection : s.Objection target source d) (free : s.blocksSource target source = false) :
      Failure s target [d]
  | constructor {source : TypeDef} (declared : s.sourceOf? target = some source)
      (fitting : ∀ d, ¬ s.Objection target source d)
      (blocked : s.blocksSource target source = true) :
      Failure s target [.missingConstructorArgument target source]
  | both {source : TypeDef} {d : Diagnostic} (declared : s.sourceOf? target = some source)
      (objection : s.Objection target source d) (blocked : s.blocksSource target source = true) :
      Failure s target [d, .missingConstructorArgument target source]

lemma Failure.ne_nil {s : Schema} {target : TypeDef} {ds : Diagnostics}
    (failure : s.Failure target ds) : ds ≠ [] := by
  cases failure <;> exact List.cons_ne_nil _ _

/-- A member is at fault where it has a candidate and no conversion from it. -/
lemma readingFault?_eq_some_iff {s : Schema} {target : TypeDef} {candidates : List Member}
    {member : Member} {d : Diagnostic} :
    s.readingFault? target candidates member = some d ↔
      ∃ candidate, findSource? candidates member = some candidate ∧
        s.conversion? candidate member = none ∧ d = pairFault target member candidate := by
  rw [readingFault?, Option.bind_eq_some_iff]
  refine exists_congr fun candidate => and_congr_right fun _ => ?_
  cases s.conversion? candidate member <;> simp [eq_comm]

lemma readingFault?_eq_none_iff {s : Schema} {target : TypeDef} {candidates : List Member}
    {member : Member} : s.readingFault? target candidates member = none ↔
      ∀ candidate, findSource? candidates member = some candidate →
        s.conversion? candidate member ≠ none := by
  rw [readingFault?, Option.bind_eq_none_iff]
  refine forall_congr' fun candidate => imp_congr_right fun _ => ?_
  cases s.conversion? candidate member <;> simp

/-- The first fault of the members is that of the first member at fault. -/
lemma firstFault_eq_some_iff {s : Schema} {target : TypeDef} {targets candidates : List Member}
    {d : Diagnostic} :
    targets.findSome? (s.readingFault? target candidates) = some d ↔
      ∃ member candidate, s.FirstAtFault targets candidates member candidate ∧
        d = pairFault target member candidate := by
  rw [List.findSome?_eq_some_iff]
  constructor
  · rintro ⟨before, member, after, split, blamed, sound⟩
    obtain ⟨candidate, found, unconverted, rfl⟩ := readingFault?_eq_some_iff.mp blamed
    exact ⟨member, candidate, ⟨before, after, split, found, unconverted, fun earlier present =>
      readingFault?_eq_none_iff.mp (sound earlier present)⟩, rfl⟩
  · rintro ⟨member, candidate, ⟨before, after, split, found, unconverted, sound⟩, rfl⟩
    exact ⟨before, member, after, split,
      readingFault?_eq_some_iff.mpr ⟨candidate, found, unconverted, rfl⟩, fun earlier present =>
        readingFault?_eq_none_iff.mpr (sound earlier present)⟩

/-- What is said against the members: the first fault, or that none has a candidate. -/
def memberComplaint? (s : Schema) (target source : TypeDef) : Option Diagnostic :=
  ((s.targetMembers target).findSome?
      (s.readingFault? target (s.sourceCandidates source))).or
    (if s.isUnrelated target source then some (.noMatchingPropertyFound target source) else none)

lemma isUnrelated_iff {s : Schema} {target source : TypeDef} :
    s.isUnrelated target source = true ↔
      (∀ member ∈ s.targetMembers target,
        findSource? (s.sourceCandidates source) member = none) ∧
      s.sourceCandidates source ≠ [] ∧ s.mappedBase? target = none := by
  simp [isUnrelated, and_assoc]

lemma isUnrelated_of_fault {s : Schema} {target source : TypeDef} {d : Diagnostic}
    (fault : (s.targetMembers target).findSome?
      (s.readingFault? target (s.sourceCandidates source)) = some d) :
    s.isUnrelated target source = false := by
  rw [isUnrelated, not_all_unmatched fault, Bool.false_and, Bool.false_and]

lemma complaints_eq (s : Schema) (target source : TypeDef) :
    s.complaints target source = (s.memberComplaint? target source).toList ++
      if s.blocksSource target source then [.missingConstructorArgument target source] else [] := by
  rw [complaints, memberComplaint?]
  cases fault : (s.targetMembers target).findSome?
      (s.readingFault? target (s.sourceCandidates source)) with
  | some d => simp [isUnrelated_of_fault fault]
  | none => cases s.isUnrelated target source <;> simp

/-- The objections are what is said against the members, of which there is at most one. -/
lemma objection_iff {s : Schema} {target source : TypeDef} {d : Diagnostic} :
    s.Objection target source d ↔ s.memberComplaint? target source = some d := by
  constructor
  · intro objection
    cases objection with
    | unconvertible first plain =>
      have fault : (s.targetMembers target).findSome?
          (s.readingFault? target (s.sourceCandidates source)) = some _ :=
        firstFault_eq_some_iff.mpr ⟨_, _, first, rfl⟩
      simp [memberComplaint?, fault, pairFault, plain]
    | wrongConverter first marked =>
      have fault : (s.targetMembers target).findSome?
          (s.readingFault? target (s.sourceCandidates source)) = some _ :=
        firstFault_eq_some_iff.mpr ⟨_, _, first, rfl⟩
      simp [memberComplaint?, fault, pairFault, marked]
    | unrelated unmatched offered alone =>
      have faultless : (s.targetMembers target).findSome?
          (s.readingFault? target (s.sourceCandidates source)) = none := by
        refine List.findSome?_eq_none_iff.mpr fun member present => ?_
        rw [readingFault?, unmatched member present, Option.bind_none]
      simp [memberComplaint?, faultless, isUnrelated_iff.mpr ⟨unmatched, offered, alone⟩]
  · intro said
    rw [memberComplaint?] at said
    cases fault : (s.targetMembers target).findSome?
        (s.readingFault? target (s.sourceCandidates source)) with
    | some blamed =>
      obtain rfl : blamed = d := by simpa [fault] using said
      obtain ⟨member, candidate, first, rfl⟩ := firstFault_eq_some_iff.mp fault
      rw [pairFault]
      cases marked : member.converter? with
      | none => exact .unconvertible first marked
      | some converter => exact .wrongConverter first marked
    | none =>
      rw [fault, Option.none_or] at said
      split at said
      · rename_i unrelated
        obtain ⟨unmatched, offered, alone⟩ := isUnrelated_iff.mp unrelated
        cases said
        exact .unrelated unmatched offered alone
      · cases said

lemma complaints_iff_failure {s : Schema} {target source : TypeDef}
    (declared : s.sourceOf? target = some source) {ds : Diagnostics} (raised : ds ≠ []) :
    s.complaints target source = ds ↔ s.Failure target ds := by
  rw [complaints_eq]
  constructor
  · rintro rfl
    cases said : s.memberComplaint? target source with
    | some d =>
      have objection := objection_iff.mpr said
      cases blocked : s.blocksSource target source with
      | false => exact .members declared objection blocked
      | true => exact .both declared objection blocked
    | none =>
      cases blocked : s.blocksSource target source with
      | false => simp [said, blocked] at raised
      | true =>
        refine .constructor declared (fun d objection => ?_) blocked
        cases said.symm.trans (objection_iff.mp objection)
  · intro failure
    cases failure with
    | undeclared missing => cases declared.symm.trans missing
    | members known objection free =>
      cases Option.some.inj (declared.symm.trans known)
      simp [objection_iff.mp objection, free]
    | constructor known fitting blocked =>
      cases Option.some.inj (declared.symm.trans known)
      have silent : s.memberComplaint? target source = none :=
        Option.eq_none_iff_forall_ne_some.mpr fun d said => fitting d (objection_iff.mpr said)
      simp [silent, blocked]
    | both known objection blocked =>
      cases Option.some.inj (declared.symm.trans known)
      simp [objection_iff.mp objection, blocked]

end Schema

theorem assemble_eq_error_iff (s : Schema) (target : TypeDef) (options : Options)
    (ds : Diagnostics) : assemble s target options = .error ds ↔ s.Failure target ds := by
  rw [assemble]
  cases declared : target.mapFrom?.bind s.typeDef? with
  | none =>
    have missing : s.sourceOf? target = none := declared
    constructor
    · intro failed
      cases failed
      exact .undeclared missing
    · intro failure
      cases failure with
      | undeclared => rfl
      | members known => cases missing.symm.trans known
      | constructor known => cases missing.symm.trans known
      | both known => cases missing.symm.trans known
  | some source =>
    have known : s.sourceOf? target = some source := declared
    simp only [assembleFrom_eq]
    by_cases faultless : s.complaints target source = []
    · rw [if_pos faultless]
      constructor
      · intro planned
        cases planned
      · intro failure
        have said := (Schema.complaints_iff_failure known failure.ne_nil).mpr failure
        exact absurd (faultless.symm.trans said).symm failure.ne_nil
    · rw [if_neg faultless, Except.error.injEq]
      constructor
      · rintro rfl
        exact (Schema.complaints_iff_failure known faultless).mp rfl
      · intro failure
        exact (Schema.complaints_iff_failure known failure.ne_nil).mpr failure

namespace Schema

/-- A type gets a plan or a block of diagnostics that is not empty, and never both. -/
lemma ready?_or_failure (s : Schema) (options : Options) (target : TypeDef) :
    (∃ model, s.ready? options target = some model ∧ s.faultsOf options target = []) ∨
      (s.ready? options target = none ∧ s.Failure target (s.faultsOf options target)) := by
  rw [ready?, faultsOf]
  cases outcome : assemble s target options with
  | ok model => exact Or.inl ⟨model, rfl, rfl⟩
  | error ds => exact Or.inr ⟨rfl, (assemble_eq_error_iff s target options ds).mp outcome⟩

end Schema

lemma faults_nil_iff {s : Schema} {options : Options} {targets : List TypeDef} :
    targets.flatMap (s.faultsOf options) = [] ↔
      List.Forall₂ (fun target model => assemble s target options = .ok model) targets
        (targets.filterMap (s.ready? options)) := by
  induction targets with
  | nil => simp
  | cons target rest ih =>
    rw [List.flatMap_cons, List.append_eq_nil_iff, ih]
    rcases s.ready?_or_failure options target with ⟨model, ready, silent⟩ | ⟨unplanned, failure⟩
    · simp [ready, silent, Schema.ready?_eq_some_iff.mp ready]
    · refine iff_of_false (fun both => failure.ne_nil both.1) fun all => ?_
      obtain ⟨model, _, assembled, _⟩ := List.forall₂_cons_left_iff.mp all
      cases unplanned.symm.trans (Schema.ready?_eq_some_iff.mpr assembled)

/-- A type without a plan fails in one of few ways. A generation turns each mapped type into its
plan or its block of diagnostics, in declaration order; it is fine if each has its plan. -/
theorem failures_and_generation (s : Schema) (options : Options) :
    (∀ target ds, assemble s target options = .error ds ↔ s.Failure target ds) ∧
    (∀ target,
      (∃ model, s.ready? options target = some model ∧ s.faultsOf options target = []) ∨
      (s.ready? options target = none ∧ s.faultsOf options target ≠ [] ∧
        s.Failure target (s.faultsOf options target))) ∧
    generate s options =
      { models := s.mappedTypes.filterMap (s.ready? options)
        diagnostics := s.mappedTypes.flatMap (s.faultsOf options) } ∧
    ((generate s options).isOk = true ↔
      List.Forall₂ (fun target model => assemble s target options = .ok model) s.mappedTypes
        (generate s options).models) := by
  refine ⟨fun target => assemble_eq_error_iff s target options, fun target => ?_,
    generate_eq s options, ?_⟩
  · exact (s.ready?_or_failure options target).imp_right fun ⟨unplanned, failure⟩ =>
      ⟨unplanned, failure.ne_nil, failure⟩
  · rw [Generation.isOk_iff, generate_eq]
    exact faults_nil_iff

end MemberMapping
