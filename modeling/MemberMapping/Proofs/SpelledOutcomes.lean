import MemberMapping.Proofs.AlikeOutcomes

/-!
The outcome for a target whose containers are spelled in another way.

It is the same up to spelling if what is compared letter by letter comes to the same for each target
member and what it is read from, for each source member and what it is written to, and for the
constructors that take the source. Where there is a plan, the target members and the constructors
must be compared alike for the outcome to stay.
-/

namespace MemberMapping

/-- A plan takes nothing from a mapped base but its path and its directive. -/
lemma mapped_headings {w : WellKnown} {base base' : Option TypeDef}
    (same : base.map (TypeDef.unqualified w) = base'.map (TypeDef.unqualified w)) :
    base.isSome = base'.isSome ∧ base.map (·.path) = base'.map (·.path) ∧
      base.bind (·.mapFrom?) = base'.bind (·.mapFrom?) := by
  rcases cases_of_map_eq same with ⟨rfl, rfl⟩ | ⟨d, d', rfl, rfl, alike⟩
  · exact ⟨rfl, rfl, rfl⟩
  · simp only [TypeDef.unqualified, TypeDef.mk.injEq] at alike
    simp [TypeDef.mapFrom?, alike]

namespace Schema

variable {s : Schema} {target source : TypeDef}

lemma blocksSource_of_faultless (faultless : s.complaints target source = []) :
    s.blocksSource target source = false := by
  rw [complaints, List.append_eq_nil_iff] at faultless
  simpa using faultless.2

/-- With nothing said against the mapping, a member is read exactly if it has a candidate. -/
lemma isSome_reading? (faultless : s.complaints target source = []) {member : Member}
    (present : member ∈ s.targetMembers target) :
    (s.reading? (s.sourceCandidates source) member).isSome =
      (findSource? (s.sourceCandidates source) member).isSome := by
  have unblamed := unblamed_of_faultless faultless present
  rw [readingFault?_eq_none_iff] at unblamed
  rw [reading?]
  cases found : findSource? (s.sourceCandidates source) member with
  | none => rfl
  | some candidate =>
    obtain ⟨c, converts⟩ := Option.ne_none_iff_exists'.mp (unblamed candidate found)
    simp [converts]

end Schema

namespace Schema.Respells

variable {s s' : Schema} {target target' source source' : TypeDef}
  (respells : s.Respells s' target target')
  (same : source.unqualified s.known = source'.unqualified s.known)

/-! ## The outcome of a target -/

include respells

lemma reading?_eq : s.reading? = s'.reading? := by
  funext candidates member
  simp only [reading?, respells.conversion?_eq]

lemma writing?_eq : s.writing? = s'.writing? := by
  funext targets member
  simp only [writing?, respells.conversion?_eq]

lemma targets_beside :
    List.Forall₂ (fun m m' => Member.unqualified s.known m = Member.unqualified s.known m')
      (s.targetMembers target) (s'.targetMembers target') :=
  forall₂_eq_iff.mpr respells.targetMembers_alike

include same

lemma candidates_beside :
    List.Forall₂ (fun m m' => Member.unqualified s.known m = Member.unqualified s.known m')
      (s.sourceCandidates source) (s'.sourceCandidates source') :=
  forall₂_eq_iff.mpr (respells.sourceCandidates_alike same)

/-- The entries of the target members are the same up to spelling exactly if each target member is
compared alike with its source. -/
lemma readings_beside_iff :
    List.Forall₂ (fun m m' =>
        (s.reading? (s.sourceCandidates source) m).map (MappedMember.unqualified s.known) =
          (s'.reading? (s'.sourceCandidates source') m').map (MappedMember.unqualified s.known))
        (s.targetMembers target) (s'.targetMembers target') ↔
      s.ReadsAlike s' target target' source source' := by
  rw [← respells.reading?_eq]
  exact forall₂_congr_of_beside respells.targets_beside fun _ _ alike =>
    reading?_alike_iff (respells.sourceCandidates_alike same) alike

lemma writings_beside_iff :
    List.Forall₂ (fun m m' =>
        (s.writing? (s.targetMembers target) m).map (MappedMember.unqualified s.known) =
          (s'.writing? (s'.targetMembers target') m').map (MappedMember.unqualified s.known))
        (s.sourceCandidates source) (s'.sourceCandidates source') ↔
      s.WritesAlike s' target target' source source' := by
  rw [← respells.writing?_eq]
  exact forall₂_congr_of_beside (respells.candidates_beside same) fun _ _ alike =>
    writing?_alike_iff respells.targetMembers_alike alike

/-- Where constructors and target members are compared alike, the same is said. -/
lemma complaints_alike (constructors : s.ConstructorsAlike s' target target' source source')
    (reads : s.ReadsAlike s' target target' source source') :
    (s.complaints target source).map Diagnostic.finding =
      (s'.complaints target' source').map Diagnostic.finding := by
  have named := TypeDef.name_alike respells.target
  have faults : List.Forall₂ (fun m m' =>
      (s.readingFault? target (s.sourceCandidates source) m).map Diagnostic.finding =
        (s'.readingFault? target' (s'.sourceCandidates source') m').map Diagnostic.finding)
      (s.targetMembers target) (s'.targetMembers target') := by
    have converted : s'.readingFault? = s.readingFault? := by
      funext target candidates member
      simp only [readingFault?, respells.conversion?_eq]
    rw [converted]
    exact List.Forall₂.mp (fun _ _ alike compared =>
      readingFault?_alike named (respells.sourceCandidates_alike same) alike compared)
      respells.targets_beside reads
  have first := map_findSome?_of_forall₂ faults
  have unrelated : (Diagnostic.noMatchingPropertyFound target source).finding =
      (Diagnostic.noMatchingPropertyFound target' source').finding := by
    simp only [Diagnostic.finding, Diagnostic.noMatchingPropertyFound, named]
  have missing : (Diagnostic.missingConstructorArgument target source).finding =
      (Diagnostic.missingConstructorArgument target' source').finding := by
    simp only [Diagnostic.finding, Diagnostic.missingConstructorArgument, named]
  rw [complaints, complaints]
  simp only [List.map_append, ← Option.toList_map, first, respells.isUnrelated_alike same,
    constructors.blocked, apply_ite (List.map Diagnostic.finding), List.map_cons, List.map_nil,
    unrelated, missing]

/-- The plans are the same up to spelling exactly if their entries are, and if a constructor that
takes the source is there for both or for neither. -/
lemma plan_alike_iff (options : Options) :
    (s.plan target source options).unqualified s.known =
        (s'.plan target' source' options).unqualified s.known ↔
      (s.readings target source).map (MappedMember.unqualified s.known) =
          (s'.readings target' source').map (MappedMember.unqualified s.known) ∧
        (s.writings target source).map (MappedMember.unqualified s.known) =
          (s'.writings target' source').map (MappedMember.unqualified s.known) ∧
        (sourceConstructor? target source).isNone =
          (sourceConstructor? target' source').isNone := by
  have headings := TypeDef.outline_alike respells.target
  have headings' := TypeDef.outline_alike same
  simp only [TypeDef.outline, TypeDef.mk.injEq] at headings headings'
  have extras := extraParameters_alike (respells.sourceCandidates_alike same)
    respells.targetMembers_alike
  have base := respells.mappedBase?_alike
  simp only [MappingModel.unqualified, plan, MappingModel.mk.injEq, TypeDef.scope, TypeDef.name,
    TypeDef.fullName, headings, headings', extras, mapped_headings base, true_and]

omit same

lemma sameOutcome_of_alike (options : Options)
    (alike : ∀ source source', s.sourceOf? target = some source →
      s'.sourceOf? target' = some source' →
      s.ConstructorsAlike s' target target' source source' ∧
      s.ReadsAlike s' target target' source source' ∧
      s.WritesAlike s' target target' source source') :
    SameOutcome s.known (assemble s target options) (assemble s' target' options) := by
  rcases cases_of_map_eq respells.sourceOf?_alike with
    ⟨missing, missing'⟩ | ⟨source, source', declared, declared', same⟩
  · rw [assemble_of_undeclared options missing, assemble_of_undeclared options missing',
      SameOutcome]
    simp only [List.map_cons, List.map_nil, Diagnostic.finding, Diagnostic.mapFromAttributeNotFound,
      TypeDef.name_alike respells.target]
  · obtain ⟨constructors, reads, writes⟩ := alike source source' declared declared'
    have said := respells.complaints_alike same constructors reads
    rw [assemble_of_declared options declared, assemble_of_declared options declared']
    by_cases faultless : s.complaints target source = []
    · rw [faultless, List.map_nil, eq_comm, List.map_eq_nil_iff] at said
      rw [if_pos faultless, if_pos said, SameOutcome, respells.plan_alike_iff same]
      have read := map_filterMap_of_forall₂ ((respells.readings_beside_iff same).mpr reads)
      have written := map_filterMap_of_forall₂ ((respells.writings_beside_iff same).mpr writes)
      exact ⟨read, written, constructors.given⟩
    · have faulty : s'.complaints target' source' ≠ [] := by
        intro silent
        rw [silent, List.map_nil, List.map_eq_nil_iff] at said
        exact faultless said
      rw [if_neg faultless, if_neg faulty, SameOutcome]
      exact said

omit respells in
/-- Where names are distinct, a member that a source member is written to is read from it. -/
lemma findSource?_of_findTarget? {candidates targets : List Member} {candidate member : Member}
    (distinct : (candidates.map (·.name)).Nodup) (listed : candidate ∈ candidates)
    (found : findTarget? targets candidate = some member) :
    findSource? candidates member = some candidate := by
  have meets : member.lookupName = candidate.name := by simpa using List.find?_some found
  rw [findSource?, meets]
  exact find?_of_distinct distinct listed

include same

/-- Where the names of the source members are distinct, each is written to a member that is read
from it. -/
lemma writesAlike_of_readsAlike
    (distinct : ((s.sourceCandidates source).map (·.name)).Nodup)
    (reads : s.ReadsAlike s' target target' source source') :
    s.WritesAlike s' target target' source source' := by
  have names : (s.sourceCandidates source).map (·.name) =
      (s'.sourceCandidates source').map (·.name) := by
    have kept := congrArg (List.map Member.name) (respells.sourceCandidates_alike same)
    rw [List.map_map, List.map_map] at kept
    exact kept
  have distinct' := distinct
  rw [names] at distinct'
  refine (forall₂_mem (respells.candidates_beside same)).imp ?_
  rintro candidate candidate' ⟨⟨listed, listed'⟩, alike⟩ member member' found found'
  have beside := List.Forall₂.mp (fun _ _ one other => And.intro one other)
    respells.targets_beside reads
  obtain ⟨name, _, _, _⟩ := Member.fields_alike alike
  have both : Option.Rel (fun m m' => Member.unqualified s.known m = Member.unqualified s.known m' ∧
        s.ReadAlike (s.sourceCandidates source) (s'.sourceCandidates source') m m')
      (findTarget? (s.targetMembers target) candidate)
      (findTarget? (s'.targetMembers target') candidate') := by
    refine rel_find?_of_forall₂ beside ?_
    rintro m m' ⟨paired, _⟩
    obtain ⟨_, _, lookup, _⟩ := Member.fields_alike paired
    rw [lookup, name]
  rw [found, found'] at both
  cases both with
  | some related =>
    exact related.2 candidate candidate' (findSource?_of_findTarget? distinct listed found)
      (findSource?_of_findTarget? distinct' listed' found')

/-- Where there is a plan, an outcome that is the same up to spelling has its entries. -/
lemma alike_of_sameOutcome {options : Options} {model : MappingModel}
    (declared : s.sourceOf? target = some source) (declared' : s'.sourceOf? target' = some source')
    (ready : assemble s target options = .ok model)
    (outcome : SameOutcome s.known (assemble s target options) (assemble s' target' options)) :
    s.ConstructorsAlike s' target target' source source' ∧
      s.ReadsAlike s' target target' source source' := by
  cases ready' : assemble s' target' options with
  | error ds =>
    rw [ready, ready'] at outcome
    cases outcome
  | ok model' =>
    obtain ⟨_, known, faultless, rfl⟩ := plan_of_assemble ready
    obtain rfl := Option.some.inj (declared.symm.trans known)
    obtain ⟨_, known', faultless', rfl⟩ := plan_of_assemble ready'
    obtain rfl := Option.some.inj (declared'.symm.trans known')
    rw [ready, ready', SameOutcome, respells.plan_alike_iff same] at outcome
    obtain ⟨read, _, given⟩ := outcome
    refine ⟨⟨given, ?_⟩, (respells.readings_beside_iff same).mp ?_⟩
    · rw [blocksSource_of_faultless faultless, blocksSource_of_faultless faultless']
    · refine forall₂_of_map_filterMap ?_ read
      refine (forall₂_mem respells.targets_beside).imp ?_
      rintro member member' ⟨⟨listed, listed'⟩, alike⟩
      have found := congrArg Option.isSome
        (findSource?_alike (respells.sourceCandidates_alike same) alike)
      rw [Option.isSome_map, Option.isSome_map] at found
      rw [isSome_reading? faultless listed, isSome_reading? faultless' listed', found]

end Schema.Respells

end MemberMapping
