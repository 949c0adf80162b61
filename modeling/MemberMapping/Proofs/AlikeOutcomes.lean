import MemberMapping.Proofs.ContainerSpellings

/-!
Outcomes that are the same up to the spelling of containers.

Types are compared letter by letter in three places: where a value is assigned as it is, where the
arguments of a converter are checked, and where a directive names the type that is mapped from. Two
pairs of members that are the same up to spelling are converted alike exactly if these comparisons
come to the same.
-/

namespace MemberMapping

/-! ## Plans and diagnostics up to spelling -/

def Conversion.unqualified (w : WellKnown) : Conversion → Conversion
  | .direct => .direct
  | .converter path parameters => .converter path parameters
  | .nested source => .nested (source.unqualified w)
  | .enumerable sourceElement element =>
    .enumerable (sourceElement.unqualified w) (element.unqualified w)

def MappedMember.unqualified (w : WellKnown) (m : MappedMember) : MappedMember :=
  { m with
    ty := m.ty.unqualified w
    sourceTy := m.sourceTy.unqualified w
    conversion := m.conversion.unqualified w }

def ExtraParameter.unqualified (w : WellKnown) (p : ExtraParameter) : ExtraParameter :=
  { p with ty := p.ty.unqualified w }

/-- The plan with containers written without their scopes. It has no imports, which are the scopes
that are written. -/
def MappingModel.unqualified (w : WellKnown) (m : MappingModel) : MappingModel :=
  { m with
    sourceMembers := m.sourceMembers.map (MappedMember.unqualified w)
    typeMembers := m.typeMembers.map (MappedMember.unqualified w)
    extraParameters := m.extraParameters.map (ExtraParameter.unqualified w)
    imports := [] }

/-- What is wrong, and where. -/
def Diagnostic.finding (d : Diagnostic) : DiagnosticKind × Location :=
  (d.kind, d.location)

/-- Two plans that are equal up to spelling, or diagnostics of the same kinds at the same
locations. -/
def SameOutcome (w : WellKnown) :
    Except Diagnostics MappingModel → Except Diagnostics MappingModel → Prop
  | .ok model, .ok model' => model.unqualified w = model'.unqualified w
  | .error ds, .error ds' => ds.map Diagnostic.finding = ds'.map Diagnostic.finding
  | _, _ => False

/-! ## Comparisons -/

namespace Schema

/-- What is compared letter by letter for one pair of members and for another comes to the same, as
far as it is compared: whether the value is assigned as it is; if not, whether the converter fits;
without a converter, whether the member's type is mapped from that of the source; if not, whether
the elements of the one are mapped from those of the other. -/
structure ComparesAlike (s : Schema) (source member source' member' : Member) : Prop where
  assigned : s.isCompatible source.ty member.ty = s.isCompatible source'.ty member'.ty
  converted : s.isCompatible source.ty member.ty = false →
    ∀ converter parameters, member.converter? = some (converter, parameters) →
      (s.ConvertedBy converter source.ty member.ty ↔
        s.ConvertedBy converter source'.ty member'.ty)
  mapped : s.isCompatible source.ty member.ty = false → member.converter? = none →
    (s.MappedFrom member.ty source.ty ↔ s.MappedFrom member'.ty source'.ty)
  elements : s.isCompatible source.ty member.ty = false → member.converter? = none →
    ¬ s.MappedFrom member.ty source.ty →
      (s.elementConversion? source.ty member.ty).isSome =
        (s.elementConversion? source'.ty member'.ty).isSome

variable {s : Schema} {source member source' member' : Member}

lemma conversion?_of_compatible (compatible : s.isCompatible source.ty member.ty = true) :
    s.conversion? source member = some .direct := by
  rw [conversion?, if_pos compatible]

lemma conversion?_of_converter (apart : s.isCompatible source.ty member.ty = false)
    {converter : TypePath} {parameters : List Literal}
    (marked : member.converter? = some (converter, parameters)) :
    s.conversion? source member =
      if s.ConvertedBy converter source.ty member.ty then some (.converter converter parameters)
      else none := by
  simp only [conversion?, apart, marked, Bool.false_eq_true, if_false]

lemma conversion?_of_mapping (apart : s.isCompatible source.ty member.ty = false)
    (plain : member.converter? = none) :
    s.conversion? source member =
      if s.MappedFrom member.ty source.ty then some (.nested source.ty)
      else s.elementConversion? source.ty member.ty := by
  simp only [conversion?, apart, plain, Bool.false_eq_true, if_false]

lemma elementConversion?_eq_some {source target : Ty} {c : Conversion}
    (converts : s.elementConversion? source target = some c) :
    ∃ sourceElement element, s.enumerableElement? source = some sourceElement ∧
      s.enumerableElement? target = some element ∧ c = .enumerable sourceElement element := by
  rw [elementConversion?] at converts
  split at converts
  · rename_i sourceElement element found found'
    split at converts
    · exact ⟨sourceElement, element, found, found', (Option.some.inj converts).symm⟩
    · cases converts
  · cases converts

/-- The element is the first argument, so it is the same up to spelling. -/
lemma element_alike {ty ty' element element' : Ty}
    (same : ty.unqualified s.known = ty'.unqualified s.known)
    (found : s.enumerableElement? ty = some element)
    (found' : s.enumerableElement? ty' = some element') :
    element.unqualified s.known = element'.unqualified s.known := by
  have first : ∀ {ty element : Ty}, s.enumerableElement? ty = some element →
      ∃ path, ty = .path path ∧ path.args.head? = some element := by
    intro ty element found
    rw [enumerableElement?] at found
    split at found
    · obtain ⟨path, named, head⟩ := Option.bind_eq_some_iff.mp found
      cases ty with
      | path target =>
        cases named
        exact ⟨_, rfl, head⟩
      | primitive | dyn => cases named
    · cases found
  obtain ⟨path, rfl, head⟩ := first found
  obtain ⟨path', rfl, head'⟩ := first found'
  rw [Ty.unqualified, Ty.unqualified, Ty.path.injEq] at same
  have args := congrArg (fun p => p.args.head?) same
  simpa [head, head'] using args

lemma elementConversion?_alike {source target source' target' : Ty}
    (sources : source.unqualified s.known = source'.unqualified s.known)
    (targets : target.unqualified s.known = target'.unqualified s.known) :
    (s.elementConversion? source target).map (Conversion.unqualified s.known) =
        (s.elementConversion? source' target').map (Conversion.unqualified s.known) ↔
      (s.elementConversion? source target).isSome =
        (s.elementConversion? source' target').isSome := by
  cases one : s.elementConversion? source target with
  | none => cases s.elementConversion? source' target' <;> simp
  | some c =>
    cases other : s.elementConversion? source' target' with
    | none => simp
    | some c' =>
      obtain ⟨_, _, from1, to1, rfl⟩ := elementConversion?_eq_some one
      obtain ⟨_, _, from2, to2, rfl⟩ := elementConversion?_eq_some other
      simp [Conversion.unqualified, element_alike sources from1 from2,
        element_alike targets to1 to2]

/-- The converter tier comes to the same exactly if the converter fits both pairs or neither. -/
lemma converter_alike_iff {fits fits' : Prop} [Decidable fits] [Decidable fits'] {c : Conversion}
    (w : WellKnown) :
    (if fits then some c else none).map (Conversion.unqualified w) =
      (if fits' then some c else none).map (Conversion.unqualified w) ↔ (fits ↔ fits') := by
  by_cases one : fits <;> by_cases other : fits' <;> simp [one, other]

lemma nested_ne_element {source target ty : Ty} (w : WellKnown) :
    (s.elementConversion? source target).map (Conversion.unqualified w) ≠ some (.nested ty) := by
  intro nested
  obtain ⟨c, converts, same⟩ := Option.map_eq_some_iff.mp nested
  obtain ⟨_, _, _, _, rfl⟩ := elementConversion?_eq_some converts
  cases same

/-- The tier of mappings comes to the same exactly if the types are mapped alike and, where they are
not, their elements are. -/
lemma mapping_alike_iff {source target source' target' : Ty}
    (sources : source.unqualified s.known = source'.unqualified s.known)
    (targets : target.unqualified s.known = target'.unqualified s.known) :
    (if s.MappedFrom target source then some (.nested source)
        else s.elementConversion? source target).map (Conversion.unqualified s.known) =
      (if s.MappedFrom target' source' then some (.nested source')
        else s.elementConversion? source' target').map (Conversion.unqualified s.known) ↔
      (s.MappedFrom target source ↔ s.MappedFrom target' source') ∧
      (¬ s.MappedFrom target source → (s.elementConversion? source target).isSome =
        (s.elementConversion? source' target').isSome) := by
  by_cases mapped : s.MappedFrom target source
  · by_cases mapped' : s.MappedFrom target' source'
    · simp [mapped, mapped', Conversion.unqualified, sources]
    · rw [if_pos mapped, if_neg mapped']
      refine iff_of_false (nested_ne_element s.known).symm ?_
      exact fun alike => mapped' (alike.1.mp mapped)
  · by_cases mapped' : s.MappedFrom target' source'
    · rw [if_neg mapped, if_pos mapped']
      refine iff_of_false (nested_ne_element s.known) ?_
      exact fun alike => mapped (alike.1.mpr mapped')
    · rw [if_neg mapped, if_neg mapped', elementConversion?_alike sources targets]
      simp [mapped, mapped']

lemma conversion?_ne_direct (w : WellKnown) (apart : s.isCompatible source.ty member.ty = false) :
    (s.conversion? source member).map (Conversion.unqualified w) ≠ some .direct := by
  intro direct
  obtain ⟨c, converts, same⟩ := Option.map_eq_some_iff.mp direct
  cases c with
  | converter | nested | enumerable => cases same
  | direct =>
    cases marked : member.converter? with
    | some mark =>
      rw [conversion?_of_converter apart marked] at converts
      split at converts
      · cases converts
      · cases converts
    | none =>
      rw [conversion?_of_mapping apart marked] at converts
      split at converts
      · cases converts
      · obtain ⟨_, _, _, _, elements⟩ := elementConversion?_eq_some converts
        cases elements

/-- Pairs of members that are the same up to spelling are converted alike exactly if what is
compared letter by letter comes to the same. -/
theorem conversion?_alike_iff
    (sources : source.unqualified s.known = source'.unqualified s.known)
    (targets : member.unqualified s.known = member'.unqualified s.known) :
    (s.conversion? source member).map (Conversion.unqualified s.known) =
        (s.conversion? source' member').map (Conversion.unqualified s.known) ↔
      s.ComparesAlike source member source' member' := by
  obtain ⟨_, sourceTys, _, _⟩ := Member.fields_alike sources
  obtain ⟨_, memberTys, _, marks⟩ := Member.fields_alike targets
  -- The tiers in order: a direct assignment on one side only is told apart by its conversion, and
  -- where neither side assigns, the mark decides which comparison is left.
  cases assigned : s.isCompatible source.ty member.ty with
  | true =>
    rw [conversion?_of_compatible assigned]
    cases assigned' : s.isCompatible source'.ty member'.ty with
    | true =>
      rw [conversion?_of_compatible assigned']
      refine iff_of_true rfl ⟨assigned.trans assigned'.symm, ?_, ?_, ?_⟩
      all_goals
        intro apart
        cases assigned.symm.trans apart
    | false =>
      refine iff_of_false (conversion?_ne_direct s.known assigned').symm fun alike => ?_
      cases assigned.symm.trans (alike.assigned.trans assigned')
  | false =>
    cases assigned' : s.isCompatible source'.ty member'.ty with
    | true =>
      rw [conversion?_of_compatible assigned']
      refine iff_of_false (conversion?_ne_direct s.known assigned) fun alike => ?_
      cases assigned.symm.trans (alike.assigned.trans assigned')
    | false =>
      have same := assigned.trans assigned'.symm
      cases marked : member.converter? with
      | some mark =>
        obtain ⟨converter, parameters⟩ := mark
        rw [conversion?_of_converter assigned marked,
          conversion?_of_converter assigned' (marks.symm.trans marked), converter_alike_iff]
        constructor
        · intro fits
          refine ⟨same, ?_, ?_, ?_⟩
          · intro _ _ _ written
            cases marked.symm.trans written
            exact fits
          · intro _ plain
            cases marked.symm.trans plain
          · intro _ plain
            cases marked.symm.trans plain
        · intro alike
          exact alike.converted assigned converter parameters marked
      | none =>
        rw [conversion?_of_mapping assigned marked,
          conversion?_of_mapping assigned' (marks.symm.trans marked),
          mapping_alike_iff sourceTys memberTys]
        constructor
        · rintro ⟨mapped, elements⟩
          refine ⟨same, ?_, fun _ _ => mapped, fun _ _ => elements⟩
          intro _ _ _ written
          cases marked.symm.trans written
        · intro alike
          exact ⟨alike.mapped assigned marked, alike.elements assigned marked⟩

/-! ## Members -/

/-- A target member is compared alike with what it is read from. -/
def ReadAlike (s : Schema) (candidates candidates' : List Member) (member member' : Member) :
    Prop :=
  ∀ candidate candidate', findSource? candidates member = some candidate →
    findSource? candidates' member' = some candidate' →
    s.ComparesAlike candidate member candidate' member'

/-- A source member is compared alike with what it is written to. -/
def WrittenAlike (s : Schema) (targets targets' : List Member) (source source' : Member) : Prop :=
  ∀ member member', findTarget? targets source = some member →
    findTarget? targets' source' = some member' →
    s.ComparesAlike source member source' member'

/-- Each target member is compared alike with what it is read from. -/
def ReadsAlike (s s' : Schema) (target target' source source' : TypeDef) : Prop :=
  List.Forall₂ (s.ReadAlike (s.sourceCandidates source) (s'.sourceCandidates source'))
    (s.targetMembers target) (s'.targetMembers target')

/-- Each source member is compared alike with what it is written to. -/
def WritesAlike (s s' : Schema) (target target' source source' : TypeDef) : Prop :=
  List.Forall₂ (s.WrittenAlike (s.targetMembers target) (s'.targetMembers target'))
    (s.sourceCandidates source) (s'.sourceCandidates source')

/-- Two constructors, or none in both cases, take the source, and hand on what they must alike. -/
structure ConstructorsAlike (s s' : Schema) (target target' source source' : TypeDef) : Prop where
  given : (sourceConstructor? target source).isNone = (sourceConstructor? target' source').isNone
  blocked : s.blocksSource target source = s'.blocksSource target' source'

section Members

variable {candidates candidates' targets targets' : List Member}

lemma findSource?_alike {w : WellKnown}
    (offered : candidates.map (Member.unqualified w) = candidates'.map (Member.unqualified w))
    (same : member.unqualified w = member'.unqualified w) :
    (findSource? candidates member).map (Member.unqualified w) =
      (findSource? candidates' member').map (Member.unqualified w) := by
  have first := (unqualifying w).findSource?_revised candidates member
  have second := (unqualifying w).findSource?_revised candidates' member'
  have middle := congrArg₂ findSource? offered same
  exact first.symm.trans (middle.trans second)

lemma findTarget?_alike {w : WellKnown}
    (listed : targets.map (Member.unqualified w) = targets'.map (Member.unqualified w))
    (same : source.unqualified w = source'.unqualified w) :
    (findTarget? targets source).map (Member.unqualified w) =
      (findTarget? targets' source').map (Member.unqualified w) := by
  have first := (unqualifying w).findTarget?_revised targets source
  have second := (unqualifying w).findTarget?_revised targets' source'
  have middle := congrArg₂ findTarget? listed same
  exact first.symm.trans (middle.trans second)

/-- Entries are the same up to spelling if their members are, and are converted alike. -/
lemma mappedMember_alike_iff
    (sources : source.unqualified s.known = source'.unqualified s.known)
    (members : member.unqualified s.known = member'.unqualified s.known) :
    ((s.conversion? source member).map (mappedMember member source)).map
          (MappedMember.unqualified s.known) =
        ((s.conversion? source' member').map (mappedMember member' source')).map
          (MappedMember.unqualified s.known) ↔
      s.ComparesAlike source member source' member' := by
  rw [← conversion?_alike_iff sources members]
  simp only [Member.unqualified, Member.mk.injEq] at sources members
  cases s.conversion? source member with
  | none => cases s.conversion? source' member' <;> simp
  | some c =>
    cases s.conversion? source' member' with
    | none => simp
    | some c' =>
      simp [mappedMember, MappedMember.unqualified, sources, members]

/-- A target member is read alike exactly if it is compared alike with its source. -/
lemma reading?_alike_iff
    (offered : candidates.map (Member.unqualified s.known) =
      candidates'.map (Member.unqualified s.known))
    (same : member.unqualified s.known = member'.unqualified s.known) :
    (s.reading? candidates member).map (MappedMember.unqualified s.known) =
        (s.reading? candidates' member').map (MappedMember.unqualified s.known) ↔
      s.ReadAlike candidates candidates' member member' := by
  rw [reading?, reading?, ReadAlike]
  rcases cases_of_map_eq (findSource?_alike offered same) with
    ⟨first, second⟩ | ⟨candidate, candidate', first, second, alike⟩
  · simp [first, second]
  · rw [first, second, Option.bind_some, Option.bind_some, mappedMember_alike_iff alike same]
    simp

/-- A source member is written alike exactly if it is compared alike with its target. -/
lemma writing?_alike_iff
    (listed : targets.map (Member.unqualified s.known) =
      targets'.map (Member.unqualified s.known))
    (same : source.unqualified s.known = source'.unqualified s.known) :
    (s.writing? targets source).map (MappedMember.unqualified s.known) =
        (s.writing? targets' source').map (MappedMember.unqualified s.known) ↔
      s.WrittenAlike targets targets' source source' := by
  rw [writing?, writing?, WrittenAlike]
  rcases cases_of_map_eq (findTarget?_alike listed same) with
    ⟨first, second⟩ | ⟨member, member', first, second, alike⟩
  · simp [first, second]
  · rw [first, second, Option.bind_some, Option.bind_some, mappedMember_alike_iff same alike]
    simp

/-- What is said of a pair depends on the name of the target, the name of the member and whether it
has a converter. -/
lemma pairFault_finding {target target' : TypeDef} {w : WellKnown}
    (named : target.name = target'.name)
    (same : member.unqualified w = member'.unqualified w) (source source' : Member) :
    (pairFault target member source).finding = (pairFault target' member' source').finding := by
  obtain ⟨name, _, _, marks⟩ := Member.fields_alike same
  rw [pairFault, pairFault, ← marks]
  cases member.converter? with
  | none =>
    simp only [Diagnostic.finding, Diagnostic.noMatchingPropertyTypeFound, named, name]
  | some mark =>
    simp only [Diagnostic.finding, Diagnostic.invalidConverterGenericArguments, named, name]

lemma readingFault?_alike {target target' : TypeDef} (named : target.name = target'.name)
    (offered : candidates.map (Member.unqualified s.known) =
      candidates'.map (Member.unqualified s.known))
    (same : member.unqualified s.known = member'.unqualified s.known)
    (alike : s.ReadAlike candidates candidates' member member') :
    (s.readingFault? target candidates member).map Diagnostic.finding =
      (s.readingFault? target' candidates' member').map Diagnostic.finding := by
  rw [readingFault?, readingFault?]
  rcases cases_of_map_eq (findSource?_alike offered same) with
    ⟨first, second⟩ | ⟨candidate, candidate', first, second, paired⟩
  · rw [first, second]
    rfl
  · have converted := (conversion?_alike_iff paired same).mpr (alike _ _ first second)
    have unconverted := congrArg Option.isNone converted
    rw [Option.isNone_map, Option.isNone_map] at unconverted
    rw [first, second, Option.bind_some, Option.bind_some, ← unconverted]
    cases (s.conversion? candidate member).isNone with
    | false => rfl
    | true => exact congrArg some (pairFault_finding named same candidate candidate')

lemma extraParameters_alike {w : WellKnown}
    (offered : candidates.map (Member.unqualified w) = candidates'.map (Member.unqualified w))
    (listed : targets.map (Member.unqualified w) = targets'.map (Member.unqualified w)) :
    (targets.filterMap (extraParameter? candidates)).map (ExtraParameter.unqualified w) =
      (targets'.filterMap (extraParameter? candidates')).map (ExtraParameter.unqualified w) := by
  refine map_filterMap_of_forall₂ ((forall₂_eq_iff.mpr listed).imp fun m m' same => ?_)
  have found := congrArg Option.isNone (findSource?_alike offered same)
  rw [Option.isNone_map, Option.isNone_map] at found
  simp only [Member.unqualified, Member.mk.injEq] at same
  rw [extraParameter?, extraParameter?, ← found]
  split
  · simp only [Option.map_some, ExtraParameter.unqualified, same]
  · rfl

end Members

end Schema

end MemberMapping
