import MemberMapping.Assembly
import MemberMapping.Proofs.Imports

/-!
Resolution of a pair of members, and of the members of a type in both directions, without a state.

Before the first diagnostic a resolver answers what the pair of members alone decides. After it
the diagnostics stay as they are. So the forward pass reports the first member that cannot be
read, and only that one; the reverse pass reports nothing.
-/

namespace MemberMapping

namespace Schema

/-- The declaration behind `target` is mapped from the nominal type `source`. Arguments do not
count. -/
def MappedFrom (s : Schema) (target source : Ty) : Prop :=
  ∃ path d mapped, source = .path path ∧ s.typeOf? target = some d ∧ d.mapFrom? = some mapped ∧
    mapped.definitionName = path.definitionName

/-- The converter is declared, and one of its interfaces, own or inherited, is the capability to
convert from exactly `source` to exactly `target`. -/
def ConvertedBy (s : Schema) (converter : TypePath) (source target : Ty) : Prop :=
  ∃ d, s.typeDef? converter = some d ∧ ∃ interface ∈ s.allInterfaces d,
    s.known.isTypeConverter interface ∧ interface.args = [source, target]

lemma mapsFrom_iff (s : Schema) (target source : Ty) :
    s.mapsFrom target source = true ↔ s.MappedFrom target source := by
  constructor
  · intro maps
    rw [mapsFrom] at maps
    split at maps
    · rename_i d path behind nominal
      split at maps
      · rename_i mapped marked
        cases source with
        | path target =>
          have same : target = path := Option.some.inj nominal
          subst same
          exact ⟨target, d, mapped, rfl, behind, marked, beq_iff_eq.mp maps⟩
        | primitive => cases nominal
        | dyn => cases nominal
      · cases maps
    · cases maps
  · rintro ⟨path, d, mapped, rfl, behind, marked, same⟩
    simp [mapsFrom, Ty.asPath?, behind, marked, same]

lemma isValidConverter_iff (s : Schema) (converter : TypePath) (source target : Ty) :
    s.isValidConverter converter source target = true ↔ s.ConvertedBy converter source target := by
  rw [isValidConverter, ConvertedBy]
  cases s.typeDef? converter with
  | none => simp
  | some d => simp [List.any_eq_true]

instance (s : Schema) (target source : Ty) : Decidable (s.MappedFrom target source) :=
  decidable_of_iff _ (s.mapsFrom_iff target source)

instance (s : Schema) (converter : TypePath) (source target : Ty) :
    Decidable (s.ConvertedBy converter source target) :=
  decidable_of_iff _ (s.isValidConverter_iff converter source target)

/-- The conversion of the elements, where both types are collections. -/
def elementConversion? (s : Schema) (source target : Ty) : Option Conversion :=
  match s.enumerableElement? source, s.enumerableElement? target with
  | some sourceElement, some element =>
    if s.MappedFrom element sourceElement then some (.enumerable sourceElement element) else none
  | _, _ => none

/-- How a source member becomes a target member. A target member with a converter is converted by
it or not at all. -/
def conversion? (s : Schema) (source target : Member) : Option Conversion :=
  if s.isCompatible source.ty target.ty then some .direct
  else
    match target.converter? with
    | some (converter, parameters) =>
      if s.ConvertedBy converter source.ty target.ty then some (.converter converter parameters)
      else none
    | none =>
      if s.MappedFrom target.ty source.ty then some (.nested source.ty)
      else s.elementConversion? source.ty target.ty

lemma enumerableElement?_of_isPrimitive (s : Schema) {ty : Ty} (scalar : ty.isPrimitive = true) :
    s.enumerableElement? ty = none := by
  cases ty with
  | primitive p => rfl
  | path => cases scalar
  | dyn => cases scalar

lemma nestedConversion?_eq (s : Schema) (source target : Ty) :
    s.nestedConversion? source target =
      if s.MappedFrom target source then some (.nested source)
      else s.elementConversion? source target := by
  rw [nestedConversion?, elementConversion?]
  simp only [s.mapsFrom_iff]
  split
  · rfl
  · by_cases scalar : target.isPrimitive = true
    · simp [scalar, s.enumerableElement?_of_isPrimitive scalar]
    · simp only [scalar]
      cases s.enumerableElement? target <;> cases s.enumerableElement? source <;> rfl

end Schema

/-- The entry of a target member that is read from a source member. -/
def mappedMember (member source : Member) (conversion : Conversion) : MappedMember :=
  { name := member.name, ty := member.ty, sourceName := source.name, sourceTy := source.ty,
    conversion := conversion, readOnly := member.readOnly }

/-- What an entry takes over from its member and the candidate it is read from. -/
structure MappedMember.Pairs (entry : MappedMember) (member source : Member) : Prop where
  name : entry.name = member.name
  readOnly : entry.readOnly = member.readOnly
  sourceName : entry.sourceName = source.name
  sourceTy : entry.sourceTy = source.ty

/-- What is said of a pair of members that has no conversion. -/
def pairFault (target : TypeDef) (member source : Member) : Diagnostic :=
  match member.converter? with
  | some (converter, _) => .invalidConverterGenericArguments target member source converter
  | none => .noMatchingPropertyTypeFound target member

namespace MappedMember

/-- The types that an entry refers to: that of the member, then what is mapped and from what. -/
def types (m : MappedMember) : List Ty :=
  match m.conversion with
  | .nested source => [m.ty, source]
  | .enumerable sourceElement element => [m.ty, element, sourceElement]
  | _ => [m.ty]

def scopes (m : MappedMember) : List Namespace :=
  m.types.flatMap Ty.scopes

end MappedMember

namespace Resolver

def importing (r : Resolver) (namespaces : List Namespace) : Resolver :=
  { r with imports := r.imports.registerAll namespaces }

@[simp] lemma importing_diagnostics (r : Resolver) (namespaces : List Namespace) :
    (r.importing namespaces).diagnostics = r.diagnostics := rfl

@[simp] lemma importing_nil (r : Resolver) : r.importing [] = r := rfl

@[simp] lemma importing_importing (r : Resolver) (first second : List Namespace) :
    (r.importing first).importing second = r.importing (first ++ second) := by
  rw [importing, importing, importing, Imports.registerAll_append]

lemma conversion_of_clean (s : Schema) (target : TypeDef) {r : Resolver} (member source : Member)
    (clean : r.diagnostics = []) :
    conversion s target r member source =
      match s.conversion? source member with
      | some c => .ok c
      | none => .error (some (pairFault target member source)) := by
  rw [conversion, Schema.conversion?, pairFault]
  simp only [clean, List.isEmpty_nil, Bool.not_true, s.isValidConverter_iff, s.nestedConversion?_eq]
  split
  · rfl
  · cases member.converter? with
    | none => rfl
    | some marked =>
      by_cases valid : s.ConvertedBy marked.1 source.ty member.ty <;> simp [valid]

lemma conversion_of_failed (s : Schema) (target : TypeDef) {r : Resolver} (member source : Member)
    (failed : r.diagnostics ≠ []) :
    conversion s target r member source =
      if s.isCompatible source.ty member.ty then .ok .direct else .error none := by
  simp [conversion, failed]

lemma importedTypes_eq (member source : Member) (c : Conversion) :
    importedTypes member c = (mappedMember member source c).types := by
  cases c <;> rfl

lemma resolvePair_of_clean (s : Schema) (target : TypeDef) {r : Resolver} (member source : Member)
    (reports : Bool) (clean : r.diagnostics = []) :
    resolvePair s target r member source reports =
      match s.conversion? source member with
      | some c =>
        (some (mappedMember member source c), r.importing (mappedMember member source c).scopes)
      | none => (none, if reports then r.report (pairFault target member source) else r) := by
  rw [resolvePair, conversion_of_clean s target member source clean]
  cases s.conversion? source member with
  | none => rfl
  | some c =>
    simp only [Imports.registerAll_types, importedTypes_eq member source c]
    rfl

/-- Resolving a pair reports at most when it is asked to, and never a second time. -/
lemma resolvePair_diagnostics (s : Schema) (target : TypeDef) {r : Resolver}
    (member source : Member) (reports : Bool) (quiet : r.diagnostics ≠ [] ∨ reports = false) :
    (resolvePair s target r member source reports).2.diagnostics = r.diagnostics := by
  rcases quiet with failed | rfl
  · rw [resolvePair, conversion_of_failed s target member source failed]
    split <;> rename_i answer
    · rfl
    · split at answer <;> cases answer
    · rfl
  · rw [resolvePair]
    split <;> rfl

end Resolver

/-- The entry of a target member, where a candidate has its lookup name and a conversion applies. -/
def Schema.reading? (s : Schema) (candidates : List Member) (member : Member) :
    Option MappedMember :=
  (findSource? candidates member).bind fun source =>
    (s.conversion? source member).map (mappedMember member source)

/-- What is said of a target member that has a candidate and no conversion. -/
def Schema.readingFault? (s : Schema) (target : TypeDef) (candidates : List Member)
    (member : Member) : Option Diagnostic :=
  (findSource? candidates member).bind fun source =>
    if (s.conversion? source member).isNone then some (pairFault target member source) else none

/-- The parameter for a target member without a candidate. -/
def extraParameter? (candidates : List Member) (member : Member) : Option ExtraParameter :=
  if (findSource? candidates member).isNone then some ⟨member.name, member.ty, member.readOnly⟩
  else none

/-- The entry of the target member that maps from a source member, in the reverse direction. -/
def Schema.writing? (s : Schema) (targets : List Member) (source : Member) :
    Option MappedMember :=
  (findTarget? targets source).bind fun member =>
    (s.conversion? source member).map (mappedMember member source)

namespace Resolver

/-- Without a diagnostic a member is read, reported or left over as it is by itself. -/
lemma resolve_of_clean (s : Schema) (target : TypeDef) {r : Resolver} (member : Member)
    (candidates : List Member) (clean : r.diagnostics = []) :
    resolve s target r member candidates =
      match s.reading? candidates member, s.readingFault? target candidates member with
      | some entry, _ => (.mapped entry, r.importing entry.scopes)
      | none, some d => (.unresolved, r.report d)
      | none, none => (.unmatched, r) := by
  rw [resolve, Schema.reading?, Schema.readingFault?]
  cases findSource? candidates member with
  | none => rfl
  | some source =>
    simp only [Option.bind_some, resolvePair_of_clean s target member source true clean]
    cases s.conversion? source member <;> rfl

lemma resolve_diagnostics_of_failed (s : Schema) (target : TypeDef) {r : Resolver}
    (member : Member) (candidates : List Member) (failed : r.diagnostics ≠ []) :
    (resolve s target r member candidates).2.diagnostics = r.diagnostics := by
  rw [resolve]
  cases findSource? candidates member with
  | none => rfl
  | some source =>
    have kept := resolvePair_diagnostics s target member source true (Or.inl failed)
    rcases answer : resolvePair s target r member source true with ⟨_ | entry, after⟩ <;>
      simpa [answer] using kept

lemma resolveReverse_of_clean (s : Schema) (target : TypeDef) {r : Resolver} (source : Member)
    (targets : List Member) (clean : r.diagnostics = []) :
    resolveReverse s target r source targets =
      (s.writing? targets source,
        r.importing ((s.writing? targets source).toList.flatMap MappedMember.scopes)) := by
  rw [resolveReverse, Schema.writing?]
  cases findTarget? targets source with
  | none => rfl
  | some member =>
    simp only [Option.bind_some, resolvePair_of_clean s target member source false clean]
    cases s.conversion? source member <;> simp

lemma resolveReverse_diagnostics (s : Schema) (target : TypeDef) (r : Resolver) (source : Member)
    (targets : List Member) :
    (resolveReverse s target r source targets).2.diagnostics = r.diagnostics := by
  rw [resolveReverse]
  cases findTarget? targets source with
  | none => rfl
  | some member => exact resolvePair_diagnostics s target member source false (Or.inr rfl)

end Resolver

namespace Schema

lemma mem_of_findSource? {candidates : List Member} {source member : Member}
    (found : findSource? candidates member = some source) :
    source ∈ candidates ∧ source.name = member.lookupName :=
  ⟨List.mem_of_find?_eq_some found, by simpa using List.find?_some found⟩

lemma pairs_of_reading? {s : Schema} {candidates : List Member} {member : Member}
    {entry : MappedMember} (read : s.reading? candidates member = some entry) :
    ∃ source, findSource? candidates member = some source ∧ entry.Pairs member source := by
  obtain ⟨source, found, converted⟩ := Option.bind_eq_some_iff.mp read
  obtain ⟨c, _, rfl⟩ := Option.map_eq_some_iff.mp converted
  exact ⟨source, found, rfl, rfl, rfl, rfl⟩

lemma readingFault?_of_reading? {s : Schema} (target : TypeDef) {candidates : List Member}
    {member : Member} {entry : MappedMember} (read : s.reading? candidates member = some entry) :
    s.readingFault? target candidates member = none ∧ extraParameter? candidates member = none := by
  rw [reading?] at read
  rw [readingFault?, extraParameter?]
  cases found : findSource? candidates member with
  | none => simp [found] at read
  | some source =>
    cases conversion : s.conversion? source member with
    | none => simp [found, conversion] at read
    | some c => simp [conversion]

lemma name_of_extraParameter? {candidates : List Member} {member : Member}
    {extra : ExtraParameter} (taken : extraParameter? candidates member = some extra) :
    extra.name = member.name := by
  rw [extraParameter?] at taken
  split at taken
  · cases taken
    rfl
  · cases taken

lemma extraParameter?_of_none {s : Schema} {target : TypeDef} {candidates : List Member}
    {member : Member} (unread : s.reading? candidates member = none)
    (faultless : s.readingFault? target candidates member = none) :
    extraParameter? candidates member = some ⟨member.name, member.ty, member.readOnly⟩ := by
  rw [reading?] at unread
  rw [readingFault?] at faultless
  rw [extraParameter?]
  cases found : findSource? candidates member with
  | none => rfl
  | some source =>
    cases conversion : s.conversion? source member with
    | none => simp [found, conversion] at faultless
    | some c => simp [found, conversion] at unread

end Schema

namespace ForwardPass

/-- A pass without a diagnostic goes on with what the member alone decides. -/
lemma step_of_clean (s : Schema) (target : TypeDef) (candidates : List Member)
    {pass : ForwardPass} (member : Member) (clean : pass.resolver.diagnostics = [])
    (faultless : s.readingFault? target candidates member = none) :
    step s target candidates pass member =
      { mapped := pass.mapped ++ (s.reading? candidates member).toList
        extra := pass.extra ++ (extraParameter? candidates member).toList
        resolver := pass.resolver.importing
          ((s.reading? candidates member).toList.flatMap MappedMember.scopes) } := by
  rw [step, Resolver.resolve_of_clean s target member candidates clean]
  cases read : s.reading? candidates member with
  | some entry =>
    have paired := (Schema.readingFault?_of_reading? target read).2
    simp [paired]
  | none =>
    have left := Schema.extraParameter?_of_none read faultless
    simp [faultless, left]

/-- A pass without a diagnostic gets that of the member, if there is one. -/
lemma step_diagnostics (s : Schema) (target : TypeDef) (candidates : List Member)
    {pass : ForwardPass} (member : Member) (clean : pass.resolver.diagnostics = []) :
    (step s target candidates pass member).resolver.diagnostics =
      (s.readingFault? target candidates member).toList := by
  rw [step, Resolver.resolve_of_clean s target member candidates clean]
  cases read : s.reading? candidates member with
  | some entry =>
    have faultless := (Schema.readingFault?_of_reading? target read).1
    simpa [faultless] using clean
  | none =>
    cases s.readingFault? target candidates member with
    | none => simpa using clean
    | some d => simp [Resolver.report, clean]

lemma step_of_failed (s : Schema) (target : TypeDef) (candidates : List Member)
    {pass : ForwardPass} (member : Member) (failed : pass.resolver.diagnostics ≠ []) :
    (step s target candidates pass member).resolver.diagnostics = pass.resolver.diagnostics := by
  have kept := Resolver.resolve_diagnostics_of_failed s target member candidates failed
  rw [step]
  rcases answer : pass.resolver.resolve s target member candidates with ⟨outcome, after⟩
  cases outcome <;> simpa [answer] using kept

lemma steps_of_failed (s : Schema) (target : TypeDef) (candidates targets : List Member)
    {pass : ForwardPass} (failed : pass.resolver.diagnostics ≠ []) :
    (targets.foldl (step s target candidates) pass).resolver.diagnostics =
      pass.resolver.diagnostics := by
  induction targets generalizing pass with
  | nil => rfl
  | cons member rest ih =>
    have kept := step_of_failed s target candidates member failed
    rw [List.foldl_cons, ih (by rw [kept]; exact failed), kept]

/-- A pass without a diagnostic gets that of the first member that has one. -/
lemma steps_diagnostics (s : Schema) (target : TypeDef) (candidates targets : List Member)
    {pass : ForwardPass} (clean : pass.resolver.diagnostics = []) :
    (targets.foldl (step s target candidates) pass).resolver.diagnostics =
      (targets.findSome? (s.readingFault? target candidates)).toList := by
  induction targets generalizing pass with
  | nil => simpa using clean
  | cons member rest ih =>
    have head := step_diagnostics s target candidates member clean
    rw [List.foldl_cons, List.findSome?_cons]
    cases fault : s.readingFault? target candidates member with
    | none =>
      rw [fault] at head
      exact ih head
    | some d =>
      rw [fault] at head
      rw [steps_of_failed s target candidates rest (by rw [head]; simp), head]

lemma steps_of_clean (s : Schema) (target : TypeDef) (candidates targets : List Member)
    {pass : ForwardPass} (clean : pass.resolver.diagnostics = [])
    (faultless : ∀ member ∈ targets, s.readingFault? target candidates member = none) :
    targets.foldl (step s target candidates) pass =
      { mapped := pass.mapped ++ targets.filterMap (s.reading? candidates)
        extra := pass.extra ++ targets.filterMap (extraParameter? candidates)
        resolver := pass.resolver.importing
          ((targets.filterMap (s.reading? candidates)).flatMap MappedMember.scopes) } := by
  induction targets generalizing pass with
  | nil => simp
  | cons member rest ih =>
    have head := faultless member List.mem_cons_self
    have tail : ∀ other ∈ rest, s.readingFault? target candidates other = none :=
      fun other present => faultless other (List.mem_cons_of_mem member present)
    rw [List.foldl_cons, step_of_clean s target candidates member clean head,
      ih (by exact clean) tail]
    cases read : s.reading? candidates member <;>
      cases left : extraParameter? candidates member <;> simp [read, left]

end ForwardPass

theorem forwardPass_diagnostics (s : Schema) (target : TypeDef) (candidates targets : List Member)
    {r : Resolver} (clean : r.diagnostics = []) :
    (forwardPass s target candidates targets r).resolver.diagnostics =
      (targets.findSome? (s.readingFault? target candidates)).toList :=
  ForwardPass.steps_diagnostics s target candidates targets clean

/-- Where every member can be read, the forward pass has all entries and parameters. -/
theorem forwardPass_of_faultless (s : Schema) (target : TypeDef)
    (candidates targets : List Member) {r : Resolver} (clean : r.diagnostics = [])
    (faultless : ∀ member ∈ targets, s.readingFault? target candidates member = none) :
    forwardPass s target candidates targets r =
      { mapped := targets.filterMap (s.reading? candidates)
        extra := targets.filterMap (extraParameter? candidates)
        resolver := r.importing
          ((targets.filterMap (s.reading? candidates)).flatMap MappedMember.scopes) } := by
  rw [forwardPass, ForwardPass.steps_of_clean s target candidates targets clean faultless]
  simp

namespace ReversePass

lemma step_diagnostics (s : Schema) (target : TypeDef) (targets : List Member)
    (pass : ReversePass) (source : Member) :
    (step s target targets pass source).resolver.diagnostics = pass.resolver.diagnostics := by
  have kept := Resolver.resolveReverse_diagnostics s target pass.resolver source targets
  rw [step]
  rcases answer : pass.resolver.resolveReverse s target source targets with ⟨_ | entry, after⟩ <;>
    simpa [answer] using kept

lemma step_of_clean (s : Schema) (target : TypeDef) (targets : List Member)
    {pass : ReversePass} (source : Member) (clean : pass.resolver.diagnostics = []) :
    step s target targets pass source =
      ⟨pass.mapped ++ (s.writing? targets source).toList, pass.resolver.importing
        ((s.writing? targets source).toList.flatMap MappedMember.scopes)⟩ := by
  rw [step, Resolver.resolveReverse_of_clean s target source targets clean]
  cases s.writing? targets source <;> simp

lemma steps_of_clean (s : Schema) (target : TypeDef) (sources targets : List Member)
    {pass : ReversePass} (clean : pass.resolver.diagnostics = []) :
    sources.foldl (step s target targets) pass =
      ⟨pass.mapped ++ sources.filterMap (s.writing? targets), pass.resolver.importing
        ((sources.filterMap (s.writing? targets)).flatMap MappedMember.scopes)⟩ := by
  induction sources generalizing pass with
  | nil => simp
  | cons source rest ih =>
    rw [List.foldl_cons, step_of_clean s target targets source clean, ih (by exact clean)]
    cases written : s.writing? targets source <;> simp [written]

end ReversePass

theorem reversePass_diagnostics (s : Schema) (target : TypeDef) (candidates targets : List Member)
    (r : Resolver) :
    (reversePass s target candidates targets r).resolver.diagnostics = r.diagnostics := by
  have run : ∀ (sources : List Member) (pass : ReversePass),
      (sources.foldl (ReversePass.step s target targets) pass).resolver.diagnostics =
        pass.resolver.diagnostics := by
    intro sources
    induction sources with
    | nil => intro pass; rfl
    | cons source rest ih =>
      intro pass
      rw [List.foldl_cons, ih, ReversePass.step_diagnostics]
  exact run candidates { resolver := r }

theorem reversePass_of_clean (s : Schema) (target : TypeDef) (candidates targets : List Member)
    {r : Resolver} (clean : r.diagnostics = []) :
    reversePass s target candidates targets r =
      ⟨candidates.filterMap (s.writing? targets),
        r.importing ((candidates.filterMap (s.writing? targets)).flatMap MappedMember.scopes)⟩ := by
  rw [reversePass, ReversePass.steps_of_clean s target candidates targets clean]
  simp

end MemberMapping
