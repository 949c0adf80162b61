import MemberMapping.Proofs.SpelledOutcomes
import MemberMapping.Proofs.UniformSpellings

/-!
Where the spellings of containers are interchangeable.

A schema that writes each container in one way throughout may write each in another way throughout.
Where one of two members is written with a scope and the other without, an assignment or a converter
may be lost.
-/

namespace MemberMapping

namespace Schema

variable {s : Schema} {spell : String → Namespace}

/-! ## The constructors that take the source -/

namespace TellsContainers

variable (tells : s.TellsContainers)

include tells

lemma isSource_unqualified {source : TypeDef} (declared : s.find? source.fullName = some source)
    (ty : Ty) : isSource source (ty.unqualified s.known) = isSource source ty := by
  cases ty with
  | primitive | dyn => rfl
  | path path =>
    have apart : ∀ path, s.known.isContainer path = true →
        path.definitionName ≠ source.fullName := by
      intro path container same
      have missing := tells.undeclared path container
      rw [typeDef?, same, declared] at missing
      cases missing
    have containers := WellKnown.isContainer_unqualified (w := s.known) path
    simp only [Ty.unqualified, isSource, Ty.asPath?]
    cases container : s.known.isContainer path with
    | true =>
      rw [beq_eq_false_iff_ne.mpr (apart path container),
        beq_eq_false_iff_ne.mpr (apart _ (containers.trans container))]
    | false =>
      rw [TypePath.definitionName, path.unqualified_scope, path.unqualified_name, container,
        TypePath.definitionName]
      rfl

lemma sourceConstructor?_unqualified {source : TypeDef}
    (declared : s.find? source.fullName = some source) (target : TypeDef) :
    sourceConstructor? (target.unqualified s.known) source =
      (sourceConstructor? target source).map (Constructor.unqualified s.known) := by
  rw [sourceConstructor?, sourceConstructor?, TypeDef.unqualified, List.find?_map]
  congr 2
  funext c
  rw [Function.comp_apply, Constructor.unqualified]
  rcases c.params with _ | ⟨param, _ | ⟨second, rest⟩⟩
  · rfl
  · simp only [List.map_cons, List.map_nil, Member.unqualified, tells.isSource_unqualified declared]
  · rfl

end TellsContainers

namespace Respells

variable {s' : Schema} {target target' source source' : TypeDef}
  (respells : s.Respells s' target target') (tells : s.TellsContainers)

include respells tells

lemma constructorsAlike (declared : s.find? source.fullName = some source)
    (same : source.unqualified s.known = source'.unqualified s.known) :
    s.ConstructorsAlike s' target target' source source' := by
  have named : source'.fullName = source.fullName := by
    have kept := congrArg TypeDef.fullName same
    exact kept.symm
  have sources : isSource source' = isSource source := by
    funext ty
    simp only [isSource, named]
  have firsts : (sourceConstructor? target source).map (Constructor.unqualified s.known) =
      (sourceConstructor? target' source').map (Constructor.unqualified s.known) := by
    rw [← tells.sourceConstructor?_unqualified declared, respells.target,
      tells.sourceConstructor?_unqualified declared]
    simp only [sourceConstructor?, sources]
  constructor
  · have present := congrArg Option.isNone firsts
    rwa [Option.isNone_map, Option.isNone_map] at present
  · have blocked := congrArg (Option.any fun c => !handsOnSource s.known source c) firsts
    rw [Option.any_map, Option.any_map] at blocked
    rw [blocksSource, blocksSource, ← respells.known]
    simp only [handsOnSource, sources] at blocked ⊢
    exact blocked

omit tells in
/-- The interfaces of the schemas are the same, so they are written in the ways of both. -/
lemma interfaces_written (spells' : s'.Spells spell) :
    ∀ d ∈ s.types, ∀ interface ∈ s.allInterfaces d, SpelledBy s.known spell interface.paths := by
  intro d declared interface listed
  have types : s.types.map (TypeDef.unqualified s.known) =
      s'.types.map (TypeDef.unqualified s'.known) := by
    have kept := congrArg Schema.types respells.schema
    exact kept
  obtain ⟨d', declared', same⟩ : ∃ d' ∈ s'.types,
      d'.unqualified s'.known = d.unqualified s.known := by
    have present := List.mem_map_of_mem (f := TypeDef.unqualified s.known) declared
    rw [types] at present
    exact List.mem_map.mp present
  have shared : s.allInterfaces d = s'.allInterfaces d' := by
    rw [← s.allInterfaces_revised (unqualifying s.known),
      ← s'.allInterfaces_revised (unqualifying s'.known)]
    exact congrArg₂ Schema.allInterfaces respells.schema same.symm
  rw [shared] at listed
  rw [respells.known]
  exact spells'.interface declared' listed

/-- Where each of the schemas is written in one way throughout, the outcome stays the same up to
spelling. -/
lemma sameOutcome_of_spells {spell' : String → Namespace} (options : Options)
    (declared : target ∈ s.types) (declared' : target' ∈ s'.types) (spells : s.Spells spell)
    (spells' : s'.Spells spell') :
    SameOutcome s.known (assemble s target options) (assemble s' target' options) := by
  refine respells.sameOutcome_of_alike options fun source source' known known' => ?_
  have same : source.unqualified s.known = source'.unqualified s.known := by
    have found := respells.sourceOf?_alike
    rw [known, known'] at found
    exact Option.some.inj found
  obtain ⟨_, _, looked⟩ := Option.bind_eq_some_iff.mp known
  obtain ⟨_, _, looked'⟩ := Option.bind_eq_some_iff.mp known'
  obtain ⟨listed, named⟩ := mem_of_find? looked
  obtain ⟨listed', _⟩ := mem_of_find? looked'
  -- Both passes compare a candidate with a target member, so one fact serves either of them.
  have compared : ∀ {candidate member candidate' member' : Member},
      candidate ∈ s.sourceCandidates source → member ∈ s.targetMembers target →
      candidate' ∈ s'.sourceCandidates source' → member' ∈ s'.targetMembers target' →
      candidate.unqualified s.known = candidate'.unqualified s.known →
      member.unqualified s.known = member'.unqualified s.known →
      s.ComparesAlike candidate member candidate' member' := by
    intro candidate member candidate' member' offered wanted offered' wanted' candidates members
    have written' := And.intro (spells'.member listed' offered') (spells'.member declared' wanted')
    rw [← respells.known] at written'
    exact tells.comparesAlike (Member.fields_alike candidates).2.1 (Member.fields_alike members).2.1
      ⟨spells.member listed offered, spells.member declared wanted⟩ written'
      (fun d present _ => spells.interface present) (respells.interfaces_written spells')
  have candidates := respells.sourceCandidates_alike same
  refine ⟨respells.constructorsAlike tells (by rw [named]; exact looked) same, ?_, ?_⟩
  · refine (forall₂_mem respells.targets_beside).imp ?_
    rintro member member' ⟨⟨wanted, wanted'⟩, alike⟩ candidate candidate' found found'
    have paired := findSource?_alike candidates alike
    rw [found, found'] at paired
    exact compared (mem_of_findSource? found).1 wanted (mem_of_findSource? found').1 wanted'
      (Option.some.inj paired) alike
  · refine (forall₂_mem (respells.candidates_beside same)).imp ?_
    rintro candidate candidate' ⟨⟨offered, offered'⟩, alike⟩ member member' found found'
    have paired := findTarget?_alike respells.targetMembers_alike alike
    rw [found, found'] at paired
    exact compared offered (List.mem_of_find?_eq_some found) offered'
      (List.mem_of_find?_eq_some found') alike (Option.some.inj paired)

end Respells

end Schema

/-- Containers that are written with their scopes or without them leave the outcome for a type the
same up to spelling if what is compared letter by letter comes to the same: for the constructors
that take the source, for the target members and for the source members. Where there is a plan, the
constructors and the target members must be compared alike; and if the names of the source members
are distinct, this is enough. So the spellings are interchangeable between schemas that are each
written in one way throughout. -/
theorem spellings_interchangeable_iff {s s' : Schema} {target target' : TypeDef}
    (respells : s.Respells s' target target') (options : Options) :
    ((∀ source source', s.sourceOf? target = some source → s'.sourceOf? target' = some source' →
        s.ConstructorsAlike s' target target' source source' ∧
        s.ReadsAlike s' target target' source source' ∧
        s.WritesAlike s' target target' source source') →
      SameOutcome s.known (assemble s target options) (assemble s' target' options)) ∧
    (∀ source source', s.sourceOf? target = some source → s'.sourceOf? target' = some source' →
      (∀ model, assemble s target options = .ok model →
        SameOutcome s.known (assemble s target options) (assemble s' target' options) →
        s.ConstructorsAlike s' target target' source source' ∧
        s.ReadsAlike s' target target' source source') ∧
      (((s.sourceCandidates source).map (·.name)).Nodup →
        s.ConstructorsAlike s' target target' source source' →
        s.ReadsAlike s' target target' source source' →
        SameOutcome s.known (assemble s target options) (assemble s' target' options))) ∧
    (s.TellsContainers → target ∈ s.types → target' ∈ s'.types →
      ∀ spell spell' : String → Namespace, s.Spells spell → s'.Spells spell' →
      SameOutcome s.known (assemble s target options) (assemble s' target' options)) := by
  refine ⟨respells.sameOutcome_of_alike options, ?_, ?_⟩
  · intro source source' known known'
    have same : source.unqualified s.known = source'.unqualified s.known := by
      have found := respells.sourceOf?_alike
      rw [known, known'] at found
      exact Option.some.inj found
    constructor
    · intro model ready outcome
      exact respells.alike_of_sameOutcome same known known' ready outcome
    · intro distinct constructors reads
      refine respells.sameOutcome_of_alike options fun other other' declared declared' => ?_
      obtain rfl := Option.some.inj (known.symm.trans declared)
      obtain rfl := Option.some.inj (known'.symm.trans declared')
      exact ⟨constructors, reads, respells.writesAlike_of_readsAlike same distinct reads⟩
  · intro tells declared declared' spell spell' spells spells'
    exact respells.sameOutcome_of_spells tells options declared declared' spells spells'

/-- A vector of optional texts, with and without scopes. -/
def trackList (qualified : Bool) : Ty :=
  let scope (text : String) : Namespace := if qualified then ⟨text⟩ else .global
  .path ⟨scope "std::vec", "Vec", [.path ⟨scope "std::option", "Option", [.primitive .string]⟩]⟩

def album (qualified : Bool) : TypeDef :=
  { path := .plain ⟨"app"⟩ "Album"
    kind := .structType
    members := [{ name := "tracks", ty := trackList qualified, declaredIn := "app::Album" }] }

def albumView (qualified : Bool) : TypeDef :=
  { path := .plain ⟨"app"⟩ "AlbumView"
    kind := .structType
    members := [{ name := "tracks", ty := trackList qualified, declaredIn := "app::AlbumView" }]
    markers := [.mapFrom (.plain ⟨"app"⟩ "Album")] }

/-- An album and its view, each with or without scopes. -/
def albumSchema (source target : Bool) : Schema :=
  { known := {}, types := [album source, albumView target] }

def defaultScope (name : String) : Namespace :=
  if name = "Vec" then ⟨"std::vec"⟩ else ⟨"std::option"⟩

lemma albumSchema_tells : (albumSchema false false).TellsContainers where
  distinct := by decide
  undeclared path container := by
    obtain ⟨known, listed, named⟩ := Schema.definitionName_of_isContainer container
    have free : ∀ known ∈ (albumSchema false false).known.optional ::
        (albumSchema false false).known.enumerables,
        ((albumSchema false false).find? known.name).isNone = true ∧
          ((albumSchema false false).find? known.definitionName).isNone = true := by decide
    rw [Schema.typeDef?, ← Option.isNone_iff_eq_none]
    rcases named with named | named
    · rw [named]
      exact (free known listed).1
    · rw [named]
      exact (free known listed).2
  unmapped d declared mapped marked path container same := by
    obtain ⟨known, listed, named⟩ := Schema.definitionName_of_isContainer container
    have free : ∀ known ∈ (albumSchema false false).known.optional ::
        (albumSchema false false).known.enumerables,
        "app::Album" ≠ known.name ∧ "app::Album" ≠ known.definitionName := by decide
    have album : mapped.definitionName = "app::Album" := by
      rcases declared with _ | ⟨_, _ | ⟨_, impossible⟩⟩
      · cases marked
      · cases marked
        rfl
      · cases impossible
    rw [← same, album] at named
    rcases named with named | named
    · exact (free known listed).1 named
    · exact (free known listed).2 named

/-- Albums that are written without scopes may be written with scopes. -/
theorem album_view_respelled :
    (albumSchema false false).Respells (albumSchema true true) (albumView false) (albumView true) ∧
    (∃ model, assemble (albumSchema false false) (albumView false) {} = .ok model) ∧
    SameOutcome {} (assemble (albumSchema false false) (albumView false) {})
      (assemble (albumSchema true true) (albumView true) {}) := by
  have respells : (albumSchema false false).Respells (albumSchema true true) (albumView false)
      (albumView true) := ⟨by rfl, by rfl⟩
  refine ⟨respells, ⟨_, by rfl⟩, ?_⟩
  refine (spellings_interchangeable_iff respells {}).2.2 albumSchema_tells
    (List.mem_of_getElem? (i := 1) rfl) (List.mem_of_getElem? (i := 1) rfl) (fun _ => .global)
    defaultScope ?_ ?_
  · unfold Schema.Spells SpelledBy
    decide
  · unfold Schema.Spells SpelledBy
    decide

/-- Where the view alone is written with scopes, its tracks are not assigned any more. -/
theorem album_view_loses_tracks :
    ({ types := [album false, albumView false] } : Builder).build = .ok (albumSchema false false) ∧
    ({ types := [album false, albumView true] } : Builder).build = .ok (albumSchema false true) ∧
    (albumSchema false false).Respells (albumSchema false true) (albumView false) (albumView true) ∧
    (∃ model, assemble (albumSchema false false) (albumView false) {} = .ok model) ∧
    (∃ d, assemble (albumSchema false true) (albumView true) {} = .error [d] ∧
      d.kind = .noMatchingPropertyTypeFound ∧ d.location = ⟨"AlbumView", some "tracks"⟩) ∧
    ¬ SameOutcome {} (assemble (albumSchema false false) (albumView false) {})
      (assemble (albumSchema false true) (albumView true) {}) :=
  ⟨by rfl, by rfl, ⟨by rfl, by rfl⟩, ⟨_, by rfl⟩, ⟨_, by rfl, by rfl, by rfl⟩, fun same => same⟩

end MemberMapping
