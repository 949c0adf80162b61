import MemberMapping.Proofs.RevisedDeclarations

/-!
The order in which constructors are declared.

A class or a struct may have several constructors that take its source alone. Only the first of them
is asked to hand on a mapping context and the source. So the order of the constructors makes a
difference to a type exactly where one of them does so and another does not, and then it decides
between a plan and a diagnostic.
-/

namespace MemberMapping

/-- The constructor is a written one and takes the source alone. -/
def Constructor.TakesOnly (source : TypeDef) (c : Constructor) : Prop :=
  c.implicit = false ∧ ∃ param, c.params = [param] ∧ isSource source param.ty = true

/-- Of the constructors that take the source alone each hands on what it must, or none does. -/
def Schema.SourceConstructorsAgree (s : Schema) (target source : TypeDef) : Prop :=
  ∀ c ∈ target.constructors, ∀ c' ∈ target.constructors,
    c.TakesOnly source → c'.TakesOnly source →
      handsOnSource s.known source c = handsOnSource s.known source c'

def TypeDef.withConstructors (d : TypeDef) (constructors : List Constructor) : TypeDef :=
  { d with constructors := constructors }

/-- The schema in which the type of a full name has other constructors. -/
def Schema.withConstructors (s : Schema) (name : String) (constructors : List Constructor) :
    Schema :=
  { s with
    types := s.types.map fun d =>
      if d.fullName = name then d.withConstructors constructors else d }

/-! ### The first constructor that takes the source alone -/

section SourceConstructor

variable {target source : TypeDef}

lemma Constructor.takesOnly_iff {c : Constructor} :
    c.TakesOnly source ↔
      (!c.implicit && match c.params with
        | [param] => isSource source param.ty
        | _ => false) = true := by
  rw [TakesOnly, Bool.and_eq_true, Bool.not_eq_true']
  refine and_congr_right fun _ => ?_
  split
  · rename_i param single
    simp [single]
  · rename_i others
    constructor
    · rintro ⟨param, single, _⟩
      exact absurd single (others param)
    · intro impossible
      cases impossible

lemma takesOnly_of_sourceConstructor? {c : Constructor}
    (first : sourceConstructor? target source = some c) :
    c ∈ target.constructors ∧ c.TakesOnly source := by
  have takes := List.find?_some first
  exact ⟨List.mem_of_find?_eq_some first, Constructor.takesOnly_iff.mpr takes⟩

lemma sourceConstructor?_eq_none_iff :
    sourceConstructor? target source = none ↔
      ∀ c ∈ target.constructors, ¬ c.TakesOnly source := by
  rw [sourceConstructor?, List.find?_eq_none]
  exact forall₂_congr fun c _ => not_congr Constructor.takesOnly_iff.symm

variable {s : Schema} {constructors : List Constructor}

lemma blocksSource_of_first {c : Constructor} {rest : List Constructor}
    (takes : c.TakesOnly source) :
    s.blocksSource (target.withConstructors (c :: rest)) source =
      !handsOnSource s.known source c := by
  have first : sourceConstructor? (target.withConstructors (c :: rest)) source = some c :=
    List.find?_cons_of_pos (Constructor.takesOnly_iff.mp takes)
  rw [Schema.blocksSource, first, Option.any_some]

lemma sourceConstructor?_isNone_of_perm (source : TypeDef)
    (perm : constructors.Perm target.constructors) :
    (sourceConstructor? (target.withConstructors constructors) source).isNone =
      (sourceConstructor? target source).isNone := by
  rw [Bool.eq_iff_iff, Option.isNone_iff_eq_none, Option.isNone_iff_eq_none,
    sourceConstructor?_eq_none_iff, sourceConstructor?_eq_none_iff]
  exact forall_congr' fun c => imp_congr_left perm.mem_iff

/-- Where the constructors that take the source alone agree, any of them answers for the type. -/
lemma blocksSource_of_agree (agree : s.SourceConstructorsAgree target source)
    (perm : constructors.Perm target.constructors) :
    s.blocksSource (target.withConstructors constructors) source =
      s.blocksSource target source := by
  have missing := sourceConstructor?_isNone_of_perm source perm
  rw [Schema.blocksSource, Schema.blocksSource]
  cases before : sourceConstructor? target source with
  | none =>
    rw [before, Option.isNone_none, Option.isNone_iff_eq_none] at missing
    rw [missing]
  | some c =>
    cases after : sourceConstructor? (target.withConstructors constructors) source with
    | none =>
      rw [before, after] at missing
      cases missing
    | some c' =>
      obtain ⟨listed, takes⟩ := takesOnly_of_sourceConstructor? before
      obtain ⟨listed', takes'⟩ := takesOnly_of_sourceConstructor? after
      rw [Option.any_some, Option.any_some,
        agree c' (perm.mem_iff.mp listed') c listed takes' takes]

end SourceConstructor

/-! ### The plan and the diagnostics -/

/-- Gives other constructors to the type of a name. The members of a record are the parameters of
its constructors, so records keep theirs. -/
def reconstruction (name : String) (constructors : List Constructor) : Revision where
  ofType d :=
    if d.fullName = name ∧ d.kind ≠ .recordType then d.withConstructors constructors else d
  ofMember m := m
  outline d := by
    split
    · rfl
    · rfl
  members d := by
    rw [List.map_id']
    split
    · rfl
    · rfl
  constructionMembers d record := by
    rw [List.map_id', if_neg fun both => both.2 record]
  name _ := rfl
  markers _ := rfl

namespace Schema

variable {s : Schema} {target : TypeDef} {constructors : List Constructor}

lemma withConstructors_eq_revised (constructors : List Constructor)
    (distinct : (s.types.map (·.fullName)).Nodup)
    (declared : target ∈ s.types) (plain : target.kind ≠ .recordType) :
    s.withConstructors target.fullName constructors =
      s.revised (reconstruction target.fullName constructors) := by
  rw [withConstructors, revised, Schema.mk.injEq]
  refine ⟨rfl, List.map_congr_left fun d listed => ?_⟩
  by_cases same : d.fullName = target.fullName
  · obtain rfl : d = target := List.inj_on_of_nodup_map distinct listed declared same
    simp [reconstruction, plain]
  · simp [reconstruction, same]

lemma reconstruction_target (plain : target.kind ≠ .recordType) :
    (reconstruction target.fullName constructors).ofType target =
      target.withConstructors constructors :=
  if_pos ⟨rfl, plain⟩

section Kept

variable {r : Revision} (kept : ∀ m, r.ofMember m = m) (source : TypeDef)

include kept

lemma targetMembers_kept (d : TypeDef) :
    (s.revised r).targetMembers (r.ofType d) = s.targetMembers d := by
  rw [targetMembers_revised, List.map_id'' kept]

lemma sourceCandidates_kept (d : TypeDef) :
    (s.revised r).sourceCandidates (r.ofType d) = s.sourceCandidates d := by
  rw [sourceCandidates_revised, List.map_id'' kept]

lemma memberComplaint?_kept :
    (s.revised r).memberComplaint? (r.ofType target) (r.ofType source) =
      s.memberComplaint? target source := by
  simp only [memberComplaint?, isUnrelated_revised, targetMembers_kept kept,
    sourceCandidates_kept kept, readingFault?_revised, Diagnostic.noMatchingPropertyFound,
    Revision.name_ofType]

/-- Where members stay the plan stays, up to the constructor that takes the source. -/
lemma plan_kept (options : Options) :
    (s.revised r).plan (r.ofType target) (r.ofType source) options =
      { s.plan target source options with
        generateSecondaryConstructor := (sourceConstructor? (r.ofType target) source).isNone } := by
  have baseType : ((s.mappedBase? target).map r.ofType).map (·.path) =
      (s.mappedBase? target).map (·.path) := by
    simp [Function.comp_def]
  have baseSource : ((s.mappedBase? target).map r.ofType).bind (·.mapFrom?) =
      (s.mappedBase? target).bind (·.mapFrom?) := by
    cases s.mappedBase? target <;> simp
  simp only [plan, readings, writings, scopesMet, targetMembers_kept kept,
    sourceCandidates_kept kept, reading?_revised, writing?_revised, mappedBase?_revised,
    Revision.sourceConstructor?_ofType, Revision.scope_ofType, Revision.kind_ofType,
    Revision.name_ofType, Revision.fullName_ofType, Revision.markers_ofType, Option.isSome_map,
    baseType, baseSource]
  rfl

end Kept

lemma outcome_eq_iff (said : Diagnostics) (d : Diagnostic) (plan : MappingModel)
    (more more' : Bool) :
    (if (said ++ if more then [d] else []) = [] then Except.ok plan
      else .error (said ++ if more then [d] else [])) =
      (if (said ++ if more' then [d] else []) = [] then Except.ok plan
        else .error (said ++ if more' then [d] else [])) ↔ more = more' := by
  have longer : said ++ [d] ≠ said := by
    intro same
    simpa using congrArg List.length same
  by_cases silent : said = [] <;> cases more <;> cases more' <;> simp [silent, longer, longer.symm]

variable (options : Options)

/-- Reordering the constructors of a class or a struct makes a difference exactly where it makes
one to the constructor that answers for the source. -/
lemma assemble_reordered_iff (distinct : (s.types.map (·.fullName)).Nodup)
    (declared : target ∈ s.types) (plain : target.kind ≠ .recordType)
    (perm : constructors.Perm target.constructors) :
    assemble (s.withConstructors target.fullName constructors)
        (target.withConstructors constructors) options = assemble s target options ↔
      ∀ source, s.sourceOf? target = some source →
        s.blocksSource (target.withConstructors constructors) source =
          s.blocksSource target source := by
  rw [withConstructors_eq_revised constructors distinct declared plain,
    ← reconstruction_target plain]
  have stays : ∀ m, (reconstruction target.fullName constructors).ofMember m = m := fun _ => rfl
  have answers := fun source => sourceConstructor?_isNone_of_perm source perm
  rw [← reconstruction_target plain] at answers
  -- Only these two facts about the revision are used below: members stay, and so does whether some
  -- constructor answers for the source.
  generalize reconstruction target.fullName constructors = r at stays answers
  have found := s.sourceOf?_revised r target
  cases known : s.sourceOf? target with
  | none =>
    rw [known] at found
    rw [assemble_of_undeclared options known, assemble_of_undeclared options found]
    simp [Diagnostic.mapFromAttributeNotFound]
  | some source =>
    rw [known] at found
    have blocked : (s.revised r).blocksSource (r.ofType target) (r.ofType source) =
        s.blocksSource (r.ofType target) source := by
      rw [blocksSource, Revision.sourceConstructor?_ofType, Revision.handsOnSource_ofType]
      rfl
    have named : Diagnostic.missingConstructorArgument (r.ofType target) (r.ofType source) =
        .missingConstructorArgument target source := by
      simp only [Diagnostic.missingConstructorArgument, Revision.name_ofType]
    have planned : (s.revised r).plan (r.ofType target) (r.ofType source) options =
        s.plan target source options := by
      rw [plan_kept stays, answers]
      rfl
    rw [assemble_of_declared options known, assemble_of_declared options found, complaints_eq,
      complaints_eq, memberComplaint?_kept stays, planned, blocked, named, outcome_eq_iff]
    simp

/-- The outcome is the same for every order exactly if the constructors that take the source alone
agree. -/
lemma reordered_free_iff (distinct : (s.types.map (·.fullName)).Nodup)
    (declared : target ∈ s.types) (plain : target.kind ≠ .recordType) :
    (∀ constructors : List Constructor, constructors.Perm target.constructors →
      assemble (s.withConstructors target.fullName constructors)
        (target.withConstructors constructors) options = assemble s target options) ↔
      ∀ source, s.sourceOf? target = some source → s.SourceConstructorsAgree target source := by
  constructor
  · intro free source known c listed c' listed' takes takes'
    -- Each of the two constructors answers for the type in an order that puts it first.
    have answers : ∀ first ∈ target.constructors, first.TakesOnly source →
        (!handsOnSource s.known source first) = s.blocksSource target source := by
      intro first listed takes
      obtain ⟨before, after, split⟩ := List.append_of_mem listed
      have perm : (first :: (before ++ after)).Perm target.constructors := by
        rw [split]
        exact List.perm_middle.symm
      have same := (assemble_reordered_iff options distinct declared plain perm).mp (free _ perm)
      rw [← same source known, blocksSource_of_first takes]
    have both := (answers c listed takes).trans (answers c' listed' takes').symm
    exact Bool.not_inj both
  · intro agree constructors perm
    refine (assemble_reordered_iff options distinct declared plain perm).mpr ?_
    intro source known
    exact blocksSource_of_agree (agree source known) perm

end Schema

/-! ### Reordered declarations -/

@[simp] lemma TypeDef.stamped_stamped (d : TypeDef) : d.stamped.stamped = d.stamped := by
  simp [stamped, fullName]

/-- Constructors that note their type still do so in another order. -/
lemma TypeDef.stamped_withConstructors {d : TypeDef} {constructors : List Constructor}
    (noted : d.stamped = d) (perm : constructors.Perm d.constructors) :
    (d.withConstructors constructors).stamped = d.withConstructors constructors := by
  have members : List.map _ d.members = d.members := congrArg TypeDef.members noted
  have all : List.map _ d.constructors = d.constructors := congrArg TypeDef.constructors noted
  have each := List.map_inj_left.mp (all.trans (List.map_id d.constructors).symm)
  have kept := List.map_congr_left fun c listed => each c (perm.mem_iff.mp listed)
  rw [List.map_id] at kept
  simp only [stamped, withConstructors, mk.injEq, true_and, and_true]
  exact ⟨members, kept⟩

/-- A built schema with the constructors of a type in another order is built, too. -/
lemma Builder.exists_build_reordered {b : Builder} {s : Schema} (built : b.build = .ok s)
    {target : TypeDef} (declared : target ∈ s.types) (plain : target.kind ≠ .recordType)
    {constructors : List Constructor} (perm : constructors.Perm target.constructors) :
    ∃ b' : Builder, b'.build = .ok (s.withConstructors target.fullName constructors) := by
  obtain ⟨stamps, distinct, checked⟩ := build_ok built
  have noted : ∀ d ∈ s.types, d.stamped = d := by
    intro d listed
    rw [stamps] at listed
    obtain ⟨written, _, rfl⟩ := List.mem_map.mp listed
    exact written.stamped_stamped
  have revised := Schema.withConstructors_eq_revised constructors distinct declared plain
  refine ⟨⟨s.known, (s.withConstructors target.fullName constructors).types⟩,
    build_eq_ok_iff.mpr ⟨?_, ?_, ?_⟩⟩
  · rw [revised, Schema.revised, List.map_map]
    simpa only [Function.comp_def, Revision.fullName_ofType] using distinct
  · rw [Schema.withConstructors, List.map_map, Schema.mk.injEq]
    refine ⟨rfl, List.map_congr_left fun d listed => ?_⟩
    rw [Function.comp_apply]
    by_cases same : d.fullName = target.fullName
    · obtain rfl : d = target := List.inj_on_of_nodup_map distinct listed declared same
      rw [if_pos rfl, TypeDef.stamped_withConstructors (noted d listed) perm]
    · rw [if_neg same, noted d listed]
  · rw [revised]
    exact (s.checkBases_revised_iff _).mpr checked

/-- In a built schema, reordering the constructors of a class or a struct gives a built schema, and
the same outcome for the type exactly if the first constructors that take its source alone agree in
whether they hand on what they must. So the order makes no difference exactly if all constructors
that take the source alone agree. -/
theorem constructor_order_free_iff {b : Builder} {s : Schema} (built : b.build = .ok s)
    {target : TypeDef} (declared : target ∈ s.types) (plain : target.kind ≠ .recordType)
    (options : Options) :
    (∀ constructors : List Constructor, constructors.Perm target.constructors →
      (∃ b' : Builder, b'.build = .ok (s.withConstructors target.fullName constructors)) ∧
      (assemble (s.withConstructors target.fullName constructors)
          (target.withConstructors constructors) options = assemble s target options ↔
        ∀ source, s.sourceOf? target = some source →
          s.blocksSource (target.withConstructors constructors) source =
            s.blocksSource target source)) ∧
    ((∀ constructors : List Constructor, constructors.Perm target.constructors →
        assemble (s.withConstructors target.fullName constructors)
          (target.withConstructors constructors) options = assemble s target options) ↔
      ∀ source, s.sourceOf? target = some source → s.SourceConstructorsAgree target source) := by
  obtain ⟨_, distinct, _⟩ := Builder.build_ok built
  refine ⟨?_, Schema.reordered_free_iff options distinct declared plain⟩
  intro constructors perm
  exact ⟨Builder.exists_build_reordered built declared plain perm,
    Schema.assemble_reordered_iff options distinct declared plain perm⟩

def parcel : TypeDef :=
  { path := .plain ⟨"app"⟩ "Parcel"
    kind := .structType
    members := [{ name := "weight", ty := .primitive .i32 }] }

/-- A constructor that takes a parcel and hands on arguments of the given types. -/
def fromParcel (initializer : Option (List (Option Ty))) : Constructor :=
  { params := [{ name := "parcel", ty := parcel.ty, kind := .parameter }]
    initializer := initializer }

/-- It hands on a context and the parcel. -/
def handingOn : Constructor :=
  fromParcel (some [some (.path (.plain ⟨"mapto"⟩ "MappingContext")), some parcel.ty])

def keeping : Constructor := fromParcel none

def weighing : Constructor :=
  { params := [{ name := "weight", ty := .primitive .i32, kind := .parameter }] }

def parcelView (constructors : List Constructor) : TypeDef :=
  { path := .plain ⟨"app"⟩ "ParcelView"
    kind := .structType
    members := [{ name := "weight", ty := .primitive .i32 }]
    constructors := constructors
    markers := [.mapFrom parcel.path] }

def parcels (constructors : List Constructor) : Builder :=
  { types := [parcel, parcelView constructors] }

def parcelSchema (constructors : List Constructor) : Schema :=
  { known := {}, types := (parcels constructors).types.map TypeDef.stamped }

/-- Two constructors that both hand on the parcel, with another between them. -/
def agreeing : List Constructor := [handingOn, weighing, handingOn]

/-- Constructors that agree may stand in any order. -/
theorem parcel_view_order_free :
    (parcels agreeing).build = .ok (parcelSchema agreeing) ∧
    (parcelView agreeing).stamped ∈ (parcelSchema agreeing).types ∧
    (parcelView agreeing).stamped.kind ≠ .recordType ∧
    ∀ constructors : List Constructor,
      constructors.Perm (parcelView agreeing).stamped.constructors →
      assemble ((parcelSchema agreeing).withConstructors "app::ParcelView" constructors)
          ((parcelView agreeing).stamped.withConstructors constructors) {} =
        assemble (parcelSchema agreeing) (parcelView agreeing).stamped {} := by
  have built : (parcels agreeing).build = .ok (parcelSchema agreeing) := by rfl
  have listed : (parcelView agreeing).stamped ∈ (parcelSchema agreeing).types :=
    List.mem_of_getElem? (i := 1) rfl
  have plain : (parcelView agreeing).stamped.kind ≠ .recordType := by decide
  refine ⟨built, listed, plain, (constructor_order_free_iff built listed plain {}).2.mpr ?_⟩
  intro source known
  obtain rfl : parcel.stamped = source := by
    have found : (parcelSchema agreeing).sourceOf? (parcelView agreeing).stamped =
        some parcel.stamped := by rfl
    exact Option.some.inj (found.symm.trans known)
  have handed : ∀ c ∈ (parcelView agreeing).stamped.constructors,
      c.TakesOnly parcel.stamped → handsOnSource {} parcel.stamped c = true := by
    intro c present takes
    rcases present with _ | ⟨_, _ | ⟨_, _ | ⟨_, impossible⟩⟩⟩
    · rfl
    · obtain ⟨_, param, single, isParcel⟩ := takes
      cases single
      cases isParcel
    · rfl
    · cases impossible
  intro c present c' present' takes takes'
  exact (handed c present takes).trans (handed c' present' takes').symm

/-- A constructor that hands on the parcel answers for one that does not, where it stands first;
where the other stands first, the type gets no plan. -/
theorem parcel_view_order_matters :
    (parcels [handingOn, keeping]).build = .ok (parcelSchema [handingOn, keeping]) ∧
    (parcels [keeping, handingOn]).build = .ok (parcelSchema [keeping, handingOn]) ∧
    [keeping, handingOn].Perm [handingOn, keeping] ∧
    (∃ model, assemble (parcelSchema [handingOn, keeping])
      (parcelView [handingOn, keeping]).stamped {} = .ok model) ∧
    assemble (parcelSchema [keeping, handingOn]) (parcelView [keeping, handingOn]).stamped {} =
      .error [.missingConstructorArgument (parcelView [keeping, handingOn]) parcel] :=
  ⟨by rfl, by rfl, .swap _ _ _, ⟨_, by rfl⟩, by rfl⟩

end MemberMapping
