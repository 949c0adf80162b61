import MemberMapping.Expansion.Emission
import MemberMapping.Proofs.FieldReading
import MemberMapping.Proofs.Generation
import MemberMapping.Proofs.Inventory
import MemberMapping.Proofs.PrintedFunctions
import MemberMapping.Proofs.StatelessAssembly

/-!
Where generated code reads a source member.

The code follows the fields that hold inherited parts to the type that declares the first member of
the name, and reads that type's own field. Resolution passes over members that are ignored, so it
reads the member that was chosen exactly if both are declared in the same type.
-/

namespace MemberMapping

namespace Inventory

/-- The fields lead from a value of the type `start` through inherited parts to one of type
`last`. -/
inductive Route (inv : Inventory) : String → List FieldName → String → Prop
  | here (start : String) : Route inv start [] start
  | part {start last : String} {decl : Decl} {base : BasePart} {fields : List FieldName}
      (declared : inv.decls.get? start = some decl) (inherited : decl.base = some base)
      (rest : Route inv base.path.definitionName fields last) :
      Route inv start (.named base.field :: fields) last

variable {inv : Inventory}

lemma Route.unique {start last other : String} {fields others : List FieldName}
    (one : inv.Route start fields last) (two : inv.Route start others other)
    (same : fields = others) : last = other := by
  induction one generalizing others other with
  | here =>
    cases two with
    | here => rfl
    | part => cases same
  | part declared inherited _ ih =>
    cases two with
    | here => cases same
    | part declared' inherited' rest =>
      cases Option.some.inj (declared.symm.trans declared')
      cases Option.some.inj (inherited.symm.trans inherited')
      exact ih rest (List.cons.inj same).2

lemma route_upTo {limit : Nat} {start typeName : String} {decl : Decl}
    (declared : inv.decls.get? start = some decl)
    (among : typeName ∈ (inv.partsWithin limit decl).map (·.typeName)) :
    inv.Route start (Part.fields (Part.upTo typeName (inv.partsWithin limit decl))) typeName ∧
      (Part.upTo typeName (inv.partsWithin limit decl)).getLast?.map (·.typeName) =
        some typeName := by
  -- Along the parts: the walk stops at the first part of the type, and the step into any other
  -- part is the next one of the route.
  induction limit generalizing start decl with
  | zero => cases among
  | succ limit ih =>
    rw [partsWithin] at among ⊢
    cases inherited : decl.base with
    | none => rw [inherited] at among; cases among
    | some base =>
      simp only [inherited, List.map_cons] at among ⊢
      by_cases here : base.path.definitionName = typeName
      · simp only [Part.upTo, here, if_true]
        refine ⟨.part declared inherited ?_, rfl⟩
        rw [here]
        exact .here typeName
      · cases next : inv.decls.get? base.path.definitionName with
        | none =>
          rw [next] at among
          exact absurd (List.mem_singleton.mp among).symm here
        | some decl' =>
          simp only [next] at among ⊢
          have later := (List.mem_cons.mp among).resolve_left fun same => here same.symm
          obtain ⟨route, last⟩ := ih next later
          simp only [Part.upTo, if_neg here]
          refine ⟨.part declared inherited route, ?_⟩
          cases rest : Part.upTo typeName (inv.partsWithin limit decl') with
          | nil => rw [rest] at last; cases last
          | cons part parts => rw [List.getLast?_cons_cons, ← rest, last]

/-- Every type of the schema is found with its written form, which has the base that the type
has. -/
def WritesBases (inv : Inventory) : Prop :=
  ∀ d ∈ inv.schema.types, ∃ decl, inv.decls.get? d.fullName = some decl ∧
    d.base = decl.base.map (·.path)

lemma Sound.writesBases (sound : inv.Sound) : inv.WritesBases := by
  intro d known
  obtain ⟨decl, declared, describes⟩ := sound.described d known
  exact ⟨decl, declared, describes.base⟩

lemma part_of_base (bases : inv.WritesBases) {limit : Nat} {d base : TypeDef} {decl : Decl}
    (form : d.base = decl.base.map (·.path)) (inherits : base ∈ inv.schema.basesWithin limit d) :
    base ∈ inv.schema.types ∧
      base.fullName ∈ (inv.partsWithin limit decl).map (·.typeName) := by
  induction limit generalizing d decl with
  | zero => cases inherits
  | succ limit ih =>
    rw [Schema.basesWithin] at inherits
    cases direct : inv.schema.baseOf? d with
    | none => rw [direct] at inherits; cases inherits
    | some first =>
      rw [direct] at inherits
      obtain ⟨path, written, known, named⟩ := Schema.mem_of_baseOf? direct
      obtain ⟨part, held, rfl⟩ := Option.map_eq_some_iff.mp (form.symm.trans written)
      obtain ⟨next, declared, described⟩ := bases first known
      rw [named] at declared
      simp only [partsWithin, held, declared, List.map_cons, List.mem_cons]
      rcases List.mem_cons.mp inherits with rfl | further
      · exact ⟨known, Or.inl named⟩
      · obtain ⟨listed, later⟩ := ih described further
        exact ⟨listed, Or.inr later⟩

/-- Every member of a type, inherited or not, is declared by a type of the schema: the type itself
or one that an inherited part has. -/
lemma declared_of_mem_allMembers (sound : inv.Sound) {source : TypeDef} {decl : Decl}
    (known : source ∈ inv.schema.types) (describes : decl.Describes source) {member : Member}
    (present : member ∈ inv.schema.allMembers source) :
    ∃ owner ∈ inv.schema.types, member ∈ owner.members ∧ member.declaredIn = owner.fullName ∧
      (owner.fullName = source.fullName ∨
        owner.fullName ∈ (inv.parts decl).map (·.typeName)) := by
  rcases List.mem_append.mp present with inherited | own
  · obtain ⟨base, listed, held⟩ := List.mem_flatMap.mp inherited
    rw [List.mem_reverse, Schema.bases, ← sound.count] at listed
    obtain ⟨declared, part⟩ := part_of_base sound.writesBases describes.base listed
    exact ⟨base, declared, held, sound.stamped base declared member held, Or.inr part⟩
  · exact ⟨source, known, own, sound.stamped source known member own, Or.inl rfl⟩

end Inventory

/-- Where a value is read, if it is that of a source member. -/
def MemberValue.place? : MemberValue → Option FieldPath
  | cloned place | boxed place | lifted place | mapped place | mappedEach place => some place
  | converted _ place _ => some place
  | parameter _ | unset => none

namespace Emission

/-- The place lies in the source, is reached through inherited parts alone, and is a field of the
type that declares the member, by its name. -/
def Reads (e : Emission) (place : FieldPath) (member : Member) : Prop :=
  ∃ route field owner, place = ⟨e.sourceBinding, route ++ [field]⟩ ∧
    e.inventory.Route e.model.sourceFullName route member.declaredIn ∧
    e.inventory.decls.get? member.declaredIn = some owner ∧ owner.HasField field member.name

/-- The source of a plan with its written form. -/
structure From (e : Emission) (source : TypeDef) : Prop where
  known : source ∈ e.inventory.schema.types
  named : e.model.sourceFullName = source.fullName
  found : e.inventory.schema.typeDef? (.plain e.model.sourceScope e.model.sourceTypeName) =
    some source
  declared : e.inventory.decls.get? source.fullName = some e.source
  describes : e.source.Describes source

/-- The first member of the source by the name that an entry reads, and the first of them that is
not ignored, which is the candidate that the matcher finds for a target member. -/
structure Choice (e : Emission) (source : TypeDef) (entry : MappedMember) (first chosen : Member) :
    Prop where
  named : (e.inventory.schema.allMembers source).find? (·.name == entry.sourceName) = some first
  kept : (mappable (e.inventory.schema.allMembers source)).find? (·.name == entry.sourceName) =
    some chosen
  matched : ∃ target : Member, target.name = entry.name ∧
    findSource? (e.inventory.schema.sourceCandidates source) target = some chosen
  ty : entry.sourceTy = chosen.ty

variable {e : Emission} {source : TypeDef}

lemma directValue_place? (place : FieldPath) (source target : Ty) :
    (directValue place source target).place? = some place := by
  unfold directValue
  split
  · rfl
  · rfl
  · split
    · rfl
    · rfl

/-- However an entry is converted, its value is read at the place of its source member. -/
lemma mappedValue_place? (e : Emission) (entry : MappedMember) :
    (e.mappedValue entry).place? = some (e.sourcePlace entry.sourceName) := by
  rw [mappedValue]
  cases entry.conversion with
  | direct => exact directValue_place? _ _ _
  | converter converter parameters => rfl
  | nested ty => rfl
  | enumerable element target => rfl

lemma sourcePlace_reads (sound : e.inventory.Sound) (from' : e.From source) {name : String}
    {first : Member}
    (found : (e.inventory.schema.allMembers source).find? (·.name == name) = some first) :
    e.Reads (e.sourcePlace name) first := by
  have called : first.name = name := by simpa using List.find?_some found
  obtain ⟨owner, known, held, stamped, position⟩ := Inventory.declared_of_mem_allMembers sound
    from'.known from'.describes (List.mem_of_find?_eq_some found)
  obtain ⟨decl, declared, describes⟩ := sound.described owner known
  have field : decl.HasField (decl.fieldOf name) first.name := called ▸ describes.fields first held
  have declaring : e.declaringType name = owner.fullName := by
    have listed : e.sourceMembers.find? (·.name == name) = some first := by
      simp only [sourceMembers, from'.found, List.find?_append, Schema.members,
        Bool.false_eq_true, if_false, found, Option.some_or]
    simp only [declaringType, listed, Option.map_some, Option.getD_some, stamped]
  -- The route is empty if the source declares the member itself, and else ends in the part that
  -- holds the declaring type.
  by_cases own : owner.fullName = source.fullName
  · have within : e.partsTo name = [] := by
      simp only [partsTo, declaring, from'.named, own, if_true]
    have holder : e.owner name = decl := by
      rw [own] at declared
      simp only [Emission.owner, within, List.getLast?_nil, Option.bind_none, Option.getD_none]
      exact Option.some.inj (from'.declared.symm.trans declared)
    refine ⟨[], decl.fieldOf name, decl, ?_, ?_, stamped ▸ declared, field⟩
    · simp only [sourcePlace, within, holder, Part.fields, List.map_nil]
      rfl
    · rw [stamped, own, from'.named]
      exact .here source.fullName
  · have within : e.partsTo name = Part.upTo owner.fullName (e.inventory.parts e.source) := by
      simp only [partsTo, declaring, from'.named, if_neg own]
    obtain ⟨route, last⟩ := Inventory.route_upTo from'.declared (position.resolve_left own)
    have holder : e.owner name = decl := by
      obtain ⟨part, final, typed⟩ := Option.map_eq_some_iff.mp last
      rw [Emission.owner, within, Inventory.parts, final, Option.bind_some, typed, declared,
        Option.getD_some]
    refine ⟨Part.fields (Part.upTo owner.fullName (e.inventory.parts e.source)),
      decl.fieldOf name, decl, ?_, ?_, stamped ▸ declared, field⟩
    · simp only [sourcePlace, within, holder]
      rfl
    · rw [stamped, from'.named]
      exact route

/-- Two members of a name are read at the same place exactly if one type declares both. -/
lemma reads_iff {place : FieldPath} {first other : Member} (reads : e.Reads place first)
    (called : other.name = first.name) :
    e.Reads place other ↔ first.declaredIn = other.declaredIn := by
  obtain ⟨route, field, owner, rfl, leads, declared, has⟩ := reads
  constructor
  · rintro ⟨route', field', owner', same, leads', _, _⟩
    have fields := congrArg FieldPath.fields same
    exact leads.unique leads' (List.append_inj_left' fields rfl)
  · intro same
    rw [same] at leads declared
    exact ⟨route, field, owner, rfl, leads, declared, called.symm ▸ has⟩

end Emission

lemma Inventory.parts_of_emission? {inv : Inventory} {model : MappingModel} {e : Emission}
    (emitted : inv.emission? model = some e) : e.inventory = inv ∧ e.model = model := by
  obtain ⟨target, _, found⟩ := Option.bind_eq_some_iff.mp emitted
  obtain ⟨source, _, rest⟩ := Option.bind_eq_some_iff.mp found
  cases rest
  exact ⟨rfl, rfl⟩

lemma Inventory.emission?_plan {inv : Inventory} {target source : TypeDef} {written form : Decl}
    (declared : inv.decls.get? target.fullName = some written)
    (present : inv.decls.get? source.fullName = some form) (options : Options) :
    inv.emission? (inv.schema.plan target source options) =
      some ⟨inv, inv.schema.plan target source options, written, form⟩ := by
  have atTarget : inv.decls.get? (TypePath.plain target.scope target.name).definitionName =
      some written := declared
  simp only [emission?, Schema.plan, atTarget, present, Option.bind_eq_bind, Option.bind_some]
  rfl

lemma Inventory.planned_of_generate {inv : Inventory} (sound : inv.Sound) {options : Options}
    {model : MappingModel} (generated : model ∈ (generate inv.schema options).models) :
    ∃ target ∈ inv.schema.types, ∃ source ∈ inv.schema.types, ∃ written form,
      model = inv.schema.plan target source options ∧
      inv.decls.get? source.fullName = some form ∧ form.Describes source ∧
      inv.emission? model = some ⟨inv, model, written, form⟩ := by
  obtain ⟨target, known, _, ready⟩ := assemble_of_mem_generate generated
  obtain ⟨source, mapped, _, rfl⟩ := plan_of_assemble ready
  obtain ⟨path, _, found⟩ := Option.bind_eq_some_iff.mp mapped
  obtain ⟨listed, _⟩ := Schema.mem_of_find? found
  obtain ⟨written, declared, _⟩ := sound.described target known
  obtain ⟨form, present, describes⟩ := sound.described source listed
  exact ⟨target, known, source, listed, written, form, rfl, present, describes,
    emission?_plan declared present options⟩

lemma Inventory.emission?_of_generate {inv : Inventory} (sound : inv.Sound) {options : Options}
    {model : MappingModel} (generated : model ∈ (generate inv.schema options).models) :
    ∃ e target source, inv.emission? model = some e ∧ e.inventory = inv ∧ e.model = model ∧
      e.From source ∧ model.sourceMembers = inv.schema.readings target source := by
  obtain ⟨target, _, source, listed, written, form, rfl, present, describes, emitted⟩ :=
    planned_of_generate sound generated
  exact ⟨_, target, source, emitted, rfl, rfl,
    ⟨listed, rfl, Schema.find?_of_mem sound.distinct listed, present, describes⟩, rfl⟩

lemma Decl.Describes.sourceCandidates {decl : Decl} {source : TypeDef} {s : Schema}
    (describes : decl.Describes source) (named : decl.shape = .named) :
    s.sourceCandidates source = mappable (s.allMembers source) := by
  rcases describes.kind named with inherits | ⟨alone, baseless⟩
  · simp only [Schema.sourceCandidates, Schema.kindMembers, inherits, Schema.members,
      Bool.false_eq_true, if_false]
  · have none : s.bases source = [] := by
      rw [Schema.bases]
      cases s.types.length with
      | zero => rfl
      | succ limit => simp only [Schema.basesWithin, Schema.baseOf?, baseless, Option.bind_none]
    simp only [Schema.sourceCandidates, Schema.kindMembers, alone, Schema.allMembers, none,
      List.reverse_nil, List.flatMap_nil, List.nil_append]

namespace Emission

variable {e : Emission} {source : TypeDef}

lemma exists_choice (from' : e.From source) (named : e.source.shape = .named) {member : Member}
    {entry : MappedMember}
    (read : e.inventory.schema.reading? (e.inventory.schema.sourceCandidates source) member =
      some entry) :
    ∃ first chosen, e.Choice source entry first chosen := by
  obtain ⟨chosen, matched, pairs⟩ := Schema.pairs_of_reading? read
  have candidates : e.inventory.schema.sourceCandidates source =
      mappable (e.inventory.schema.allMembers source) := from'.describes.sourceCandidates named
  obtain ⟨listed, same⟩ := Schema.mem_of_findSource? matched
  rw [← pairs.sourceName] at same
  have kept : (mappable (e.inventory.schema.allMembers source)).find?
      (·.name == entry.sourceName) = some chosen := by
    rw [← candidates, same]
    exact matched
  have held : chosen ∈ e.inventory.schema.allMembers source :=
    (List.mem_filter.mp (candidates ▸ listed)).1
  cases found : (e.inventory.schema.allMembers source).find? (·.name == entry.sourceName) with
  | none =>
    have missed := List.find?_eq_none.mp found chosen held
    simp [pairs.sourceName] at missed
  | some first =>
    exact ⟨first, chosen, found, kept, ⟨member, pairs.name.symm, matched⟩, pairs.sourceTy⟩

lemma Choice.called {entry : MappedMember} {first chosen : Member}
    (choice : e.Choice source entry first chosen) : chosen.name = first.name := by
  have one : first.name = entry.sourceName := by simpa using List.find?_some choice.named
  have other : chosen.name = entry.sourceName := by simpa using List.find?_some choice.kept
  rw [one, other]

end Emission

/-- Each entry of a plan is read at the first member of the source that has its source name, ignored
or not. So the code reads the member that was chosen for the entry exactly if both are declared in
the same type. What is read there is printed as an expression of the code. -/
theorem entry_reads_chosen_iff {root : Namespace} {items : List Item} {inv : Inventory}
    {options : Options} {model : MappingModel} (declared : Inventory.ofItems root items = .ok inv)
    (identifiers : (scopedItems root items).BindIdentifiers)
    (generated : model ∈ (generate inv.schema options).models) :
    ∃ e, inv.emission? model = some e ∧
      (e.source.shape = .named → ∀ entry ∈ model.sourceMembers,
        ∃ source place first chosen, e.From source ∧ (e.mappedValue entry).place? = some place ∧
          e.Choice source entry first chosen ∧ e.Reads place first ∧
          (e.Reads place chosen ↔ first.declaredIn = chosen.declaredIn) ∧
          ∃ expression, e.code.Shows (e.mappedValue entry) expression) := by
  have sound := Inventory.sound_of_ofItems declared identifiers
  obtain ⟨e, target, source, emitted, rfl, rfl, from', readings⟩ :=
    Inventory.emission?_of_generate sound generated
  refine ⟨e, emitted, fun named entry present => ?_⟩
  rw [readings] at present
  obtain ⟨member, _, read⟩ := List.mem_filterMap.mp present
  obtain ⟨first, chosen, choice⟩ := Emission.exists_choice from' named read
  have reads := Emission.sourcePlace_reads sound from' choice.named
  exact ⟨source, e.sourcePlace entry.sourceName, first, chosen, from', e.mappedValue_place? entry,
    choice, reads, Emission.reads_iff reads choice.called, _, Printing.shows e.code _⟩

def introduce : Function :=
  { attributes := []
    front := Code.ofTokens [.ident "fn"]
    name := "introduce"
    generics := []
    parameters :=
      [.typed [] [.token (.ident "name")] (some "name") (.path ⟨false, [.plain "String"]⟩)]
    trailing := false
    result := some (.path ⟨false, [.plain "Person"]⟩)
    conditions := []
    body := []
    ending := none }

/-- Persons hide their names, employees are persons with a name of their own, and badges show the
name of an employee. -/
def staff : List Item :=
  [.struct (.mapped [] "Person" [.marked ["ignore_member"] "name" "String"]),
    .struct (.mapped [] "Employee"
      [.marked ["map_base"] "person" "Person", .marked [] "name" "String"]),
    .struct (.mapped [.ident "Employee"] "Badge" [.marked [] "name" "String"]),
    .impl ⟨[], Code.ofTokens [.ident "impl"], none, .path ⟨false, [.plain "Person"]⟩, [], [],
      [.function introduce]⟩]

def staffInventory : Inventory :=
  (Inventory.ofItems ⟨"crate"⟩ staff).toOption.getD ⟨⟨{}, []⟩, []⟩

lemma staff_declared : Inventory.ofItems ⟨"crate"⟩ staff = .ok staffInventory :=
  Inventory.of_accepted _ (by decide +kernel)

lemma staff_identifiers : (scopedItems ⟨"crate"⟩ staff).BindIdentifiers := by
  intro placed listed function written attributes pattern name ty bound
  cases List.mem_singleton.mp listed
  cases List.mem_singleton.mp written
  cases List.mem_singleton.mp bound
  decide +kernel

/-- The plan of badges is among those that read first members. -/
theorem badge_reads_chosen_iff :
    Inventory.ofItems ⟨"crate"⟩ staff = .ok staffInventory ∧
    (scopedItems ⟨"crate"⟩ staff).BindIdentifiers ∧
    ∃ model ∈ (generate staffInventory.schema {}).models, ∃ e,
      staffInventory.emission? model = some e ∧
      (e.source.shape = .named → ∀ entry ∈ model.sourceMembers,
        ∃ source place first chosen, e.From source ∧ (e.mappedValue entry).place? = some place ∧
          e.Choice source entry first chosen ∧ e.Reads place first ∧
          (e.Reads place chosen ↔ first.declaredIn = chosen.declaredIn) ∧
          ∃ expression, e.code.Shows (e.mappedValue entry) expression) := by
  have planned : (generate staffInventory.schema {}).models.isEmpty = false := by decide +kernel
  obtain ⟨model, generated⟩ := List.isEmpty_eq_false_iff_exists_mem.mp planned
  exact ⟨staff_declared, staff_identifiers, model, generated,
    entry_reads_chosen_iff staff_declared staff_identifiers generated⟩

/-- The name on a badge is read from the person, whose name is ignored, and not from the
employee. -/
theorem badge_reads_ignored_name :
    Inventory.ofItems ⟨"crate"⟩ staff = .ok staffInventory ∧
    ∃ model ∈ (generate staffInventory.schema {}).models, ∃ e,
      staffInventory.emission? model = some e ∧ e.source.shape = .named ∧
      ∃ entry ∈ model.sourceMembers, ∃ source place first chosen, e.From source ∧
        (e.mappedValue entry).place? = some place ∧ e.Choice source entry first chosen ∧
        e.Reads place first ∧ first.isIgnored = true ∧ ¬ e.Reads place chosen := by
  have shadowed : ∀ model ∈ (generate staffInventory.schema {}).models,
      ∀ e ∈ staffInventory.emission? model, e.source.shape = .named ∧
        model.sourceMembers.isEmpty = false ∧
        ∀ source ∈ e.inventory.schema.typeDef?
            (.plain e.model.sourceScope e.model.sourceTypeName),
          ∀ entry ∈ model.sourceMembers,
            ∀ first ∈ (e.inventory.schema.allMembers source).find? (·.name == entry.sourceName),
            ∀ chosen ∈ (mappable (e.inventory.schema.allMembers source)).find?
                (·.name == entry.sourceName),
              first.isIgnored = true ∧ first.declaredIn ≠ chosen.declaredIn := by
    decide +kernel
  have planned : (generate staffInventory.schema {}).models.isEmpty = false := by decide +kernel
  obtain ⟨model, generated⟩ := List.isEmpty_eq_false_iff_exists_mem.mp planned
  have sound := Inventory.sound_of_ofItems staff_declared staff_identifiers
  obtain ⟨e, target, source, emitted, whole, rfl, from', readings⟩ :=
    Inventory.emission?_of_generate sound generated
  obtain ⟨named, filled, hidden⟩ := shadowed e.model generated e emitted
  obtain ⟨entry, present⟩ := List.isEmpty_eq_false_iff_exists_mem.mp filled
  have listed := present
  rw [readings, ← whole] at listed
  obtain ⟨member, _, read⟩ := List.mem_filterMap.mp listed
  obtain ⟨first, chosen, choice⟩ := Emission.exists_choice from' named read
  obtain ⟨ignored, apart⟩ :=
    hidden source from'.found entry present first choice.named chosen choice.kept
  have reads := Emission.sourcePlace_reads (whole ▸ sound) from' choice.named
  refine ⟨staff_declared, e.model, generated, e, emitted, named, entry, present, source,
    e.sourcePlace entry.sourceName, first, chosen, from', e.mappedValue_place? entry, choice, reads,
    ignored, ?_⟩
  exact fun same => apart ((Emission.reads_iff reads choice.called).mp same)

end MemberMapping
