import MemberMapping.Proofs.FieldInitialisation
import MemberMapping.Proofs.TypeGraph

/-!
What the inherited part of a target is mapped from.

The base of a mapped type is mapped from a type of its own. Where this is inherited by the source,
the code hands on the part of the source that has it. The parts of the source are searched for it,
and the source is none of them: a base that is mapped from the source type itself gets whatever the
source can be viewed as.
-/

namespace MemberMapping

/-! ## The field for the inherited part -/

namespace Field

variable (names : DeclaredNames) (scope : Namespace)

lemma ty_of_part? {field : Field} {part : BasePart} (held : field.part? names scope = some part) :
    field.ty.ty names scope = .path part.path := by
  rw [part?] at held
  split at held
  · split at held
    · split at held
      · cases held
        assumption
      · cases held
    · cases held
  · cases held

/-- Among fields without faults the one that is marked for the inherited part holds it. -/
lemma findSome?_part? {fields : List Field} {taken : Bool}
    (faultless : faultsFrom names scope taken fields = []) {field : Field} (listed : field ∈ fields)
    (named : field.name.isSome = true) (base : field.isBase = true) :
    taken = false ∧ ∃ part, field.part? names scope = some part ∧
      fields.findSome? (part? names scope) = some part := by
  induction fields generalizing taken with
  | nil => cases listed
  | cons first rest ih =>
    rw [faultsFrom, List.append_eq_nil_iff] at faultless
    rcases List.mem_cons.mp listed with rfl | later
    · obtain ⟨held, _, free⟩ := kind_of_faultless names scope named faultless.1
      rw [base] at held
      obtain ⟨part, found⟩ := Option.isSome_iff_exists.mp held
      have untaken : taken = false := by
        cases taken with
        | false => rfl
        | true => rw [free rfl] at found; cases found
      exact ⟨untaken, part, found, by rw [List.findSome?_cons, found]⟩
    · obtain ⟨free, part, held, found⟩ := ih faultless.2 later
      obtain ⟨untaken, missing⟩ := Bool.or_eq_false_iff.mp free
      have none := Option.isSome_eq_false_iff.mp missing
      refine ⟨untaken, part, held, ?_⟩
      rw [List.findSome?_cons, Option.isNone_iff_eq_none.mp none, found]

end Field

/-! ## Routes and base chains -/

namespace Inventory

variable {root : Namespace} {items : List Item} {inv : Inventory}

lemma writesBases_of_ready (ready : Inventory.ofItems root items = .ok inv) :
    inv.WritesBases ∧ inv.decls.length = inv.schema.types.length := by
  have held := holds_kept ready
  constructor
  · intro d known
    obtain ⟨item, _, decl, found, declares⟩ := exists_beside held.types known
    have fullName : d.fullName = item.fullName :=
      congrArg TypePath.definitionName declares.path
    exact ⟨decl, fullName ▸ found, base_of_declares declares⟩
  · have keys := congrArg List.length held.keys
    rw [Table.keys, List.length_map, List.length_map] at keys
    exact keys.trans held.types.length_eq.symm

lemma checked_of_ready (ready : Inventory.ofItems root items = .ok inv) :
    inv.schema.checkBases = .ok () := by
  obtain ⟨_, built, _⟩ := Survey.inventory_ok ready
  exact (Builder.build_ok built).2.2

lemma Targets.inherited {placed : Scoped StructItem} {target : TypeDef} {decl : Decl}
    (targets : inv.Targets (scopedItems root items) placed target decl) {fields : List Field}
    {trailing : Bool} (written : placed.item.fields = .named fields trailing) {field : Field}
    {name : String} (among : field ∈ fields) (marked : field.isBase = true)
    (called : field.name = some name) :
    decl.shape = .named ∧ ∃ path base source,
      field.ty.ty (Survey.declaredNames (scopedItems root items)) placed.scope = .path path ∧
      decl.base = some ⟨name, field.ty, path⟩ ∧ inv.schema.typeDef? path = some base ∧
      inv.schema.mappedBase? target = some base ∧ base.mapFrom? = some source := by
  have readable := targets.faultless
  rw [written] at readable
  obtain ⟨_, part, held, first⟩ := Field.findSome?_part? _ _ readable among
    (Option.isSome_of_eq_some called) marked
  obtain ⟨called', ty⟩ := Field.written_of_part? _ _ held
  obtain ⟨shape, inherited, _⟩ := placed.item.entry_named
    (Survey.declaredNames (scopedItems root items)) placed.scope written
  have own : decl = (placed.item.entry (Survey.declaredNames (scopedItems root items))
      placed.scope).decl :=
    Decl.eq_of_ownPart targets.item.written (by simp [shape])
  have base : decl.base = some ⟨name, field.ty, part.path⟩ := by
    rw [own, inherited, first, ty]
    cases Option.some.inj (called.symm.trans called')
    rfl
  obtain ⟨mapped, found⟩ := Option.isSome_iff_exists.mp (targets.inherits _ base)
  obtain ⟨direct, itself⟩ := Option.filter_eq_some_iff.mp found
  obtain ⟨source, named⟩ := Option.isSome_iff_exists.mp itself
  rw [Schema.baseOf?, base_of_declares targets.item, base] at direct
  exact ⟨own ▸ shape, part.path, mapped, source, Field.ty_of_part? _ _ held, base, direct, found,
    named⟩

lemma Route.start_of_nil {start last : String} {fields : List FieldName}
    (route : inv.Route start fields last) (none : fields = []) : start = last :=
  (Route.here start).unique route none.symm

lemma Route.along (bases : inv.WritesBases) (checked : inv.schema.checkBases = .ok ())
    {start last : String} {fields : List FieldName} (route : inv.Route start fields last)
    {d : TypeDef} (known : d ∈ inv.schema.types) (named : d.fullName = start)
    {chain : List TypeDef} (leads : inv.schema.BaseChain d chain) :
    ((d :: chain).map (·.fullName))[fields.length]? = some last := by
  -- On the route: its first field and the first link of the chain lead to the same type.
  induction route generalizing d chain with
  | here start => rw [List.length_nil, List.map_cons, List.getElem?_cons_zero, named]
  | @part start last decl base fields declared inherited _ ih =>
    obtain ⟨decl', found, form⟩ := bases d known
    rw [named, declared] at found
    cases found
    rw [inherited, Option.map_some] at form
    obtain ⟨next, direct⟩ := Schema.declared_of_checkBases checked known form
    obtain ⟨listed, called⟩ := Schema.mem_of_find? direct
    have inherits : inv.schema.baseOf? d = some next := by
      rw [Schema.baseOf?, form, Option.bind_some, direct]
    cases leads with
    | ended root => cases root.symm.trans inherits
    | @link _ first rest direct' further =>
      cases Option.some.inj (direct'.symm.trans inherits)
      rw [List.length_cons, List.map_cons, List.getElem?_cons_succ]
      exact ih listed called further

lemma mem_parts_iff (bases : inv.WritesBases) (count : inv.decls.length = inv.schema.types.length)
    (checked : inv.schema.checkBases = .ok ()) {d : TypeDef} (known : d ∈ inv.schema.types)
    {decl : Decl} (declared : inv.decls.get? d.fullName = some decl) (typeName : String) :
    typeName ∈ (inv.parts decl).map (·.typeName) ↔
      ∃ route, route ≠ [] ∧ inv.Route d.fullName route typeName := by
  constructor
  · intro among
    obtain ⟨route, final⟩ := route_upTo declared among
    refine ⟨_, ?_, route⟩
    intro none
    rw [Part.fields, List.map_eq_nil_iff] at none
    rw [none] at final
    cases final
  · rintro ⟨route, some, leads⟩
    obtain ⟨decl', found, form⟩ := bases d known
    cases Option.some.inj (declared.symm.trans found)
    have along := leads.along bases checked known rfl (Schema.chain_bases checked d)
    cases route with
    | nil => exact absurd rfl some
    | cons field rest =>
      rw [List.length_cons, List.map_cons, List.getElem?_cons_succ] at along
      obtain ⟨base, met, rfl⟩ := List.mem_map.mp (List.mem_of_getElem? along)
      rw [Schema.bases, ← count] at met
      exact (part_of_base bases form met).2

lemma not_mem_parts_self (bases : inv.WritesBases)
    (count : inv.decls.length = inv.schema.types.length)
    (checked : inv.schema.checkBases = .ok ())
    (distinct : (inv.schema.types.map (·.fullName)).Nodup) {d : TypeDef}
    (known : d ∈ inv.schema.types) {decl : Decl}
    (declared : inv.decls.get? d.fullName = some decl) :
    d.fullName ∉ (inv.parts decl).map (·.typeName) := by
  intro again
  obtain ⟨route, some, leads⟩ :=
    (mem_parts_iff bases count checked known declared _).mp again
  have chain := Schema.chain_bases checked d
  have along := leads.along bases checked known rfl chain
  have apart := chain.nodup_names distinct known
  cases route with
  | nil => exact some rfl
  | cons field rest =>
    rw [List.length_cons, List.map_cons, List.getElem?_cons_succ] at along
    rw [List.map_cons, List.nodup_cons] at apart
    exact apart.1 (List.mem_of_getElem? along)

end Inventory

/-! ## The matching part -/

/-- What fits an inherited part that is mapped from the type of that name: the source itself if it
is of the type, a part of the source that routes through some fields lead to, and else whatever the
source can be viewed as. -/
inductive Emission.Matches (e : Emission) (typeName : String) : PartSource → Prop
  | whole (same : e.model.sourceFullName = typeName) : e.Matches typeName .whole
  | part {route : List FieldName} (inherited : route ≠ [])
      (leads : e.inventory.Route e.model.sourceFullName route typeName) :
      e.Matches typeName (.part ⟨e.sourceBinding, route⟩)
  | view (apart : ∀ route, ¬ e.inventory.Route e.model.sourceFullName route typeName) :
      e.Matches typeName .view

namespace Emission

variable {e : Emission} {base : TypePath}

lemma partSource_of_part (mapped : e.model.baseSource = some base)
    (among : base.definitionName ∈ (e.inventory.parts e.source).map (·.typeName)) :
    e.partSource = .part ⟨e.sourceBinding,
      Part.fields (Part.upTo base.definitionName (e.inventory.parts e.source))⟩ := by
  have found : (e.inventory.parts e.source).any (·.typeName == base.definitionName) = true := by
    obtain ⟨part, listed, same⟩ := List.mem_map.mp among
    exact List.any_eq_true.mpr ⟨part, listed, beq_iff_eq.mpr same⟩
  simp only [partSource, mapped, found, if_true]

/-- A base that is mapped from no part of the source gets what the source can be viewed as. -/
lemma partSource_of_apart (mapped : e.model.baseSource = some base)
    (apart : base.definitionName ∉ (e.inventory.parts e.source).map (·.typeName)) :
    e.partSource = .view := by
  have missed : (e.inventory.parts e.source).any (·.typeName == base.definitionName) = false := by
    rw [List.any_eq_false]
    intro part listed same
    exact apart (List.mem_map.mpr ⟨part, listed, beq_iff_eq.mp same⟩)
  simp only [partSource, mapped, missed, Bool.false_eq_true, if_false]

/-- The base gets what fits it exactly if it is not mapped from the source type itself. In that case
it gets what the source can be viewed as. -/
lemma matches_iff (bases : e.inventory.WritesBases)
    (count : e.inventory.decls.length = e.inventory.schema.types.length)
    (checked : e.inventory.schema.checkBases = .ok ())
    (distinct : (e.inventory.schema.types.map (·.fullName)).Nodup) {source : TypeDef}
    (known : source ∈ e.inventory.schema.types)
    (named : e.model.sourceFullName = source.fullName)
    (declared : e.inventory.decls.get? source.fullName = some e.source)
    (mapped : e.model.baseSource = some base) :
    (base.definitionName = e.model.sourceFullName → e.partSource = .view) ∧
      (e.Matches base.definitionName e.partSource ↔
        base.definitionName ≠ e.model.sourceFullName) := by
  have apart := Inventory.not_mem_parts_self bases count checked distinct known declared
  have reached := Inventory.mem_parts_iff bases count checked known declared
  have viewed : base.definitionName = e.model.sourceFullName → e.partSource = .view := by
    intro same
    rw [named] at same
    exact partSource_of_apart mapped (same ▸ apart)
  refine ⟨viewed, ?_, ?_⟩
  · intro fits same
    rw [viewed same] at fits
    cases fits with
    | view unreached => exact unreached [] (same ▸ .here _)
  · intro other
    by_cases among : base.definitionName ∈ (e.inventory.parts e.source).map (·.typeName)
    · rw [partSource_of_part mapped among]
      obtain ⟨route, _⟩ := Inventory.route_upTo declared among
      refine .part ?_ (named ▸ route)
      intro none
      rw [Inventory.parts] at none
      rw [none] at route
      exact other (route.start_of_nil rfl ▸ named.symm)
    · rw [partSource_of_apart mapped among]
      refine .view fun route leads => ?_
      rw [named] at leads
      cases route with
      | nil => exact other (leads.start_of_nil rfl ▸ named.symm)
      | cons field rest =>
        exact among ((reached _).mpr ⟨_, List.cons_ne_nil field rest, leads⟩)

end Emission

/-- The base of a struct with an inherited part is mapped from a type of its own. The part is mapped
from what fits it exactly if that type is not the source type itself. Otherwise it is mapped from
what the source can be viewed as, though the source would do. The constructor is printed with a
field for the part, which is mapped from just that. -/
theorem inherited_part_fits_iff {root : Namespace} {items : List Item} {inv : Inventory}
    {options : Options} {model : MappingModel} (ready : Inventory.ofItems root items = .ok inv)
    (generated : model ∈ (generate inv.schema options).models) :
    ∃ placed e, .struct placed ∈ (scopedItems root items).lastItems ∧
      (TypeItem.struct placed).fullName = model.fullName ∧ inv.emission? model = some e ∧
      e.model = model ∧
      ∀ fields trailing field name, placed.item.fields = .named fields trailing →
        field ∈ fields → field.isBase = true → field.name = some name →
        ∃ path base source values,
          field.ty.ty (Survey.declaredNames (scopedItems root items)) placed.scope = .path path ∧
          inv.schema.typeDef? path = some base ∧ base.mapFrom? = some source ∧
          e.code.construction = .fields (some (name, field.ty, e.partSource)) values ∧
          (source.definitionName = model.sourceFullName → e.partSource = .view) ∧
          (e.Matches source.definitionName e.partSource ↔
            source.definitionName ≠ model.sourceFullName) ∧
          ∃ f entry, e.code.Constructs f ∧
            PartSource.Sets e.code.source (name, field.ty, e.partSource) entry ∧
            Token.StandsIn entry f.body := by
  obtain ⟨placed, target, source, decl, form, plans⟩ := Inventory.plans_of_generated ready generated
  obtain rfl := plans.plan
  have targets := plans.targets
  refine ⟨placed, _, targets.held, plans.fullName, plans.emitted, rfl, ?_⟩
  intro fields trailing field name written among marks called
  obtain ⟨shape, path, base, from', ty, own, inSchema, mappedBase, named⟩ :=
    targets.inherited written among marks called
  obtain ⟨bases, count⟩ := Inventory.writesBases_of_ready ready
  have sourceOfBase : (inv.schema.plan target source options).baseSource = some from' := by
    simp only [Schema.plan, mappedBase, Option.bind_some, named]
  have fits := Emission.matches_iff (e := ⟨inv, inv.schema.plan target source options, decl, form⟩)
    bases count (Inventory.checked_of_ready ready) (Inventory.distinct_of_ready ready)
    plans.declared rfl plans.present sourceOfBase
  have built := Emission.construction_of_named
    (e := ⟨inv, inv.schema.plan target source options, decl, form⟩) shape
  rw [own, Option.map_some] at built
  obtain ⟨viewed, precise⟩ := fits
  have constructs := Printing.constructs (Emission.code
    ⟨inv, inv.schema.plan target source options, decl, form⟩)
  obtain ⟨entry, sets, stands⟩ := (built ▸ constructs.built).inherited
  exact ⟨path, base, from', _, ty, inSchema, named, built, viewed, precise, _, entry, constructs,
    sets, stands⟩

/-- The animal of the view of a dog is mapped from the animal of the dog. -/
theorem dogView_part_fits :
    Inventory.ofItems ⟨"crate"⟩ kennel = .ok kennelInventory ∧
    ∃ model ∈ (generate kennelInventory.schema {}).models, model.fullName = "crate::DogView" ∧
      ∃ e base source values, kennelInventory.emission? model = some e ∧
        kennelInventory.schema.typeDef? (.plain ⟨"crate"⟩ "AnimalView") = some base ∧
        base.mapFrom? = some source ∧ source.definitionName ≠ model.sourceFullName ∧
        e.code.construction =
          .fields (some ("animal", .path ⟨false, [.plain "AnimalView"]⟩, e.partSource)) values ∧
        e.Matches source.definitionName e.partSource ∧
        ∃ f entry, e.code.Constructs f ∧ PartSource.Sets e.code.source
            ("animal", .path ⟨false, [.plain "AnimalView"]⟩, e.partSource) entry ∧
          Token.StandsIn entry f.body := by
  have planned : ((generate kennelInventory.schema {}).models.map (·.fullName)).contains
      "crate::DogView" = true := by decide +kernel
  have dogs : ∀ model ∈ (generate kennelInventory.schema {}).models,
      model.fullName = "crate::DogView" → model.sourceFullName = "crate::Dog" := by
    decide +kernel
  have animals : ∀ base ∈ kennelInventory.schema.typeDef? (.plain ⟨"crate"⟩ "AnimalView"),
      ∀ source ∈ base.mapFrom?, source.definitionName = "crate::Animal" := by
    decide +kernel
  obtain ⟨model, generated, called⟩ := List.mem_map.mp (List.contains_iff_mem.mp planned)
  obtain ⟨placed, e, held, same, emitted, _, inherited⟩ :=
    inherited_part_fits_iff kennel_declared generated
  cases dogView_of_held held (same.trans called)
  obtain ⟨path, base, source, values, ty, found, mapped, built, _, fits, printed⟩ :=
    inherited dogViewFields false (.marked ["map_base"] "animal" "AnimalView") "animal" rfl
      List.mem_cons_self (by decide) rfl
  have view : (TypeExpr.path ⟨false, [.plain "AnimalView"]⟩).ty
      (Survey.declaredNames (scopedItems ⟨"crate"⟩ kennel)) ⟨"crate"⟩ =
        .path (.plain ⟨"crate"⟩ "AnimalView") := by
    with_unfolding_all rfl
  cases ty.symm.trans view
  have other : source.definitionName ≠ model.sourceFullName := by
    rw [animals base found source mapped, dogs model generated called]
    decide
  exact ⟨kennel_declared, model, generated, called, e, base, source, values, emitted, found, mapped,
    other, built, fits.mpr other, printed⟩

/-- Views of pets, which are mapped from animals as the view that they inherit from. -/
def pets : List Item :=
  [.struct (.mapped [] "Animal" [.marked [] "id" "i32"]),
    .struct (.mapped [.ident "Animal"] "AnimalView" [.marked [] "id" "i32"]),
    .struct (.mapped [.ident "Animal"] "PetView"
      [.marked ["map_base"] "animal" "AnimalView", .marked [] "id" "i32"])]

def petsInventory : Inventory :=
  (Inventory.ofItems ⟨"crate"⟩ pets).toOption.getD ⟨⟨{}, []⟩, []⟩

lemma pets_declared : Inventory.ofItems ⟨"crate"⟩ pets = .ok petsInventory :=
  Inventory.of_accepted _ (by decide +kernel)

/-- The view in the view of a pet is mapped from animals, and its source is an animal. Yet it does
not get the source. -/
theorem petView_part_viewed :
    Inventory.ofItems ⟨"crate"⟩ pets = .ok petsInventory ∧
    ∃ model ∈ (generate petsInventory.schema {}).models, ∃ e source ty values,
      petsInventory.emission? model = some e ∧ model.baseSource = some source ∧
      source.definitionName = model.sourceFullName ∧
      e.code.construction = .fields (some ("animal", ty, .view)) values ∧
      ¬ e.Matches source.definitionName .view := by
  have planned : ((generate petsInventory.schema {}).models.map (·.typeName)).contains
      "PetView" = true := by decide +kernel
  have viewed : ∀ model ∈ (generate petsInventory.schema {}).models, model.typeName = "PetView" →
      (petsInventory.emission? model).isSome = true ∧ model.baseSource.isSome = true ∧
      ∀ e ∈ petsInventory.emission? model, ∀ source ∈ model.baseSource,
        e.target.shape = .named ∧ e.target.base.map (·.field) = some "animal" ∧
        source.definitionName = model.sourceFullName ∧
        source.definitionName ∉ (e.inventory.parts e.source).map (·.typeName) := by
    decide +kernel
  obtain ⟨model, generated, called⟩ := List.mem_map.mp (List.contains_iff_mem.mp planned)
  obtain ⟨some, mapped, each⟩ := viewed model generated called
  obtain ⟨e, emitted⟩ := Option.isSome_iff_exists.mp some
  obtain ⟨source, named⟩ := Option.isSome_iff_exists.mp mapped
  obtain ⟨shape, held, same, apart⟩ := each e emitted source named
  obtain ⟨part, inherited, field⟩ := Option.map_eq_some_iff.mp held
  obtain ⟨_, rfl⟩ := Inventory.parts_of_emission? emitted
  have view : e.partSource = .view := Emission.partSource_of_apart named apart
  have built := Emission.construction_of_named shape
  rw [inherited, Option.map_some, field, view] at built
  refine ⟨pets_declared, e.model, generated, e, source, part.ty, _, emitted, named, same, built, ?_⟩
  intro fits
  cases fits with
  | view unreached => exact unreached [] (same ▸ .here _)

end MemberMapping
