import MemberMapping.Proofs.Placement
import MemberMapping.Proofs.PrintedFunctions
import MemberMapping.Proofs.ReportedFaults
import MemberMapping.Proofs.SourceAccess
import MemberMapping.Proofs.UpdateAgreement

/-!
What the generated code sets the fields of a struct to.

The code lists the fields as they are declared, and what it sets each of them to comes from the
plan. A plan that was resolved without complaints takes every member of the target once: it is read
from the source or it is a parameter, unless it is ignored. So the fields are set once each, and in
the way in which their members are taken.
-/

namespace MemberMapping

/-! ## Members of a plan -/

def MappingModel.Reads (model : MappingModel) (name : String) : Prop :=
  ∃ entry ∈ model.sourceMembers, entry.name = name

def MappingModel.Takes (model : MappingModel) (name : String) : Prop :=
  ∃ extra ∈ model.extraParameters, extra.name = name

/-- What becomes of a member in a plan: one of three things, and none of the others. -/
inductive MappingModel.Fate (model : MappingModel) (member : Member) : Prop
  | ignored (marked : member.isIgnored = true) (unread : ¬ model.Reads member.name)
      (left : ¬ model.Takes member.name)
  | read (kept : member.isIgnored = false) (reads : model.Reads member.name)
      (left : ¬ model.Takes member.name)
  | parameter (kept : member.isIgnored = false) (takes : model.Takes member.name)
      (unread : ¬ model.Reads member.name)

namespace Schema

variable {s : Schema} {target source : TypeDef} {options : Options}

/-- A member that is taken goes by its name alone. -/
lemma eq_of_targetMembers (distinct : ((s.targetMembers target).map (·.name)).Nodup)
    {member other : Member} (present : member ∈ s.targetMembers target)
    (listed : other ∈ s.targetMembers target) (same : other.name = member.name) :
    other = member :=
  List.inj_on_of_nodup_map distinct listed present same

lemma target_of_planned {name : String} (planned : (s.plan target source options).Reads name ∨
    (s.plan target source options).Takes name) :
    ∃ member ∈ s.targetMembers target, member.name = name := by
  rcases planned with ⟨entry, listed, rfl⟩ | ⟨extra, listed, rfl⟩
  · obtain ⟨member, present, read⟩ := List.mem_filterMap.mp listed
    obtain ⟨_, _, pairs⟩ := pairs_of_reading? read
    exact ⟨member, present, pairs.name.symm⟩
  · obtain ⟨member, present, taken⟩ := List.mem_filterMap.mp listed
    exact ⟨member, present, (name_of_extraParameter? taken).symm⟩

lemma reads_or_takes (faultless : s.complaints target source = [])
    (distinct : ((s.targetMembers target).map (·.name)).Nodup) {member : Member}
    (present : member ∈ s.targetMembers target) :
    ((s.plan target source options).Reads member.name ∧
        ¬ (s.plan target source options).Takes member.name) ∨
      ((s.plan target source options).Takes member.name ∧
        ¬ (s.plan target source options).Reads member.name) := by
  cases read : s.reading? (s.sourceCandidates source) member with
  | some entry =>
    obtain ⟨_, _, pairs⟩ := pairs_of_reading? read
    refine .inl ⟨⟨entry, List.mem_filterMap.mpr ⟨member, present, read⟩, pairs.name⟩, ?_⟩
    rintro ⟨extra, listed, same⟩
    obtain ⟨other, known, taken⟩ := List.mem_filterMap.mp listed
    have again : other = member :=
      eq_of_targetMembers distinct present known ((name_of_extraParameter? taken).symm.trans same)
    rw [again, (readingFault?_of_reading? target read).2] at taken
    cases taken
  | none =>
    have left := extraParameter?_of_none read (unblamed_of_faultless faultless present)
    refine .inr ⟨⟨_, List.mem_filterMap.mpr ⟨member, present, left⟩, rfl⟩, ?_⟩
    rintro ⟨entry, listed, same⟩
    obtain ⟨other, known, found⟩ := List.mem_filterMap.mp listed
    obtain ⟨_, _, pairs⟩ := pairs_of_reading? found
    have again : other = member :=
      eq_of_targetMembers distinct present known (pairs.name.symm.trans same)
    rw [again, read] at found
    cases found

end Schema

/-! ## The target of a plan -/

/-- What is known of the type that a plan is for and of how it is written. -/
structure Inventory.Targets (inv : Inventory) (items : ScopedItems) (placed : Scoped StructItem)
    (target : TypeDef) (decl : Decl) : Prop where
  held : .struct placed ∈ items.lastItems
  declared : inv.decls.get? target.fullName = some decl
  item : (TypeItem.struct placed).Declares (Survey.declaredNames items) target decl
  faultless : placed.item.fields.faults (Survey.declaredNames items) placed.scope = []
  /-- What it inherits is left to a mapped base. -/
  inherits : ∀ part, decl.base = some part → (inv.schema.mappedBase? target).isSome = true

namespace Inventory

variable {root : Namespace} {items : List Item} {inv : Inventory}

lemma faultless (ready : Inventory.ofItems root items = .ok inv) :
    (scopedItems root items).faultsBy StructItem.seemsMapped = [] := by
  by_contra some
  rw [ofItems_error rfl some] at ready
  cases ready

lemma distinct_of_ready (ready : Inventory.ofItems root items = .ok inv) :
    (inv.schema.types.map (·.fullName)).Nodup := by
  obtain ⟨_, built, _⟩ := Survey.inventory_ok ready
  exact (Builder.build_ok built).2.1

lemma mapFrom?_of_declares {names : DeclaredNames} {item : TypeItem} {d : TypeDef} {decl : Decl}
    (declares : item.Declares names d decl) :
    d.mapFrom?.isSome = item.isMapped StructItem.seemsMapped := by
  rw [← item.entry_mapFrom? names]
  exact congrArg (·.mapFrom?.isSome) declares.definition

lemma inherits_of_declares {names : DeclaredNames} {item : TypeItem} {d : TypeDef} {decl : Decl}
    (declares : item.Declares names d decl) : decl.base = (item.entry names).decl.base := by
  rw [← decl.ownPart_base, declares.written]
  exact Decl.ownPart_base _

lemma base_of_declares {names : DeclaredNames} {item : TypeItem} {d : TypeDef} {decl : Decl}
    (declares : item.Declares names d decl) : d.base = decl.base.map (·.path) := by
  have definition : d.ownPart.base = _ := congrArg TypeDef.base declares.definition
  rw [inherits_of_declares declares]
  refine definition.trans ?_
  cases item with
  | struct placed => exact placed.item.entry_base names placed.scope
  | enum placed => rfl
  | trait placed => rfl

lemma mappedBase?_of_ready (ready : Inventory.ofItems root items = .ok inv)
    {placed : Scoped StructItem} (held : .struct placed ∈ (scopedItems root items).lastItems)
    {target : TypeDef} {decl : Decl}
    (declares : (TypeItem.struct placed).Declares (Survey.declaredNames (scopedItems root items))
      target decl)
    (mapped : placed.item.seemsMapped = true) {part : BasePart} (inherits : decl.base = some part) :
    (inv.schema.mappedBase? target).isSome = true := by
  have written : (placed.item.entry (Survey.declaredNames (scopedItems root items))
      placed.scope).decl.base = some part :=
    (inherits_of_declares declares).symm.trans inherits
  have base : target.base = some part.path := by
    rw [base_of_declares declares, inherits, Option.map_some]
  have links := (List.append_eq_nil_iff.mp (faultless ready)).2
  have unblamed := List.filterMap_eq_nil_iff.mp links _ held
  simp only [ScopedItems.linkFault?, TypeItem.entry, written] at unblamed
  cases found : (scopedItems root items).kept.get? part.path.definitionName with
  | none => rw [found] at unblamed; cases unblamed
  | some item =>
    have named := (scopedItems root items).fullName_of_kept (Table.mem_of_get? found)
    have listed : item ∈ (scopedItems root items).kept.values :=
      List.mem_map.mpr ⟨_, Table.mem_of_get? found, rfl⟩
    obtain ⟨d, known, _, _, base'⟩ := exists_beside (holds_kept ready).types.flip listed
    have fullName : d.fullName = part.path.definitionName :=
      (congrArg TypePath.definitionName base'.path).trans named
    have inSchema : inv.schema.typeDef? part.path = some d := by
      rw [Schema.typeDef?, ← fullName]
      exact Schema.find?_of_mem (distinct_of_ready ready) known
    have alsoMapped : d.mapFrom?.isSome = true := by
      have heir : (TypeItem.struct placed).isMapped StructItem.seemsMapped = true := mapped
      rw [mapFrom?_of_declares base']
      by_contra unmapped
      simp [found, heir, unmapped] at unblamed
    simp [Schema.mappedBase?, Schema.baseOf?, base, inSchema, alsoMapped]

lemma targets_of_ready (ready : Inventory.ofItems root items = .ok inv) {target : TypeDef}
    (known : target ∈ inv.schema.types) (mapped : target.mapFrom?.isSome = true) :
    ∃ placed decl, inv.Targets (scopedItems root items) placed target decl := by
  obtain ⟨item, held, decl, found, declares⟩ := exists_beside (holds_kept ready).types known
  rw [ScopedItems.values_kept] at held
  rw [mapFrom?_of_declares declares] at mapped
  cases item with
  | enum placed => cases mapped
  | trait placed => cases mapped
  | struct placed =>
    have listed := (scopedItems root items).mem_of_get?_kept
      ((scopedItems root items).mem_lastItems_iff.mp held)
    have own := (List.append_eq_nil_iff.mp
      (List.append_eq_nil_iff.mp (faultless ready)).1).1
    have unblamed := List.flatMap_eq_nil_iff.mp own _ listed
    refine ⟨placed, decl, held, ?_, declares, (List.append_eq_nil_iff.mp unblamed).2, ?_⟩
    · rw [TypeDef.fullName, declares.path]
      exact found
    · exact fun part inherits => mappedBase?_of_ready ready held declares mapped inherits

/-- Where a model comes from: it is the plan of a type, which is that of a held struct, for a source
that nothing is said against. Its code is made of it and of how both types are written. -/
structure Plans (inv : Inventory) (items : ScopedItems) (options : Options) (model : MappingModel)
    (placed : Scoped StructItem) (target source : TypeDef) (decl form : Decl) : Prop where
  known : target ∈ inv.schema.types
  mapped : inv.schema.sourceOf? target = some source
  declared : source ∈ inv.schema.types
  faultless : inv.schema.complaints target source = []
  plan : model = inv.schema.plan target source options
  targets : inv.Targets items placed target decl
  present : inv.decls.get? source.fullName = some form
  fullName : (TypeItem.struct placed).fullName = target.fullName
  emitted : inv.emission? model = some ⟨inv, model, decl, form⟩

lemma plans_of_generated {options : Options} {model : MappingModel}
    (ready : Inventory.ofItems root items = .ok inv)
    (generated : model ∈ (generate inv.schema options).models) :
    ∃ placed target source decl form,
      inv.Plans (scopedItems root items) options model placed target source decl form := by
  obtain ⟨target, known, _, assembled⟩ := assemble_of_mem_generate generated
  obtain ⟨source, mapped, faultless, rfl⟩ := plan_of_assemble assembled
  obtain ⟨path, marked, found⟩ := Option.bind_eq_some_iff.mp mapped
  have declared := (Schema.mem_of_find? found).1
  obtain ⟨form, present⟩ := (listed_of_ofItems ready).written source declared
  obtain ⟨placed, decl, targets⟩ :=
    targets_of_ready ready known (Option.isSome_of_eq_some marked)
  have fullName : (TypeItem.struct placed).fullName = target.fullName :=
    (congrArg TypePath.definitionName targets.item.path).symm
  exact ⟨placed, target, source, decl, form, known, mapped, declared, faultless, rfl, targets,
    present, fullName, emission?_plan targets.declared present options⟩

end Inventory

/-! ## Named fields -/

section Named

variable {inv : Inventory} {items : ScopedItems} {placed : Scoped StructItem} {target : TypeDef}
  {decl : Decl} {fields : List Field} {trailing : Bool}

structure Inventory.Named (inv : Inventory) (names : DeclaredNames) (scope : Namespace)
    (fields : List Field) (target : TypeDef) (decl : Decl) : Prop where
  shape : decl.shape = .named
  base : decl.base = fields.findSome? (Field.part? names scope)
  members : decl.members =
    (fields.filterMap (Field.member? names scope)).map fun m => (m.member.name, m.decl)
  targets : inv.schema.targetMembers target =
    mappable ((fields.filterMap (Field.member? names scope)).map fun m =>
      { m.member with declaredIn := target.fullName })

lemma Inventory.Targets.named (targets : inv.Targets items placed target decl)
    (form : placed.item.fields = .named fields trailing) (distinct : Field.Distinct fields) :
    inv.Named (Survey.declaredNames items) placed.scope fields target decl := by
  obtain ⟨shape, base, members, own, _, kind⟩ :=
    placed.item.entry_named (Survey.declaredNames items) placed.scope form
  have written : decl = (placed.item.entry (Survey.declaredNames items) placed.scope).decl :=
    Decl.eq_of_ownPart targets.item.written (by simp [shape])
  have apart := distinct.members (Survey.declaredNames items) placed.scope
  refine ⟨written ▸ shape, written ▸ base, ?_, ?_⟩
  · rw [written, members]
    have all := Table.foldl_set_of_distinct (fun m : DeclaredMember => m.member.name)
      (fun m => m.decl) (t := []) apart fun _ _ => List.not_mem_nil
    exact all
  · have fullName : (placed.item.entry (Survey.declaredNames items) placed.scope).definition.fullName
        = target.fullName :=
      (congrArg TypeDef.fullName targets.item.definition).symm
    have listed : target.members =
        (fields.filterMap (Field.member? (Survey.declaredNames items) placed.scope)).map fun m =>
          { m.member with declaredIn := target.fullName } := by
      have same : target.ownPart.members = _ := congrArg TypeDef.members targets.item.definition
      refine same.trans ?_
      simp only [TypeDef.ownPart, TypeDef.stamped, TypeItem.entry, own, fullName, List.map_map]
      rfl
    have sameKind : target.kind = _ :=
      (congrArg TypeDef.kind targets.item.definition : target.ownPart.kind = _).trans kind
    rw [← listed, Schema.targetMembers, Schema.kindMembers, sameKind]
    cases held : fields.findSome? (Field.part? (Survey.declaredNames items) placed.scope) with
    | none => rfl
    | some part =>
      rw [targets.inherits part (by rw [written, base, held])]
      rfl

namespace Inventory.Named

variable {names : DeclaredNames} {scope : Namespace} {source : TypeDef} {options : Options}
  (named : inv.Named names scope fields target decl) (distinct : Field.Distinct fields)

include named distinct

lemma targets_distinct : ((inv.schema.targetMembers target).map (·.name)).Nodup := by
  rw [named.targets]
  refine List.Nodup.sublist (List.filter_sublist.map _) ?_
  rw [List.map_map]
  exact distinct.members names scope

lemma mem_targets_iff {m : DeclaredMember}
    (listed : m ∈ fields.filterMap (Field.member? names scope)) :
    (∃ member ∈ inv.schema.targetMembers target, member.name = m.member.name) ↔
      m.member.isIgnored = false := by
  rw [named.targets]
  constructor
  · rintro ⟨member, present, same⟩
    obtain ⟨known, kept⟩ := List.mem_filter.mp present
    obtain ⟨other, listed', rfl⟩ := List.mem_map.mp known
    have again : other = m :=
      List.inj_on_of_nodup_map (distinct.members names scope) listed' listed same
    rw [Bool.not_eq_true', again] at kept
    exact kept
  · intro kept
    refine ⟨_, List.mem_filter.mpr ⟨List.mem_map.mpr ⟨m, listed, rfl⟩, ?_⟩, rfl⟩
    rw [Bool.not_eq_true']
    exact kept

/-- With nothing said against the mapping, the member of a field is ignored, or it is either read or
a parameter. -/
lemma fate (faultless : inv.schema.complaints target source = []) {m : DeclaredMember}
    (listed : m ∈ fields.filterMap (Field.member? names scope)) :
    (inv.schema.plan target source options).Fate m.member := by
  cases marked : m.member.isIgnored with
  | true =>
    have left : ¬ ∃ member ∈ inv.schema.targetMembers target, member.name = m.member.name := by
      rw [named.mem_targets_iff distinct listed, marked]
      exact Bool.noConfusion
    exact .ignored marked (fun reads => left (Schema.target_of_planned (.inl reads)))
      fun takes => left (Schema.target_of_planned (.inr takes))
  | false =>
    obtain ⟨member, present, same⟩ := (named.mem_targets_iff distinct listed).mpr marked
    have taken : ((inv.schema.plan target source options).Reads member.name ∧
          ¬ (inv.schema.plan target source options).Takes member.name) ∨
        ((inv.schema.plan target source options).Takes member.name ∧
          ¬ (inv.schema.plan target source options).Reads member.name) :=
      Schema.reads_or_takes faultless (named.targets_distinct distinct) present
    rw [same] at taken
    rcases taken with ⟨reads, left⟩ | ⟨takes, unread⟩
    · exact .read marked reads left
    · exact .parameter marked takes unread

lemma get?_member {m : DeclaredMember}
    (listed : m ∈ fields.filterMap (Field.member? names scope)) :
    decl.members.get? m.member.name = some m.decl := by
  rw [named.members]
  apply Table.get?_of_mem
  · rw [Table.keys, List.map_map]
    exact distinct.members names scope
  · exact List.mem_map.mpr ⟨m, listed, rfl⟩

end Inventory.Named

end Named

/-! ## What fields are set to -/

namespace Emission

/-- A field of the name is set as the plan has it: to the conversion of its entry if it is mapped,
to the parameter of its name if it is an extra parameter, and to its default if it is ignored. -/
structure Fills (e : Emission) (field : Field) (name : String)
    (setting : FieldName × MemberValue) : Prop where
  called : field.name = some name
  access : setting.1 = .named name
  entry : ∀ entry ∈ e.model.sourceMembers, entry.name = Token.plainName name →
    setting.2 = e.mappedValue entry
  mapped_iff : setting.2.place?.isSome = true ↔ e.model.Reads (Token.plainName name)
  parameter_iff : setting.2 = .parameter name ↔ e.model.Takes (Token.plainName name)
  parameter : setting.2 = .parameter name → (name, field.ty) ∈ e.code.parameters
  unset_iff : setting.2 = .unset ↔ Attribute.present "ignore_member" field.attributes = true

/-- A member that is not read is set to its parameter, if it has one, or to its default. -/
lemma memberValue_of_unread {e : Emission} {name : String} (unread : ¬ e.model.Reads name)
    (d : MemberDecl) :
    (e.model.Takes name → e.memberValue name d = .parameter d.binding) ∧
      (¬ e.model.Takes name → e.memberValue name d = .unset) := by
  have missing : e.model.sourceMembers.find? (·.name == name) = none := by
    rw [List.find?_eq_none]
    intro entry listed same
    exact unread ⟨entry, listed, by simpa using same⟩
  have taken : e.model.extraParameters.any (·.name == name) = true ↔ e.model.Takes name := by
    simp only [List.any_eq_true, beq_iff_eq, MappingModel.Takes]
  rw [memberValue, missing]
  exact ⟨fun takes => if_pos (taken.mpr takes), fun left => if_neg (mt taken.mp left)⟩

lemma fills_of_fate {e : Emission} {field : Field} {m : DeclaredMember}
    (declares : field.Declares m) (found : e.target.members.get? m.member.name = some m.decl)
    (apart : (e.model.sourceMembers.map (·.name)).Nodup)
    (fate : e.model.Fate m.member) :
    e.Fills field m.decl.binding (m.decl.access, e.memberValue m.member.name m.decl) := by
  have filled : ∀ entry ∈ e.model.sourceMembers, entry.name = m.member.name →
      e.memberValue m.member.name m.decl = e.mappedValue entry := by
    intro entry listed same
    rw [← same]
    exact memberValue_of_entry apart listed
  rw [declares.access]
  -- The fate says which of the three values the field gets; the other two are then excluded by
  -- their constructors.
  cases fate with
  | ignored marked unread left =>
    have value := (memberValue_of_unread unread m.decl).2 left
    rw [value] at filled ⊢
    rw [declares.ignored] at marked
    rw [declares.name] at filled unread left
    exact ⟨declares.called, rfl, filled, iff_of_false Bool.noConfusion unread,
      iff_of_false MemberValue.noConfusion left, MemberValue.noConfusion, iff_of_true rfl marked⟩
  | read kept reads left =>
    have place : (e.memberValue m.member.name m.decl).place?.isSome = true := by
      obtain ⟨entry, listed, same⟩ := reads
      rw [filled entry listed same, mappedValue_place?]
      rfl
    have other : ∀ value : MemberValue, value.place? = none →
        e.memberValue m.member.name m.decl ≠ value := by
      rintro value nowhere rfl
      rw [nowhere] at place
      cases place
    rw [declares.ignored] at kept
    rw [declares.name] at filled reads left other place ⊢
    exact ⟨declares.called, rfl, filled, iff_of_true place reads, iff_of_false (other _ rfl) left,
      fun same => absurd same (other _ rfl), iff_of_false (other _ rfl) (by simp [kept])⟩
  | parameter kept takes unread =>
    have value := (memberValue_of_unread unread m.decl).1 takes
    have declared : (m.decl.binding, field.ty) ∈ e.code.parameters := by
      obtain ⟨extra, listed, same⟩ := takes
      refine List.mem_map.mpr ⟨m.decl, List.mem_filterMap.mpr ⟨extra, listed, ?_⟩, ?_⟩
      · rw [same]
        exact found
      · rw [declares.ty]
    rw [value] at filled ⊢
    rw [declares.ignored] at kept
    rw [declares.name] at filled takes unread
    exact ⟨declares.called, rfl, filled, iff_of_false Bool.noConfusion unread,
      iff_of_true rfl takes, fun _ => declared,
      iff_of_false MemberValue.noConfusion (by simp [kept])⟩

lemma construction_of_named {e : Emission} (named : e.target.shape = .named) :
    e.code.construction =
      .fields (e.target.base.map fun base => (base.field, base.ty, e.partSource))
        (e.target.members.map fun (name, decl) => (decl.access, e.memberValue name decl)) := by
  rw [code, construction, named]

end Emission

namespace Inventory.Named

variable {inv : Inventory} {names : DeclaredNames} {scope : Namespace} {fields : List Field}
  {target source : TypeDef} {decl form : Decl} {options : Options}
  (named : inv.Named names scope fields target decl) (distinct : Field.Distinct fields)
  (readable : Field.faultsFrom names scope false fields = [])

include named distinct readable

lemma part_of_fields :
    decl.base.toList.map (fun part => (some part.field, part.ty)) =
      (fields.filter (·.isBase)).map (fun field => (field.name, field.ty)) := by
  obtain ⟨kinds, parts⟩ := Field.part?_of_faultless names scope distinct.named readable
  rw [if_neg Bool.false_ne_true] at parts
  have beside := forall₂_filter_filterMap (f := Field.part? names scope) (p := Field.isBase)
    fun field listed => (kinds field listed).1.symm
  rw [named.base, ← parts, ← List.forall₂_eq_eq_eq, List.forall₂_map_left_iff,
    List.forall₂_map_right_iff]
  refine beside.flip.imp fun part field held => ?_
  obtain ⟨called, ty⟩ := Field.written_of_part? names scope held
  rw [called, ty]

lemma settings_of_fields (faultless : inv.schema.complaints target source = []) :
    List.Forall₂ (fun field setting => ∃ name,
        Emission.Fills ⟨inv, inv.schema.plan target source options, decl, form⟩ field name setting)
      (fields.filter (!·.isBase))
      (decl.members.map fun (name, written) => (written.access,
        Emission.memberValue ⟨inv, inv.schema.plan target source options, decl, form⟩ name
          written)) := by
  obtain ⟨kinds, _⟩ := Field.part?_of_faultless names scope distinct.named readable
  have beside := forall₂_filter_filterMap (f := Field.member? names scope) (p := (!·.isBase))
    fun field listed => (kinds field listed).2.symm
  have listed := (List.forall₂_and_left _ _).mpr ⟨fun field known => known, beside⟩
  rw [named.members, List.map_map, List.forall₂_map_right_iff]
  refine listed.imp fun field m known => ⟨m.decl.binding, ?_⟩
  obtain ⟨known, read⟩ := known
  have present := List.mem_filterMap.mpr ⟨field, (List.mem_filter.mp known).1, read⟩
  exact Emission.fills_of_fate (Field.declares_of_member? names scope read)
    (named.get?_member distinct present)
    (Schema.nodup_reading_names faultless (named.targets_distinct distinct))
    (named.fate distinct faultless present)

end Inventory.Named

/-- The code for a struct with distinct named fields lists the field for the inherited part, if
there is one, and then every other field once, in order. A field is set to the conversion of its
entry exactly if the plan reads it from the source, to the parameter of its name exactly if it is an
extra parameter, and to its default exactly if it is marked to be ignored. The constructor that
takes a context is printed with a literal of these fields as its body. -/
theorem construction_fills_fields {root : Namespace} {items : List Item} {inv : Inventory}
    {options : Options} {model : MappingModel} (ready : Inventory.ofItems root items = .ok inv)
    (generated : model ∈ (generate inv.schema options).models) :
    ∃ placed e, .struct placed ∈ (scopedItems root items).lastItems ∧
      (TypeItem.struct placed).fullName = model.fullName ∧ inv.emission? model = some e ∧
      e.model = model ∧
      ∀ fields trailing, placed.item.fields = .named fields trailing → Field.Distinct fields →
        ∃ base values, e.code.construction = .fields base values ∧
          base.toList.map (fun part => (some part.1, part.2.1)) =
            (fields.filter (·.isBase)).map (fun field => (field.name, field.ty)) ∧
          List.Forall₂ (fun field setting => ∃ name, e.Fills field name setting)
            (fields.filter (!·.isBase)) values ∧
          ∃ f first rest entries, e.code.Constructs f ∧
            f.body = [.ident "Self", .group .brace entries] ∧
            List.Forall₂ (PartSource.Sets e.code.source) base.toList first ∧
            List.Forall₂ MemberValue.Sets values rest ∧
            Token.Listed (first ++ rest) entries := by
  obtain ⟨placed, target, source, decl, form, plans⟩ := Inventory.plans_of_generated ready generated
  obtain rfl := plans.plan
  have targets := plans.targets
  refine ⟨placed, _, targets.held, plans.fullName, plans.emitted, rfl, ?_⟩
  intro fields trailing written distinct
  have named := targets.named written distinct
  have readable : Field.faultsFrom (Survey.declaredNames (scopedItems root items)) placed.scope
      false fields = [] := by
    have own := targets.faultless
    rw [written] at own
    exact own
  have built := Emission.construction_of_named
    (e := ⟨inv, inv.schema.plan target source options, decl, form⟩) named.shape
  refine ⟨_, _, built, ?_, named.settings_of_fields distinct readable plans.faultless, ?_⟩
  · rw [← named.part_of_fields distinct readable]
    cases decl.base <;> rfl
  · have constructs := Printing.constructs (Emission.code
      ⟨inv, inv.schema.plan target source options, decl, form⟩)
    obtain ⟨first, rest, entries, body, lists⟩ :=
      Construction.Written.literal (built ▸ constructs.built)
    exact ⟨_, first, rest, entries, constructs, body, lists⟩

/-- The fields of a view of a dog: an inherited part, a member of the dog, a member that no dog has,
and one that is ignored. -/
def dogViewFields : List Field :=
  [.marked ["map_base"] "animal" "AnimalView", .marked [] "name" "String",
    .marked [] "owner" "String", .marked ["ignore_member"] "note" "String"]

def kennel : List Item :=
  [.struct (.mapped [] "Animal" [.marked [] "id" "i32"]),
    .struct (.mapped [] "Dog" [.marked ["map_base"] "animal" "Animal", .marked [] "name" "String"]),
    .struct (.mapped [.ident "Animal"] "AnimalView" [.marked [] "id" "i32"]),
    .struct (.mapped [.ident "Dog"] "DogView" dogViewFields)]

def kennelInventory : Inventory :=
  (Inventory.ofItems ⟨"crate"⟩ kennel).toOption.getD ⟨⟨{}, []⟩, []⟩

lemma kennel_declared : Inventory.ofItems ⟨"crate"⟩ kennel = .ok kennelInventory :=
  Inventory.of_accepted _ (by decide +kernel)

lemma dogViewFields_distinct : Field.Distinct dogViewFields :=
  ⟨by decide, by decide +kernel⟩

lemma dogView_of_held {placed : Scoped StructItem}
    (held : .struct placed ∈ (scopedItems ⟨"crate"⟩ kennel).lastItems)
    (called : (TypeItem.struct placed).fullName = "crate::DogView") :
    placed = ⟨⟨"crate"⟩, .mapped [.ident "Dog"] "DogView" dogViewFields⟩ := by
  have view : (scopedItems ⟨"crate"⟩ kennel).kept.get? "crate::DogView" =
      some (.struct ⟨⟨"crate"⟩, .mapped [.ident "Dog"] "DogView" dogViewFields⟩) := by
    with_unfolding_all rfl
  cases ScopedItems.eq_of_held _ held called view
  rfl

/-- The code for the view of a dog sets its inherited part and its three other fields. -/
theorem dogView_filled :
    Inventory.ofItems ⟨"crate"⟩ kennel = .ok kennelInventory ∧
    ∃ model ∈ (generate kennelInventory.schema {}).models, model.fullName = "crate::DogView" ∧
      ∃ e base values, kennelInventory.emission? model = some e ∧
        e.code.construction = .fields base values ∧
        base.toList.map (fun part => (some part.1, part.2.1)) =
          (dogViewFields.filter (·.isBase)).map (fun field => (field.name, field.ty)) ∧
        List.Forall₂ (fun field setting => ∃ name, e.Fills field name setting)
          (dogViewFields.filter (!·.isBase)) values ∧
        ∃ f first rest entries, e.code.Constructs f ∧
          f.body = [.ident "Self", .group .brace entries] ∧
          List.Forall₂ (PartSource.Sets e.code.source) base.toList first ∧
          List.Forall₂ MemberValue.Sets values rest ∧
          Token.Listed (first ++ rest) entries := by
  have planned : ((generate kennelInventory.schema {}).models.map (·.fullName)).contains
      "crate::DogView" = true := by decide +kernel
  obtain ⟨model, generated, called⟩ := List.mem_map.mp (List.contains_iff_mem.mp planned)
  obtain ⟨placed, e, held, same, emitted, _, filled⟩ :=
    construction_fills_fields kennel_declared generated
  cases dogView_of_held held (same.trans called)
  obtain ⟨base, values, built, part, settings, printed⟩ := filled _ _ rfl dogViewFields_distinct
  exact ⟨kennel_declared, model, generated, called, e, base, values, emitted, built, part, settings,
    printed⟩

end MemberMapping
