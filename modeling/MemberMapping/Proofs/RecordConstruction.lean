import MemberMapping.Proofs.PrintedFunctions
import MemberMapping.Proofs.WrittenConstructors

/-!
The call that builds a tuple struct.

The plan takes the parameters of the widest constructor in the schema, one by one. The code takes
the members of the widest constructor that was noted as written, by name. So the arguments are those
of the constructor exactly if its parameters have different names and no tuple that was dropped for
another of its name is wider.
-/

namespace MemberMapping

/-! ## Elements of tuples -/

/-- A member and the name that stands for it as a parameter. -/
def WrittenConstructor.labels (w : WrittenConstructor) : List (String × String) :=
  w.members.map fun m => (m.member.name, m.decl.binding)

/-- The labels of the elements of a tuple, from the position `start` on. -/
def elementLabels (start count : Nat) : List (String × String) :=
  (List.range' start count).map fun position =>
    (toString position, "field_" ++ toString position)

lemma Field.element_binding {names : DeclaredNames} {scope : Namespace} {position : Nat}
    {field : Field} {element : DeclaredMember}
    (read : field.element names scope position = .ok element) :
    element.decl.binding = "field_" ++ toString position := by
  rw [Field.element] at read
  split at read
  · cases read
  · split at read
    · cases read
    · cases read
      rfl

lemma elementsFrom_labels {names : DeclaredNames} {scope : Namespace} {fields : List Field}
    {start : Nat} (faultless : failures (elementsFrom names scope start fields) = []) :
    (successes (elementsFrom names scope start fields)).map (fun m =>
      (m.member.name, m.decl.binding)) = elementLabels start fields.length := by
  induction fields generalizing start with
  | nil => rfl
  | cons field rest ih =>
    simp only [elementsFrom, failures, List.zipIdx_cons, List.map_cons, List.flatMap_cons,
      List.append_eq_nil_iff] at faultless
    cases read : field.element names scope start with
    | error faults =>
      rw [read] at faultless
      exact absurd faultless.1 (Field.element_error read)
    | ok first =>
      have later := ih faultless.2
      simp only [elementsFrom, successes, elementLabels, List.zipIdx_cons, List.map_cons,
        List.filterMap_cons, read, Except.toOption, List.length_cons, List.range'_succ,
        Field.element_name read, Field.element_binding read] at later ⊢
      rw [later]

lemma nodup_elementLabels (count : Nat) : ((elementLabels 0 count).map (·.1)).Nodup := by
  rw [elementLabels, List.map_map]
  refine List.Nodup.map_on ?_ List.nodup_range'
  exact fun one _ other _ same => toString_injective same

lemma Inventory.labels_of_tuplesOf {root : Namespace} {items : List Item} {inv : Inventory}
    (ready : Inventory.ofItems root items = .ok inv) {key : String} {w : WrittenConstructor}
    (listed : w ∈ (scopedItems root items).tuplesOf key) :
    w.name = none ∧ w.labels = elementLabels 0 w.members.length := by
  obtain ⟨item, among, itself⟩ := List.mem_filterMap.mp listed
  have own := (List.append_eq_nil_iff.mp (List.append_eq_nil_iff.mp (faultless ready)).1).1
  have unblamed := List.flatMap_eq_nil_iff.mp own item (List.mem_filter.mp among).1
  cases item with
  | enum placed => cases itself
  | trait placed => cases itself
  | struct placed =>
    obtain ⟨_, _, _, unnamed, fields, faults, members⟩ := StructItem.entry_tuple itself
    have labels := elementsFrom_labels (faults ▸ (List.append_eq_nil_iff.mp unblamed).2)
    rw [← members] at labels
    have count := congrArg List.length labels
    rw [elementLabels, List.length_map, List.length_map, List.length_range'] at count
    exact ⟨unnamed, labels.trans (congrArg (elementLabels 0) count.symm)⟩

/-! ## Tuple structs as targets -/

/-- How a target that is a tuple is declared. The schema has its own constructor and the functions
of its implementations. The code uses the constructor that is the widest of all that were noted. -/
structure Inventory.Tuple (inv : Inventory) (items : ScopedItems) (own : WrittenConstructor)
    (target : TypeDef) (decl : Decl) (used : WrittenConstructor) : Prop where
  shape : decl.shape = .tuple
  kind : target.kind = .recordType
  constructors : List.Forall₂ Constructor.Stands target.constructors
    (own :: (items.functionsOf target.fullName target.name).map (·.2))
  last : (items.tuplesOf target.fullName).getLast? = some own
  widest : WrittenConstructor.widest? (items.tuplesOf target.fullName ++
    (items.functionsOf target.fullName target.name).map (·.2)) = some used
  members : decl.members = used.table
  constructor : decl.constructor = used.name

lemma ScopedItems.getLast?_tuplesOf {items : ScopedItems} {key : String} {item : TypeItem}
    {own : WrittenConstructor} (kept : items.kept.get? key = some item)
    (itself : item.tuple? (Survey.declaredNames items) = some own) :
    (items.tuplesOf key).getLast? = some own := by
  rw [get?_kept] at kept
  obtain ⟨earlier, all⟩ := List.getLast?_eq_some_iff.mp kept
  rw [tuplesOf, all, List.filterMap_append, List.filterMap_cons_some itself, List.filterMap_nil,
    List.getLast?_concat]

lemma WrittenConstructor.exists_widest? {constructors : List WrittenConstructor}
    (some : constructors ≠ []) : ∃ w, widest? constructors = Option.some w := by
  cases constructors with
  | nil => exact absurd rfl some
  | cons first rest => exact ⟨_, rfl⟩

namespace Inventory

variable {root : Namespace} {items : List Item} {inv : Inventory}

/-- A target is an entry of the survey, which has the constructors of its item and those that were
noted. -/
lemma Targets.entered (ready : Inventory.ofItems root items = .ok inv) {placed : Scoped StructItem}
    {target : TypeDef} {decl : Decl} (known : target ∈ inv.schema.types)
    (targets : inv.Targets (scopedItems root items) placed target decl) :
    (scopedItems root items).kept.get? target.fullName = some (.struct placed) ∧
    ∃ entry : Entry, target = entry.definition.stamped ∧
      decl = (Survey.ofItems (scopedItems root items)).settledDecl target.fullName entry.decl ∧
      entry.definition.constructors =
        (placed.item.entry (Survey.declaredNames (scopedItems root items))
          placed.scope).definition.constructors ++
            ((scopedItems root items).functionsOf target.fullName target.name).map (·.1) ∧
      (Survey.ofItems (scopedItems root items)).noted target.fullName =
        (scopedItems root items).tuplesOf target.fullName ++
          ((scopedItems root items).functionsOf target.fullName target.name).map (·.2) := by
  have path : target.path = (TypeItem.struct placed).path := targets.item.path
  have fullName : target.fullName = (TypeItem.struct placed).fullName :=
    congrArg TypePath.definitionName path
  have kept := (ScopedItems.mem_lastItems_iff _).mp targets.held
  rw [← fullName] at kept
  obtain ⟨⟨entry, found, _, constructors⟩, noted⟩ := Survey.ofItems_collects _ kept
  rw [← path] at constructors noted
  have keyed := Survey.keyed_of_declared (Survey.ofItems_headings (scopedItems root items)).1
  obtain ⟨types, distinct, written⟩ := Survey.inventory_entries keyed ready
  have listed := Table.mem_of_get? found
  have stamped : target = entry.definition.stamped := by
    refine List.inj_on_of_nodup_map distinct known ?_ (keyed _ listed)
    rw [types]
    exact List.mem_map.mpr ⟨_, listed, rfl⟩
  have settled := written _ listed
  rw [← keyed _ listed, targets.declared] at settled
  exact ⟨kept, entry, stamped, Option.some.inj settled, constructors, noted⟩

lemma Targets.tuple (ready : Inventory.ofItems root items = .ok inv) {placed : Scoped StructItem}
    {target : TypeDef} {decl : Decl} (known : target ∈ inv.schema.types)
    (targets : inv.Targets (scopedItems root items) placed target decl) {own : WrittenConstructor}
    (itself : placed.item.tuple? (Survey.declaredNames (scopedItems root items)) placed.scope =
      some own) :
    ∃ used, inv.Tuple (scopedItems root items) own target decl used := by
  obtain ⟨kept, entry, stamped, settled, constructors, noted⟩ := targets.entered ready known
  -- The constructor of the item is noted, so there is a widest one to settle on.
  have last := ScopedItems.getLast?_tuplesOf kept itself
  have some : (scopedItems root items).tuplesOf target.fullName ++
      ((scopedItems root items).functionsOf target.fullName target.name).map (·.2) ≠ [] := by
    intro none
    rw [(List.append_eq_nil_iff.mp none).1] at last
    cases last
  obtain ⟨used, widest⟩ := WrittenConstructor.exists_widest? some
  obtain ⟨shape, kind, ownConstructors, unnamed, _⟩ := StructItem.entry_tuple itself
  have tuple : entry.decl.shape = .tuple := by
    rw [← (Survey.settledDecl_shape entry.decl).1, ← settled, ← decl.ownPart_shape,
      targets.item.written, Decl.ownPart_shape]
    exact shape
  have found : ((Survey.ofItems (scopedItems root items)).constructors.get? target.fullName).bind
      WrittenConstructor.widest? = Option.some used := by
    rw [Survey.noted] at noted
    cases listed : (Survey.ofItems (scopedItems root items)).constructors.get? target.fullName with
    | none =>
      rw [listed] at noted
      exact absurd noted.symm some
    | some all =>
      rw [listed, Option.getD_some] at noted
      rw [Option.bind_some, noted, widest]
  rw [Survey.settledDecl, tuple, found] at settled
  have beside : List.Forall₂ Constructor.Stands entry.definition.constructors
      (own :: ((scopedItems root items).functionsOf target.fullName target.name).map (·.2)) := by
    have stands := tupleConstructor_stands own.members
    rw [← unnamed] at stands
    rw [constructors, ownConstructors, List.singleton_append]
    refine .cons stands ?_
    rw [List.forall₂_map_left_iff, List.forall₂_map_right_iff]
    exact List.forall₂_same.mpr fun pair listed => (ScopedItems.stands_of_functionsOf listed).1
  have same : target.ownPart.kind = _ := congrArg TypeDef.kind targets.item.definition
  refine ⟨used, settled ▸ rfl, same.trans kind, ?_, last, widest, settled ▸ rfl, settled ▸ rfl⟩
  have all := TypeDef.stamped_stands beside
  rw [← stamped] at all
  exact all

end Inventory

/-! ## Arguments -/

namespace WrittenConstructor

def names (w : WrittenConstructor) : List String :=
  w.members.map (·.member.name)

lemma names_eq (w : WrittenConstructor) : w.names = w.labels.map (·.1) := by
  rw [names, labels, List.map_map]
  rfl

lemma map_name_zipIdx (w : WrittenConstructor) :
    w.members.zipIdx.map (fun m => m.1.member.name) = w.names := by
  have members := congrArg (List.map fun m => m.member.name) (List.zipIdx_map_fst 0 w.members)
  rw [List.map_map] at members
  exact members

lemma keys_table (w : WrittenConstructor) : w.table.keys = w.names.eraseDups := by
  have keys := Table.keys_foldl_set (fun m : DeclaredMember × Nat => m.1.member.name)
    (fun m => { m.1.decl with access := .position m.2 }) (t := []) w.members.zipIdx rfl
  rw [map_name_zipIdx] at keys
  exact keys

lemma length_table (w : WrittenConstructor) : w.table.length = w.names.eraseDups.length := by
  have count := congrArg List.length w.keys_table
  rwa [Table.keys, List.length_map] at count

/-- Where members have different names each has its place in the table. -/
lemma labels_of_table {w : WrittenConstructor} (distinct : w.names.Nodup) :
    (w.table.map fun (name, decl) => (name, decl.binding)) = w.labels := by
  have apart : (w.members.zipIdx.map fun m => m.1.member.name).Nodup :=
    w.map_name_zipIdx ▸ distinct
  have all := Table.foldl_set_of_distinct (fun m : DeclaredMember × Nat => m.1.member.name)
    (fun m => { m.1.decl with access := .position m.2 }) (t := []) apart
    fun _ _ => List.not_mem_nil
  have labels := congrArg (List.map fun m => (m.member.name, m.decl.binding))
    (List.zipIdx_map_fst 0 w.members)
  rw [List.map_map] at labels
  rw [table]
  refine (congrArg (List.map fun entry => (entry.1, entry.2.binding)) all).trans ?_
  rw [List.nil_append, List.map_map]
  exact labels

end WrittenConstructor

lemma Inventory.nodup_names_of_tuplesOf {root : Namespace} {items : List Item} {inv : Inventory}
    (ready : Inventory.ofItems root items = .ok inv) {key : String} {w : WrittenConstructor}
    (listed : w ∈ (scopedItems root items).tuplesOf key) : w.names.Nodup := by
  rw [WrittenConstructor.names_eq, (labels_of_tuplesOf ready listed).2]
  exact nodup_elementLabels _

namespace Emission

variable {e : Emission}

def valueOf (e : Emission) (label : String × String) : MemberValue :=
  match e.model.sourceMembers.find? (·.name == label.1) with
  | some mapped => e.mappedValue mapped
  | none =>
    if e.model.extraParameters.any (·.name == label.1) then .parameter label.2 else .unset

lemma construction_of_tuple (tuple : e.target.shape = .tuple) :
    e.code.construction = .call e.target.constructor
      ((e.target.members.map fun (name, decl) => (name, decl.binding)).map e.valueOf) := by
  rw [code, construction, tuple, List.map_map, List.map_map]
  rfl

/-- What a parameter of the target is to be set to: its default if it is ignored, the conversion of
its entry if the source has a member for it, and else the parameter of the name that is written for
it. -/
def argument (e : Emission) (candidates : List Member) (p : Member) (m : DeclaredMember) :
    MemberValue :=
  if p.isIgnored then .unset
  else
    match e.inventory.schema.reading? candidates p with
    | some entry => e.mappedValue entry
    | none => .parameter m.decl.binding

variable {target source : TypeDef} {options : Options} {params : List Member}
  (planned : e.model = e.inventory.schema.plan target source options)
  (targets : e.inventory.schema.targetMembers target = mappable params)
  (distinct : (params.map (·.name)).Nodup)
  (faultless : e.inventory.schema.complaints target source = [])

include planned targets distinct

lemma ignored_of_params {p : Member} (listed : p ∈ params) (ignored : p.isIgnored = true) :
    ¬ e.model.Reads p.name ∧ ¬ e.model.Takes p.name := by
  have left : ¬ ∃ member ∈ e.inventory.schema.targetMembers target, member.name = p.name := by
    rintro ⟨member, present, same⟩
    rw [targets] at present
    obtain ⟨known, kept⟩ := List.mem_filter.mp present
    have again : member = p := List.inj_on_of_nodup_map distinct known listed same
    rw [again, ignored] at kept
    cases kept
  rw [planned]
  exact ⟨fun reads => left (Schema.target_of_planned (.inl reads)),
    fun takes => left (Schema.target_of_planned (.inr takes))⟩

include faultless

lemma valueOf_eq_argument {p : Member} {m : DeclaredMember} (listed : p ∈ params)
    (stands : p.Stands m) :
    e.valueOf (m.member.name, m.decl.binding) =
      e.argument (e.inventory.schema.sourceCandidates source) p m := by
  have apart : ((e.inventory.schema.targetMembers target).map (·.name)).Nodup := by
    rw [targets]
    exact distinct.sublist (List.filter_sublist.map _)
  rw [← stands.name, argument]
  -- An ignored parameter is no target member, so neither list of the plan names it. Any other is
  -- read or taken, and never both.
  by_cases ignored : p.isIgnored = true
  · obtain ⟨unread, left⟩ := ignored_of_params planned targets distinct listed ignored
    rw [if_pos ignored]
    exact (memberValue_of_unread unread m.decl).2 left
  · have present : p ∈ e.inventory.schema.targetMembers target := by
      rw [targets]
      exact List.mem_filter.mpr ⟨listed, by simpa using ignored⟩
    rw [if_neg ignored]
    cases read : e.inventory.schema.reading? (e.inventory.schema.sourceCandidates source) p with
    | some entry =>
      obtain ⟨_, _, pairs⟩ := Schema.pairs_of_reading? read
      have filled : entry ∈ e.inventory.schema.readings target source :=
        List.mem_filterMap.mpr ⟨p, present, read⟩
      have names := Schema.nodup_reading_names faultless apart
      have value : e.memberValue entry.name m.decl = e.mappedValue entry :=
        memberValue_of_entry (planned ▸ names) (planned ▸ filled)
      rw [pairs.name] at value
      exact value
    | none =>
      have extra := Schema.extraParameter?_of_none read
        (Schema.unblamed_of_faultless faultless present)
      have taken : (e.inventory.schema.plan target source options).Takes p.name :=
        ⟨_, List.mem_filterMap.mpr ⟨p, present, extra⟩, rfl⟩
      rw [← planned] at taken
      have once : (e.model.Reads p.name ∧ ¬ e.model.Takes p.name) ∨
          (e.model.Takes p.name ∧ ¬ e.model.Reads p.name) := by
        rw [planned]
        exact Schema.reads_or_takes faultless apart present
      rcases once with ⟨_, left⟩ | ⟨_, unread⟩
      · exact absurd taken left
      · exact (memberValue_of_unread unread m.decl).1 taken

/-- So a written constructor gets its arguments. -/
lemma values_eq_arguments {w : WrittenConstructor}
    (stands : List.Forall₂ Member.Stands params w.members) :
    List.zipWith (e.argument (e.inventory.schema.sourceCandidates source)) params w.members =
      w.labels.map e.valueOf := by
  rw [WrittenConstructor.labels, List.map_map]
  have listed := (List.forall₂_and_left _ _).mpr ⟨fun p known => known, stands⟩
  refine zipWith_of_forall₂ (listed.imp fun p m known => ?_)
  exact (valueOf_eq_argument planned targets distinct faultless known.1 known.2).symm

end Emission

lemma names_of_stands {params : List Member} {w : WrittenConstructor}
    (stands : List.Forall₂ Member.Stands params w.members) : params.map (·.name) = w.names := by
  rw [WrittenConstructor.names, ← List.forall₂_eq_eq_eq, List.forall₂_map_left_iff,
    List.forall₂_map_right_iff]
  exact stands.imp fun p m known => known.name

/-- Of the constructors of a tuple struct only the tuple itself has no name. -/
lemma ScopedItems.own_of_unnamed {items : ScopedItems} {key typeName : String}
    {own w : WrittenConstructor}
    (widest : WrittenConstructor.widest? (own :: (items.functionsOf key typeName).map (·.2)) =
      some w) (unnamed : w.name = none) : w = own := by
  rcases List.mem_cons.mp (WrittenConstructor.mem_of_widest? widest) with itself | listed
  · exact itself
  · obtain ⟨pair, known, rfl⟩ := List.mem_map.mp listed
    have named := (stands_of_functionsOf known).2
    rw [unnamed] at named
    cases named

namespace Inventory.Tuple

variable {root : Namespace} {items : List Item} {inv : Inventory} {target source : TypeDef}
  {decl : Decl} {own used w : WrittenConstructor}
  (tuple : inv.Tuple (scopedItems root items) own target decl used)
  (widest : WrittenConstructor.widest?
    (own :: ((scopedItems root items).functionsOf target.fullName target.name).map (·.2)) = some w)

include tuple

lemma targetMembers {c : Constructor} (chosen : target.widestConstructor? = some c) :
    inv.schema.targetMembers target = mappable c.params := by
  rw [Schema.targetMembers, Schema.kindMembers, tuple.kind]
  simp only [TypeDef.constructionMembers, chosen]

include widest

lemma used_or_dropped :
    used = w ∨ used ∈ (scopedItems root items).tuplesOf target.fullName := by
  obtain ⟨earlier, all⟩ := List.getLast?_eq_some_iff.mp tuple.last
  have overall := tuple.widest
  rw [all, List.append_assoc, List.singleton_append] at overall
  rw [all]
  exact (WrittenConstructor.widest?_append widest overall).imp id (List.mem_append_left _)

lemma used_of_single (single : ((scopedItems root items).tuplesOf target.fullName).length = 1) :
    used = w := by
  obtain ⟨one, all⟩ := List.length_eq_one_iff.mp single
  have last := tuple.last
  have overall := tuple.widest
  rw [all, List.getLast?_singleton, Option.some.injEq] at last
  rw [all, last, List.singleton_append, widest] at overall
  exact (Option.some.inj overall).symm

/-- A dropped tuple that is used is used like the tuple that is kept, where it has the same name
and width. -/
lemma labels_of_used (ready : Inventory.ofItems root items = .ok inv) (other : used ≠ w) :
    used.name = none ∧ used.names.Nodup ∧ (used.name = w.name → w.names.Nodup ∧
      (used.members.length = w.members.length → used.labels = w.labels)) := by
  have dropped := (tuple.used_or_dropped widest).resolve_left other
  obtain ⟨unnamed, labels⟩ := labels_of_tuplesOf ready dropped
  refine ⟨unnamed, nodup_names_of_tuplesOf ready dropped, fun same => ?_⟩
  have itself := ScopedItems.own_of_unnamed widest (same.symm.trans unnamed)
  have kept : w ∈ (scopedItems root items).tuplesOf target.fullName :=
    itself ▸ List.mem_of_getLast? tuple.last
  refine ⟨nodup_names_of_tuplesOf ready kept, fun width => ?_⟩
  rw [labels, (labels_of_tuplesOf ready kept).2, width]

/-- The call is that of the widest constructor with its arguments exactly if the constructor that is
used has the name and the width of the widest one, and the members of this have different names. -/
lemma call_iff (ready : Inventory.ofItems root items = .ok inv) {e : Emission} {c : Constructor}
    {options : Options} (whole : e.inventory = inv) (written : e.target = decl)
    (planned : e.model = inv.schema.plan target source options)
    (chosen : target.widestConstructor? = some c) (stands : c.Stands w)
    (faultless : inv.schema.complaints target source = []) :
    ∃ values, e.code.construction = .call used.name values ∧
      values.length = used.names.eraseDups.length ∧
      (e.code.construction = .call w.name
          (List.zipWith (e.argument (inv.schema.sourceCandidates source)) c.params w.members) ↔
        used.name = w.name ∧ used.members.length = w.members.length ∧ w.names.Nodup) := by
  subst whole written
  have built := Emission.construction_of_tuple tuple.shape
  rw [tuple.members, tuple.constructor] at built
  have params := tuple.targetMembers chosen
  refine ⟨_, built, ?_, ?_, ?_⟩
  · rw [List.length_map, List.length_map]
    exact used.length_table
  · intro called
    rw [built, Construction.call.injEq] at called
    obtain ⟨name, values⟩ := called
    have count := congrArg List.length values
    rw [List.length_map, List.length_map, used.length_table, List.length_zipWith, stands.width,
      Nat.min_self] at count
    have size : ∀ one : WrittenConstructor, one.names.length = one.members.length :=
      fun one => List.length_map ..
    -- One argument for each different name is one for each parameter only if all are different.
    by_cases same : used = w
    · rw [same, ← size w, length_eraseDups_iff] at count
      exact ⟨name, congrArg (·.members.length) same, count⟩
    · obtain ⟨_, distinct, alike⟩ := tuple.labels_of_used widest ready same
      rw [length_eraseDups_iff.mpr distinct, size] at count
      exact ⟨name, count, (alike name).1⟩
  · rintro ⟨name, width, distinct⟩
    have arguments := Emission.values_eq_arguments planned params
      (by rw [names_of_stands stands.params]; exact distinct) faultless stands.params
    have labels : used.names.Nodup ∧ used.labels = w.labels := by
      by_cases same : used = w
      · exact ⟨same ▸ distinct, congrArg WrittenConstructor.labels same⟩
      · obtain ⟨_, apart, alike⟩ := tuple.labels_of_used widest ready same
        exact ⟨apart, (alike name).2 width⟩
    rw [built, arguments, name, WrittenConstructor.labels_of_table labels.1, labels.2]

end Inventory.Tuple

/-- The schema has the constructors of a tuple struct that are written: the tuple itself and the
functions that return it, in order. The call that builds the struct is that of the widest of them,
the first one on a tie, with an argument for each parameter, exactly if the members of this
constructor have different names and no wider tuple was dropped for the struct. The constructor that
is called gets one argument for each of the different names. -/
theorem record_construction_iff {root : Namespace} {items : List Item} {inv : Inventory}
    {options : Options} {model : MappingModel} (ready : Inventory.ofItems root items = .ok inv)
    (generated : model ∈ (generate inv.schema options).models) :
    ∃ placed e, .struct placed ∈ (scopedItems root items).lastItems ∧
      (TypeItem.struct placed).fullName = model.fullName ∧ inv.emission? model = some e ∧
      e.model = model ∧
      ∀ own, placed.item.tuple? (Survey.declaredNames (scopedItems root items)) placed.scope =
          some own →
        ∃ target source c w used values, target ∈ inv.schema.types ∧
          target.fullName = model.fullName ∧ inv.schema.sourceOf? target = some source ∧
          List.Forall₂ Constructor.Stands target.constructors
            (own :: ((scopedItems root items).functionsOf target.fullName target.name).map (·.2)) ∧
          target.widestConstructor? = some c ∧ c.Stands w ∧
          WrittenConstructor.widest?
            (own :: ((scopedItems root items).functionsOf target.fullName target.name).map (·.2)) =
              some w ∧
          WrittenConstructor.widest? ((scopedItems root items).tuplesOf target.fullName ++
            ((scopedItems root items).functionsOf target.fullName target.name).map (·.2)) =
              some used ∧
          (((scopedItems root items).tuplesOf target.fullName).length = 1 → used = w) ∧
          e.code.construction = .call used.name values ∧
          values.length = used.names.eraseDups.length ∧
          (e.code.construction = .call w.name
              (List.zipWith (e.argument (inv.schema.sourceCandidates source)) c.params w.members) ↔
            used.name = w.name ∧ used.members.length = w.members.length ∧ w.names.Nodup) ∧
          ∃ f each arguments, e.code.Constructs f ∧
            f.body = .ident "Self" :: Token.steps used.name.toList ++ [.group .paren arguments] ∧
            List.Forall₂ MemberValue.Written values each ∧ Token.Listed each arguments := by
  obtain ⟨placed, target, source, decl, form, plans⟩ := Inventory.plans_of_generated ready generated
  obtain rfl := plans.plan
  have targets := plans.targets
  refine ⟨placed, _, targets.held, plans.fullName, plans.emitted, rfl, ?_⟩
  intro own itself
  obtain ⟨used, tuple⟩ := targets.tuple ready plans.known itself
  obtain ⟨w, widest⟩ := WrittenConstructor.exists_widest? (List.cons_ne_nil own
    (((scopedItems root items).functionsOf target.fullName target.name).map (·.2)))
  obtain ⟨c, chosen, stands⟩ := TypeDef.widestConstructor?_stands tuple.constructors widest
  obtain ⟨values, built, count, called⟩ := tuple.call_iff widest ready
    (e := ⟨inv, inv.schema.plan target source options, decl, form⟩) rfl rfl rfl chosen stands
    plans.faultless
  have constructs := Printing.constructs (Emission.code
    ⟨inv, inv.schema.plan target source options, decl, form⟩)
  obtain ⟨each, arguments, body, printed⟩ := (built ▸ constructs.built).arguments
  exact ⟨target, source, c, w, used, values, plans.known, rfl, plans.mapped, tuple.constructors,
    chosen, stands, widest, tuple.widest, tuple.used_of_single widest, built, count, called, _,
    each, arguments, constructs, body, printed⟩

/-- A struct of elements without attributes, and with the path of what it is mapped from. -/
def StructItem.tupleOf (source : List Token) (name : String) (elements : List String) :
    StructItem :=
  { attributes :=
      if source.isEmpty then [] else [⟨⟨false, ["map_from"]⟩, .arguments .paren source⟩]
    visibility := []
    name := name
    generics := []
    conditions := []
    fields := .positional (elements.map fun element =>
      ⟨[], [], none, .path (.ofName element)⟩) false }

/-- A parameter of type `i32`; one without a name is matched by a wildcard. -/
def Parameter.integer (name : Option String) : Parameter :=
  .typed [] [.token (.ident (name.getD "_"))] name (.path (.ofName "i32"))

/-- An implementation with one function that constructs the type. -/
def ImplItem.constructing (typeName function : String) (parameters : List (Option String)) :
    ImplItem :=
  { attributes := []
    front := Code.ofTokens [.ident "impl"]
    interface := none
    self := .path (.ofName typeName)
    conditions := []
    innerAttributes := []
    members := [.function
      { attributes := []
        front := Code.ofTokens [.ident "fn"]
        name := function
        generics := []
        parameters := parameters.map .integer
        trailing := false
        result := some (.path (.ofName "Self"))
        conditions := []
        body := []
        ending := none }] }

def spans : List Item :=
  [.struct (.mapped [] "Span" [.marked [] "start" "i32", .marked [] "end" "i32"]),
    .struct (.tupleOf [.ident "Span"] "Range" ["String"]),
    .impl (.constructing "Range" "between" [some "start", some "end"])]

def spansInventory : Inventory :=
  (Inventory.ofItems ⟨"crate"⟩ spans).toOption.getD ⟨⟨{}, []⟩, []⟩

lemma spans_declared : Inventory.ofItems ⟨"crate"⟩ spans = .ok spansInventory :=
  Inventory.of_accepted _ (by decide +kernel)

/-- A range is built by the function for both ends, which gets both. -/
theorem range_built_between :
    Inventory.ofItems ⟨"crate"⟩ spans = .ok spansInventory ∧
    ∃ model ∈ (generate spansInventory.schema {}).models, ∃ e target source c w,
      spansInventory.emission? model = some e ∧ target ∈ spansInventory.schema.types ∧
      target.widestConstructor? = some c ∧ c.Stands w ∧ w.members.length = 2 ∧
      e.code.construction = .call (some "between")
        (List.zipWith (e.argument (spansInventory.schema.sourceCandidates source)) c.params
          w.members) ∧
      ∃ f each arguments, e.code.Constructs f ∧
        f.body = .ident "Self" :: Token.steps ["between"] ++ [.group .paren arguments] ∧
        List.Forall₂ MemberValue.Written (List.zipWith
          (e.argument (spansInventory.schema.sourceCandidates source)) c.params w.members) each ∧
        Token.Listed each arguments := by
  have planned : (generate spansInventory.schema {}).models.isEmpty = false := by decide +kernel
  have ranges : ∀ model ∈ (generate spansInventory.schema {}).models,
      model.fullName = "crate::Range" := by decide +kernel
  have named : ∀ target ∈ spansInventory.schema.types, target.fullName = "crate::Range" →
      target.name = "Range" := by decide +kernel
  have single : ((scopedItems ⟨"crate"⟩ spans).tuplesOf "crate::Range").length = 1 := by
    decide +kernel
  have picked : ∀ own ∈ (StructItem.tupleOf [.ident "Span"] "Range" ["String"]).tuple?
        (Survey.declaredNames (scopedItems ⟨"crate"⟩ spans)) ⟨"crate"⟩,
      ∀ w ∈ WrittenConstructor.widest?
        (own :: ((scopedItems ⟨"crate"⟩ spans).functionsOf "crate::Range" "Range").map (·.2)),
      w.name = some "between" ∧ w.members.length = 2 ∧ w.names.Nodup := by decide +kernel
  have kept : (scopedItems ⟨"crate"⟩ spans).kept.get? "crate::Range" =
      some (.struct ⟨⟨"crate"⟩, .tupleOf [.ident "Span"] "Range" ["String"]⟩) := by
    with_unfolding_all rfl
  obtain ⟨model, generated⟩ := List.isEmpty_eq_false_iff_exists_mem.mp planned
  obtain ⟨placed, e, held, same, emitted, _, built⟩ :=
    record_construction_iff spans_declared generated
  cases ScopedItems.eq_of_held _ held (same.trans (ranges model generated)) kept
  obtain ⟨target, source, c, w, used, values, known, called, _, _, chosen, stands, widest, _, alone,
    construction, _, precise, f, each, arguments, constructs, body, given, listed⟩ := built _ rfl
  rw [ranges model generated] at called
  rw [called, named target known called] at widest
  rw [called] at alone
  obtain ⟨function, two, distinct⟩ := picked _ rfl w widest
  have itself := alone single
  have whole := precise.mpr
    ⟨congrArg (·.name) itself, congrArg (·.members.length) itself, distinct⟩
  obtain ⟨_, rfl⟩ := Construction.call.inj (construction.symm.trans whole)
  rw [itself, function] at body
  refine ⟨spans_declared, model, generated, e, target, source, c, w, emitted, known, chosen, stands,
    two, ?_, f, each, arguments, constructs, body, given, listed⟩
  rw [← function]
  exact whole

/-- A sample takes the argument of a reading and another one. -/
def samples : List Item :=
  [.struct (.mapped [] "Reading" [.marked [] "arg_1" "i32"]),
    .struct (.tupleOf [.ident "Reading"] "Sample" ["i32"]),
    .impl (.constructing "Sample" "new" [some "arg_1", none])]

def samplesInventory : Inventory :=
  (Inventory.ofItems ⟨"crate"⟩ samples).toOption.getD ⟨⟨{}, []⟩, []⟩

lemma samples_declared : Inventory.ofItems ⟨"crate"⟩ samples = .ok samplesInventory :=
  Inventory.of_accepted _ (by decide +kernel)

/-- The name that is made up for the second parameter is that of the first one. So a function of two
parameters gets one argument. -/
theorem sample_built_of_one :
    Inventory.ofItems ⟨"crate"⟩ samples = .ok samplesInventory ∧
    ∃ model ∈ (generate samplesInventory.schema {}).models, ∃ e target c values,
      samplesInventory.emission? model = some e ∧ target ∈ samplesInventory.schema.types ∧
      target.fullName = model.fullName ∧ target.widestConstructor? = some c ∧
      c.params.length = 2 ∧ e.code.construction = .call (some "new") values ∧
      values.length = 1 := by
  have planned : (generate samplesInventory.schema {}).models.isEmpty = false := by decide +kernel
  have narrow : ∀ model ∈ (generate samplesInventory.schema {}).models,
      (samplesInventory.emission? model).isSome = true ∧
      (∀ e ∈ samplesInventory.emission? model, e.target.shape = .tuple ∧
        e.target.constructor = some "new" ∧ e.target.members.length = 1) ∧
      ∃ target ∈ samplesInventory.schema.types, target.fullName = model.fullName ∧
        target.widestConstructor?.map (·.params.length) = some 2 := by
    decide +kernel
  obtain ⟨model, generated⟩ := List.isEmpty_eq_false_iff_exists_mem.mp planned
  obtain ⟨some, each, target, known, called, wide⟩ := narrow model generated
  obtain ⟨e, emitted⟩ := Option.isSome_iff_exists.mp some
  obtain ⟨tuple, constructor, one⟩ := each e emitted
  obtain ⟨c, chosen, two⟩ := Option.map_eq_some_iff.mp wide
  have built := Emission.construction_of_tuple tuple
  rw [constructor] at built
  refine ⟨samples_declared, model, generated, e, target, c, _, emitted, known, called, chosen, two,
    built, ?_⟩
  rw [List.length_map, List.length_map, one]

end MemberMapping
