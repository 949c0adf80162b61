import MemberMapping.Proofs.Placement
import MemberMapping.Proofs.Stripping

/-!
Expanding what is expanded already.

No helper attribute is left where one is read, and generated code is not looked into. So the survey
of an expanded file has no fault, and its types have neither markers nor bases. Nothing is mapped,
and the file stays as it is.
-/

namespace MemberMapping

lemma Item.strippedAll_append (first second : List Item) :
    Item.strippedAll (first ++ second) = Item.strippedAll first ++ Item.strippedAll second := by
  induction first with
  | nil => rfl
  | cons item rest ih => rw [List.cons_append, strippedAll, ih, strippedAll, List.cons_append]

lemma Pending.strippedAll_itemsFor (pending : Pending) (scope : Namespace) :
    Item.strippedAll (pending.itemsFor scope) = pending.itemsFor scope := by
  rw [itemsFor]
  induction pending.filter (·.1 == scope) with
  | nil => rfl
  | cons entry rest ih => rw [List.map_cons, Item.strippedAll, ih, Item.stripped]

mutual

lemma Item.place_stripped (current : Namespace) (pending : Pending) (item : Item) :
    item.stripped.place current pending =
      ((item.place current pending).1.stripped, (item.place current pending).2) := by
  cases item with
  | module attributes front name innerAttributes items =>
    have within := Item.placeWithin_stripped (current.join name) pending items
    simp only [Item.stripped, Item.place, within, Item.strippedAll_append,
      Pending.strippedAll_itemsFor]
  | struct item | enum item | union item | trait item | impl item | other code | generated code =>
    rfl

lemma Item.placeWithin_stripped (current : Namespace) (pending : Pending) (items : List Item) :
    Item.placeWithin current pending (Item.strippedAll items) =
      (Item.strippedAll (Item.placeWithin current pending items).1,
        (Item.placeWithin current pending items).2) := by
  cases items with
  | nil => rfl
  | cons item rest =>
    have first := Item.place_stripped current pending item
    have others := Item.placeWithin_stripped current (item.place current pending).2 rest
    simp only [Item.strippedAll, Item.placeWithin, first, others]

end

lemma place_strippedAll (root : Namespace) (pending : Pending) (items : List Item) :
    (place root pending (Item.strippedAll items)).1 =
      Item.strippedAll (place root pending items).1 := by
  rw [place_eq, place_eq, Item.placeWithin_stripped, Item.strippedAll_append,
    Pending.strippedAll_itemsFor]

@[simp] lemma Pending.itemsFor_nil (scope : Namespace) : Pending.itemsFor [] scope = [] := rfl

@[simp] lemma Pending.without_nil (scope : Namespace) : Pending.without [] scope = [] := rfl

mutual

lemma Item.place_nil (current : Namespace) (item : Item) :
    item.place current [] = (item, []) := by
  cases item with
  | module attributes front name innerAttributes items =>
    simp only [Item.place, Item.placeWithin_nil (current.join name) items, Pending.itemsFor_nil,
      Pending.without_nil, List.append_nil]
  | struct item | enum item | union item | trait item | impl item | other code | generated code =>
    rfl

lemma Item.placeWithin_nil (current : Namespace) (items : List Item) :
    Item.placeWithin current [] items = (items, []) := by
  cases items with
  | nil => rfl
  | cons item rest =>
    simp only [Item.placeWithin, Item.place_nil current item, Item.placeWithin_nil current rest]

end

lemma place_nil (root : Namespace) (items : List Item) : place root [] items = (items, []) := by
  rw [place_eq, Item.placeWithin_nil, Pending.itemsFor_nil, Pending.without_nil, List.append_nil]

/-! ## Types without markers -/

structure Entry.Unmarked (entry : Entry) : Prop where
  markers : entry.definition.markers = []
  base : entry.definition.base = none
  part : entry.decl.base = none

namespace Draft

/-- The fields read so far say nothing. -/
structure Quiet (d : Draft) : Prop where
  faultless : d.faults = []
  unmarked : d.entry.Unmarked

variable {d : Draft} {names : DeclaredNames} {scope : Namespace}

lemma addField_quiet (quiet : d.Quiet) (field : Field) :
    (addField names scope d field.stripped).Quiet := by
  have silent : MemberMarks.ofAttributes field.stripped.attributes = .ok {} :=
    MemberMarks.ofAttributes_kept field.attributes
  rw [addField, silent]
  cases field.stripped.name with
  | none => exact quiet
  | some name => exact ⟨quiet.faultless, quiet.unmarked.markers, quiet.unmarked.base,
      quiet.unmarked.part⟩

lemma addFields_quiet (quiet : d.Quiet) (fields : List Field) :
    ((fields.map Field.stripped).foldl (addField names scope) d).Quiet := by
  induction fields generalizing d with
  | nil => exact quiet
  | cons field rest ih => exact ih (addField_quiet quiet field)

lemma settleBase_quiet (quiet : d.Quiet) : d.settleBase.Quiet := by
  rw [settleBase, quiet.unmarked.part]
  exact quiet

end Draft

lemma failures_of_ok {ε α : Type} {outcomes : List (Except (List ε) α)}
    (read : ∀ outcome ∈ outcomes, ∃ value, outcome = .ok value) : failures outcomes = [] := by
  rw [failures, List.flatMap_eq_nil_iff]
  intro outcome listed
  obtain ⟨value, rfl⟩ := read outcome listed
  rfl

lemma failures_elements (names : DeclaredNames) (scope : Namespace) (fields : List Field) :
    failures (elementsFrom names scope 0 (fields.map Field.stripped)) = [] := by
  apply failures_of_ok
  intro outcome listed
  obtain ⟨⟨written, position⟩, present, rfl⟩ := List.mem_map.mp listed
  obtain ⟨field, _, rfl⟩ := List.mem_map.mp (List.fst_mem_of_mem_zipIdx present)
  have silent : MemberMarks.ofAttributes field.stripped.attributes = .ok {} :=
    MemberMarks.ofAttributes_kept field.attributes
  simp only [Field.element, silent]
  exact ⟨_, rfl⟩

lemma failures_parameters (names : DeclaredNames) (scope : Namespace) (function : Function) :
    failures (function.stripped.declaredParameters names scope) = [] := by
  apply failures_of_ok
  intro outcome listed
  obtain ⟨⟨written, position⟩, present, read⟩ := List.mem_filterMap.mp listed
  obtain ⟨parameter, _, rfl⟩ := List.mem_map.mp (List.fst_mem_of_mem_zipIdx present)
  cases parameter with
  | receiver code => cases read
  | variadic code => cases read
  | typed attributes pattern name ty =>
    simp only [Parameter.stripped, Parameter.declared?, MemberMarks.ofAttributes_kept] at read
    exact ⟨_, (Option.some.inj read).symm⟩

namespace Survey

/-- Nothing is said about the types entered so far, and each is entered once. -/
structure Quiet (s : Survey) : Prop where
  faultless : s.faults = []
  distinct : s.entries.keys.Nodup
  unmarked : ∀ entry ∈ s.entries, entry.2.Unmarked

variable {s : Survey} {names : DeclaredNames}

lemma empty_quiet : Survey.Quiet {} :=
  ⟨rfl, List.nodup_nil, by simp⟩

lemma blame_quiet (quiet : s.Quiet) {faults : List DeclarationFault} (none : faults = []) :
    (s.blame faults).Quiet := by
  subst none
  exact ⟨by rw [blame, List.append_nil]; exact quiet.faultless, quiet.distinct, quiet.unmarked⟩

lemma enter_quiet (quiet : s.Quiet) {entry : Entry} (unmarked : entry.Unmarked) :
    (s.enter entry).Quiet := by
  refine ⟨quiet.faultless, Table.keys_set_nodup quiet.distinct, ?_⟩
  intro known present
  rcases Table.mem_set present with rfl | old
  · exact unmarked
  · exact quiet.unmarked known old

lemma addConstructor_quiet (quiet : s.Quiet) (key : String) (c : WrittenConstructor) :
    (s.addConstructor key c).Quiet :=
  ⟨quiet.faultless, quiet.distinct, quiet.unmarked⟩

lemma amend_quiet (quiet : s.Quiet) (key : String) {change : Entry → Entry}
    (kept : ∀ entry, entry.Unmarked → (change entry).Unmarked) :
    Survey.Quiet { s with entries := s.entries.update key change } := by
  refine ⟨quiet.faultless, ?_, ?_⟩
  · rw [Table.keys_update]
    exact quiet.distinct
  · intro known present
    rcases Table.mem_update present with old | ⟨before, old, rfl⟩
    · exact quiet.unmarked known old
    · exact kept before (quiet.unmarked _ old)

lemma addStruct_quiet (quiet : s.Quiet) (placed : Scoped StructItem) :
    (addStruct names s (placed.map StructItem.stripped)).Quiet := by
  have silent : TypeMarks.ofAttributes (placed.map StructItem.stripped).item.attributes = .ok {} :=
    TypeMarks.ofAttributes_kept placed.item.attributes
  have fields : (placed.map StructItem.stripped).item.fields = placed.item.fields.stripped := rfl
  rw [addStruct]
  simp only [silent, fields]
  have blamed := blame_quiet (blame_quiet quiet (Eq.refl [])) (Eq.refl [])
  cases placed.item.fields with
  | unit => exact enter_quiet blamed ⟨rfl, rfl, rfl⟩
  | named fields trailing =>
    refine enter_quiet (blame_quiet blamed ?_) ?_
    · exact (Draft.settleBase_quiet (Draft.addFields_quiet ⟨rfl, rfl, rfl, rfl⟩ fields)).faultless
    · exact (Draft.settleBase_quiet (Draft.addFields_quiet ⟨rfl, rfl, rfl, rfl⟩ fields)).unmarked
  | positional fields trailing =>
    have read := failures_elements names placed.scope fields
    exact enter_quiet (addConstructor_quiet (blame_quiet blamed read) _ _) ⟨rfl, rfl, rfl⟩

lemma addEnum_quiet (quiet : s.Quiet) (placed : Scoped EnumItem) :
    (s.addEnum (placed.map EnumItem.stripped)).Quiet := by
  have silent : TypeMarks.ofAttributes (placed.map EnumItem.stripped).item.attributes = .ok {} :=
    TypeMarks.ofAttributes_kept placed.item.attributes
  rw [addEnum, silent]
  exact enter_quiet (blame_quiet quiet rfl) ⟨rfl, rfl, rfl⟩

lemma addTrait_quiet (quiet : s.Quiet) (placed : Scoped TraitItem) : (s.addTrait placed).Quiet :=
  enter_quiet quiet ⟨rfl, rfl, rfl⟩

lemma addFunction_quiet (quiet : s.Quiet) (scope : Namespace) (key typeName : String)
    (member : ImplMember) : (addFunction names scope key typeName s member.stripped).Quiet := by
  cases member with
  | other code => exact quiet
  | function function =>
    rw [ImplMember.stripped, addFunction]
    split
    · have read := failures_parameters names scope function
      refine addConstructor_quiet (blame_quiet (amend_quiet quiet key ?_) ?_) key _
      · exact fun entry known => ⟨known.markers, known.base, known.part⟩
      · rw [read, List.map_nil]
    · exact quiet

lemma addImpl_quiet (quiet : s.Quiet) (placed : Scoped ImplItem) :
    (addImpl names s (placed.map ImplItem.stripped)).Quiet := by
  have members : (placed.map ImplItem.stripped).item.members =
      placed.item.members.map ImplMember.stripped := rfl
  rw [addImpl]
  split
  · simp only
    split
    · exact quiet
    · split
      · exact quiet
      · exact amend_quiet quiet _ fun entry known => ⟨known.markers, known.base, known.part⟩
    · rw [members]
      refine List.foldlRecOn (motive := Survey.Quiet) _ _ quiet ?_
      intro t known member listed
      obtain ⟨written, _, rfl⟩ := List.mem_map.mp listed
      exact addFunction_quiet known _ _ _ written
  · exact quiet

lemma foldl_quiet {α : Type} {strip : α → α} {step : Survey → Scoped α → Survey}
    (keeps : ∀ (s : Survey) (x : Scoped α), s.Quiet → (step s (x.map strip)).Quiet)
    (quiet : s.Quiet) (entered : List (Scoped α)) :
    ((entered.map (·.map strip)).foldl step s).Quiet := by
  induction entered generalizing s with
  | nil => exact quiet
  | cons x rest ih => exact ih (keeps s x quiet)

lemma ofItems_quiet (items : ScopedItems) : (ofItems items.stripped).Quiet := by
  set names := declaredNames items.stripped
  have structs : (items.stripped.structs.foldl (addStruct names) {}).Quiet :=
    foldl_quiet (fun s x quiet => addStruct_quiet quiet x) empty_quiet items.structs
  have enums := foldl_quiet (fun s x quiet => addEnum_quiet quiet x) structs items.enums
  have traits := foldl_quiet (fun s x quiet => addTrait_quiet quiet (x.map TraitItem.stripped))
    enums items.traits
  exact foldl_quiet (fun s x quiet => addImpl_quiet quiet x) traits items.impls

/-- A survey of types about which nothing is said gives a schema, in which no type is mapped. -/
lemma inventory_of_quiet (quiet : s.Quiet)
    (keyed : ∀ entry ∈ s.entries, entry.1 = entry.2.definition.fullName) :
    ∃ inv, s.inventory = .ok inv ∧ inv.schema.mappedTypes = [] := by
  have linked : s.entries.values.filterMap s.baseFault? = [] := by
    rw [List.filterMap_eq_nil_iff]
    intro value listed
    obtain ⟨entry, present, rfl⟩ := List.mem_map.mp listed
    rw [baseFault?, (quiet.unmarked entry present).part]
  have faultless : s.allFaults = [] := by rw [allFaults, quiet.faultless, linked, List.append_nil]
  set definitions := s.entries.values.map (·.definition)
  have names : definitions.map (·.fullName) = s.entries.keys := by
    simp only [definitions, Table.values, Table.keys, List.map_map]
    exact List.map_congr_left fun entry listed => (keyed entry listed).symm
  have silent : ∀ d ∈ definitions, d.markers = [] ∧ d.base = none := by
    intro d listed
    obtain ⟨value, present, rfl⟩ := List.mem_map.mp listed
    obtain ⟨entry, known, rfl⟩ := List.mem_map.mp present
    exact ⟨(quiet.unmarked entry known).markers, (quiet.unmarked entry known).base⟩
  -- No type has a base, so no chain is walked, and distinct names are all that is checked.
  have built : Builder.build { types := definitions } =
      .ok ⟨{}, definitions.map TypeDef.stamped⟩ := by
    refine Builder.build_eq_ok_iff.mpr ⟨names ▸ quiet.distinct, rfl, Schema.checkBases_iff.mpr ?_⟩
    intro stamped listed
    obtain ⟨d, present, rfl⟩ := List.mem_map.mp listed
    have rootless : d.stamped.base = none := (silent d present).2
    rw [Schema.checkChain, rootless]
  refine ⟨⟨⟨{}, definitions.map TypeDef.stamped⟩,
    s.entries.map fun entry => (entry.1, s.settledDecl entry.1 entry.2.decl)⟩, ?_, ?_⟩
  · rw [inventory, faultless]
    simp only [List.isEmpty_nil, if_true]
    rw [built]
  · rw [Schema.mappedTypes, List.filter_eq_nil_iff]
    intro stamped listed
    obtain ⟨d, present, rfl⟩ := List.mem_map.mp listed
    have unmarked : d.stamped.markers = [] := (silent d present).1
    simp [TypeDef.isMapped, unmarked, Markers.has, Markers.get?]

end Survey

/-! ## Expanding -/

/-- Items without helper attributes are left as they are, whatever the options. -/
theorem expandItems_of_stripped {root : Namespace} {items : List Item}
    (clean : Item.strippedAll items = items) (options : Options) :
    expandItems root items options = .ok ⟨items, {}⟩ := by
  have left : scopedItems root items = (scopedItems root items).stripped := by
    rw [scopedItems_eq, ← Item.scopedIn_strippedAll, clean]
  have quiet : (Survey.ofItems (scopedItems root items)).Quiet := by
    rw [left]
    exact Survey.ofItems_quiet _
  have keyed : ∀ entry ∈ (Survey.ofItems (scopedItems root items)).entries,
      entry.1 = entry.2.definition.fullName := by
    intro entry listed
    obtain ⟨_, _, _, named⟩ := (Survey.ofItems_headings (scopedItems root items)).1
      (entry.1, entry.2.heading) (List.mem_map.mpr ⟨entry, listed, rfl⟩)
    exact named
  obtain ⟨inv, declared, unmapped⟩ := Survey.inventory_of_quiet quiet keyed
  have generated : generate inv.schema options = {} := by
    rw [generate_eq, unmapped]
    rfl
  have ready : Inventory.ofItems root items = .ok inv := declared
  rw [expandItems, ready]
  simp only [Except.mapError, bind, Except.bind, generated, Inventory.codeOf, List.filterMap_nil,
    List.all_nil, if_true, pure, Except.pure, clean, place_nil]

/-- Expanding is idempotent: what expansion makes of a file is left as it is by a further one,
whatever the options, and nothing is mapped or reported again. -/
theorem SourceFile.expand_expanded {file : SourceFile} {options : Options}
    {expanded : ExpandedFile} (success : file.expand options = .ok expanded) (again : Options) :
    expanded.file.expand again = .ok ⟨expanded.file, { models := [], diagnostics := [] }⟩ := by
  rw [SourceFile.expand] at success
  cases outcome : expandItems ⟨"crate"⟩ file.items options with
  | error fault => rw [outcome] at success; cases success
  | ok expansion =>
    rw [outcome] at success
    cases success
    obtain ⟨inv, codes, added, adds⟩ := Expansion.exists_adds outcome
    have items : expansion.items = (place ⟨"crate"⟩ codes (Item.strippedAll file.items)).1 := by
      rw [adds.placed]
    have clean : Item.strippedAll expansion.items = expansion.items := by
      rw [items, place_strippedAll, Item.strippedAll_strippedAll]
    rw [SourceFile.expand, expandItems_of_stripped clean again]
    rfl

/-- The shop with its three views is expanded to a file that stays as it is. -/
theorem shop_expanded_again :
    ∃ expanded, shop.expand {} = .ok expanded ∧ expanded.generation.models.length = 3 ∧
      ∀ again, expanded.file.expand again =
        .ok ⟨expanded.file, { models := [], diagnostics := [] }⟩ := by
  have planned : (shop.expand {}).toOption.map (·.generation.models.length) = some 3 := by
    decide +kernel
  cases success : shop.expand {} with
  | error fault => rw [success] at planned; cases planned
  | ok expanded =>
    rw [success] at planned
    have count : expanded.generation.models.length = 3 := Option.some.inj planned
    exact ⟨expanded, rfl, count, SourceFile.expand_expanded success⟩

end MemberMapping
