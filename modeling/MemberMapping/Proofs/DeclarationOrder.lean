import MemberMapping.Proofs.BuiltSchema
import MemberMapping.Proofs.Generation
import MemberMapping.Proofs.Inventory

/-!
Which declared types a survey enters, and in which order.

Every step sets the entry of a declared name or amends entries without touching names and markers.
Only structs are mapped, so that the mapped types stand in the order in which the structs were first
declared. This holds whatever the parameters of functions are called.
-/

namespace MemberMapping

/-! ## Headings -/

/-- What the place of an entry depends on, and whether its type is mapped. -/
structure Heading where
  path : TypePath
  mapped : Bool

def Entry.heading (e : Entry) : Heading :=
  ⟨e.definition.path, e.definition.isMapped⟩

def declaredPath (scope : Namespace) (written : String) : TypePath :=
  .plain scope (Token.plainName written)

/-- The full names of structs, in source order. -/
def ScopedItems.structNames (items : ScopedItems) : List String :=
  items.structs.map fun s => (declaredPath s.scope s.item.name).definitionName

def setHeading (t : Table Heading) (path : TypePath) (mapped : Bool) : Table Heading :=
  t.set path.definitionName ⟨path, mapped⟩

namespace Survey

variable {names : DeclaredNames}

def headings (s : Survey) : Table Heading :=
  s.entries.map fun entry => (entry.1, entry.2.heading)

lemma headings_enter (s : Survey) {entry : Entry} {path : TypePath}
    (named : entry.definition.path = path) :
    (s.enter entry).headings = setHeading s.headings path entry.definition.isMapped := by
  subst named
  exact Table.map_set Entry.heading s.entries entry.definition.fullName entry

end Survey

/-- Reading fields leaves the path of the entry alone. -/
lemma Draft.addField_path (names : DeclaredNames) (scope : Namespace) (d : Draft) (field : Field) :
    (addField names scope d field).entry.definition.path = d.entry.definition.path := by
  rw [addField]
  split
  · rfl
  · rfl
  · split
    · rw [addBase]
      split
      · rfl
      · split <;> rfl
    · rfl

lemma Draft.addFields_path (names : DeclaredNames) (scope : Namespace) (d : Draft)
    (fields : List Field) :
    (fields.foldl (addField names scope) d).entry.definition.path = d.entry.definition.path := by
  induction fields generalizing d with
  | nil => rfl
  | cons field rest ih => exact (ih _).trans (addField_path names scope d field)

lemma Draft.settleBase_path (d : Draft) :
    d.settleBase.entry.definition.path = d.entry.definition.path := by
  rw [settleBase]
  split <;> rfl

namespace Survey

variable {names : DeclaredNames}

lemma headings_addStruct (names : DeclaredNames) (s : Survey) (placed : Scoped StructItem) :
    ∃ mapped, (addStruct names s placed).headings =
      setHeading s.headings (declaredPath placed.scope placed.item.name) mapped := by
  rw [addStruct]
  cases placed.item.fields with
  | unit => exact ⟨_, headings_enter _ rfl⟩
  | positional fields trailing => exact ⟨_, headings_enter _ rfl⟩
  | named fields trailing =>
    refine ⟨_, headings_enter _ ?_⟩
    rw [Draft.settleBase_path, Draft.addFields_path]
    rfl

lemma headings_addEnum (s : Survey) (placed : Scoped EnumItem) :
    (s.addEnum placed).headings =
      setHeading s.headings (declaredPath placed.scope placed.item.name) false :=
  headings_enter _ rfl

lemma headings_addTrait (s : Survey) (placed : Scoped TraitItem) :
    (s.addTrait placed).headings =
      setHeading s.headings (declaredPath placed.scope placed.item.name) false :=
  headings_enter _ rfl

lemma headings_addFunction (scope : Namespace) (key typeName : String) (s : Survey)
    (member : ImplMember) :
    (addFunction names scope key typeName s member).headings = s.headings := by
  cases member with
  | other code => rfl
  | function function =>
    rw [addFunction]
    split
    · simp only [headings, addConstructor, blame]
      exact Table.map_update (f := Entry.heading) (fun entry => by rfl) s.entries key
    · rfl

lemma headings_addImpl (s : Survey) (placed : Scoped ImplItem) :
    (addImpl names s placed).headings = s.headings := by
  rw [addImpl]
  split
  · simp only
    split
    · rfl
    · split
      · rfl
      · simp only [headings]
        exact Table.map_update (f := Entry.heading) (fun entry => by rfl) s.entries _
    · refine List.foldlRecOn (motive := fun t : Survey => t.headings = s.headings) _ _ rfl ?_
      intro t same member _
      exact (headings_addFunction _ _ _ t member).trans same
  · rfl

/-! ## What a survey lists -/

/-- Every heading is that of a declared name and stands under its full name. -/
def Declared (items : ScopedItems) (t : Table Heading) : Prop :=
  ∀ entry ∈ t, ∃ name ∈ declaredNames items,
    entry.2.path = .plain name.2 name.1 ∧ entry.1 = entry.2.path.definitionName

/-- The full names of the mapped types, in the order of the entries. -/
def mappedNames (t : Table Heading) : List String :=
  Table.keys (t.filter (·.2.mapped))

lemma Declared.set {items : ScopedItems} {t : Table Heading} (declared : Declared items t)
    {scope : Namespace} {written : String} (mapped : Bool)
    (known : (Token.plainName written, scope) ∈ declaredNames items) :
    Declared items (setHeading t (declaredPath scope written) mapped) := by
  intro entry present
  rcases Table.mem_set present with rfl | old
  · exact ⟨_, known, rfl, rfl⟩
  · exact declared entry old

lemma declared_foldl {α : Type} {items : ScopedItems} {step : Survey → Scoped α → Survey}
    (name : α → String) {entered : List (Scoped α)} {s : Survey}
    (known : ∀ x ∈ entered, (Token.plainName (name x.item), x.scope) ∈ declaredNames items)
    (sets : ∀ (s : Survey) (x : Scoped α), ∃ mapped,
      (step s x).headings = setHeading s.headings (declaredPath x.scope (name x.item)) mapped)
    (declared : Declared items s.headings) :
    Declared items (entered.foldl step s).headings := by
  induction entered generalizing s with
  | nil => exact declared
  | cons x rest ih =>
    have others : ∀ y ∈ rest, (Token.plainName (name y.item), y.scope) ∈ declaredNames items :=
      fun y later => known y (List.mem_cons_of_mem x later)
    apply ih others
    obtain ⟨mapped, same⟩ := sets s x
    rw [same]
    exact declared.set mapped (known x List.mem_cons_self)

lemma mappedNames_foldl {α : Type} {step : Survey → Scoped α → Survey} (name : α → String)
    (sets : ∀ (s : Survey) (x : Scoped α),
      (step s x).headings = setHeading s.headings (declaredPath x.scope (name x.item)) false)
    (entered : List (Scoped α)) (s : Survey) :
    (mappedNames (entered.foldl step s).headings).Sublist (mappedNames s.headings) := by
  induction entered generalizing s with
  | nil => exact List.Sublist.refl _
  | cons x rest ih =>
    have first : (mappedNames (step s x).headings).Sublist (mappedNames s.headings) := by
      rw [sets]
      exact (Table.filter_set_sublist Heading.mapped s.headings _ rfl).map _
    exact (ih (step s x)).trans first

lemma keys_foldl_addStruct (names : DeclaredNames) (structs : List (Scoped StructItem))
    (s : Survey) :
    (structs.foldl (addStruct names) s).headings.keys.Sublist (s.headings.keys ++
      structs.map fun x => (declaredPath x.scope x.item.name).definitionName) := by
  induction structs generalizing s with
  | nil => simp
  | cons x rest ih =>
    obtain ⟨mapped, same⟩ := headings_addStruct names s x
    have first : (addStruct names s x).headings.keys.Sublist
        (s.headings.keys ++ [(declaredPath x.scope x.item.name).definitionName]) := by
      rw [same]
      exact Table.keys_set_sublist s.headings _ _
    have step := (ih (addStruct names s x)).trans (List.Sublist.append_right first _)
    simpa only [List.foldl_cons, List.map_cons, List.append_assoc, List.singleton_append]
      using step

lemma headings_foldl_addImpl (impls : List (Scoped ImplItem)) (s : Survey) :
    (impls.foldl (addImpl names) s).headings = s.headings := by
  induction impls generalizing s with
  | nil => rfl
  | cons x rest ih => exact (ih (addImpl names s x)).trans (headings_addImpl s x)

/-- A survey enters declared names, and mapped types in the order of the structs. -/
theorem ofItems_headings (items : ScopedItems) :
    Declared items (ofItems items).headings ∧
      (mappedNames (ofItems items).headings).Sublist items.structNames := by
  rw [ofItems]
  simp only [headings_foldl_addImpl]
  constructor
  · apply declared_foldl TraitItem.name _ fun s x => ⟨_, headings_addTrait s x⟩
    · apply declared_foldl EnumItem.name _ fun s x => ⟨_, headings_addEnum s x⟩
      · apply declared_foldl StructItem.name _ fun s x => headings_addStruct _ s x
        · simp [Declared, headings]
        · intro x listed
          simp only [declaredNames, List.mem_append, List.mem_map]
          exact .inl (.inl ⟨x, listed, rfl⟩)
      · intro x listed
        simp only [declaredNames, List.mem_append, List.mem_map]
        exact .inl (.inr ⟨x, listed, rfl⟩)
    · intro x listed
      simp only [declaredNames, List.mem_append, List.mem_map]
      exact .inr ⟨x, listed, rfl⟩
  · have traits := mappedNames_foldl TraitItem.name headings_addTrait items.traits
    have enums := mappedNames_foldl EnumItem.name headings_addEnum items.enums
    have structs := keys_foldl_addStruct (declaredNames items) items.structs {}
    refine (traits _).trans ((enums _).trans (List.Sublist.trans ?_ structs))
    exact List.filter_sublist.map _

end Survey

/-! ## The inventory -/

/-- The types of a schema are declared in the program and have a written form. Those that are
mapped stand in the order of the structs. -/
structure Inventory.Listed (inv : Inventory) (items : ScopedItems) : Prop where
  declared : ∀ d ∈ inv.schema.types, (d.name, d.scope) ∈ Survey.declaredNames items
  ordered : (inv.schema.mappedTypes.map (·.fullName)).Sublist items.structNames
  written : ∀ d ∈ inv.schema.types, ∃ decl, inv.decls.get? d.fullName = some decl

lemma Survey.keyed_of_declared {s : Survey} {items : ScopedItems}
    (declared : Declared items s.headings) :
    ∀ entry ∈ s.entries, entry.1 = entry.2.definition.fullName := by
  intro entry listed
  obtain ⟨_, _, _, named⟩ := declared _ (List.mem_map.mpr ⟨entry, listed, rfl⟩)
  exact named

lemma Survey.inventory_listed {s : Survey} {items : ScopedItems} {inv : Inventory}
    (declared : Declared items s.headings)
    (ordered : (mappedNames s.headings).Sublist items.structNames)
    (ready : s.inventory = .ok inv) : inv.Listed items := by
  have heading : ∀ entry ∈ s.entries, (entry.1, entry.2.heading) ∈ s.headings :=
    fun entry listed => List.mem_map.mpr ⟨entry, listed, rfl⟩
  have keyed := keyed_of_declared declared
  obtain ⟨types, _, written⟩ := inventory_entries keyed ready
  have typeOf : ∀ d ∈ inv.schema.types, ∃ entry ∈ s.entries, entry.2.definition.stamped = d := by
    intro d present
    rw [types] at present
    exact List.mem_map.mp present
  refine ⟨?_, ?_, ?_⟩
  · intro d present
    obtain ⟨entry, listed, rfl⟩ := typeOf d present
    obtain ⟨name, known, path, _⟩ := declared _ (heading entry listed)
    have same : entry.2.definition.path = .plain name.2 name.1 := path
    simp only [TypeDef.name, TypeDef.scope, TypeDef.stamped, same]
    exact known
  · have mapped : inv.schema.mappedTypes.map (·.fullName) = mappedNames s.headings := by
      simp only [Schema.mappedTypes, types, mappedNames, headings, Table.keys, List.filter_map,
        List.map_map]
      apply List.map_congr_left
      intro entry listed
      exact (keyed entry (List.mem_filter.mp listed).1).symm
    rw [mapped]
    exact ordered
  · intro d present
    obtain ⟨entry, listed, rfl⟩ := typeOf d present
    exact ⟨_, written entry listed⟩

theorem Inventory.listed_of_ofItems {root : Namespace} {items : List Item} {inv : Inventory}
    (ready : Inventory.ofItems root items = .ok inv) : inv.Listed (scopedItems root items) := by
  obtain ⟨declared, ordered⟩ := Survey.ofItems_headings (scopedItems root items)
  exact Survey.inventory_listed declared ordered ready

end MemberMapping
