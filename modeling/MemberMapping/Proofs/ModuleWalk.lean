import Mathlib.Data.List.Basic
import MemberMapping.Inventory.Survey

/-!
The two walks over a tree of modules.

The second walk takes from the namespaces of the first exactly those of the modules that it enters.
So it gives each item the namespace of its module, and a name is declared in a namespace exactly if
the module of that path declares it.
-/

namespace MemberMapping

mutual

/-- What an item that stands in `current` holds, with the namespaces that its modules have by their
names. -/
def Item.scoped (current : Namespace) : Item → ScopedItems
  | .struct item => { structs := [⟨current, item⟩] }
  | .enum item => { enums := [⟨current, item⟩] }
  | .trait item => { traits := [⟨current, item⟩] }
  | .impl item => { impls := [⟨current, item⟩] }
  | .module _ _ name _ items => Item.scopedIn (current.join name) items
  | _ => {}

@[inherit_doc Item.scoped]
def Item.scopedIn (current : Namespace) : List Item → ScopedItems
  | [] => {}
  | item :: rest => item.scoped current ++ Item.scopedIn current rest

end

mutual

/-- The second walk uses up the namespaces of the first. -/
lemma Item.collect_eq (current : Namespace) (pending : List Namespace) (item : Item) :
    item.collect current (item.namespaces current ++ pending) =
      some (item.scoped current, pending) := by
  cases item with
  | module attributes front name innerAttributes items =>
    rw [Item.namespaces, List.cons_append, Item.collect, Item.scoped]
    exact Item.collectAll_eq (current.join name) pending items
  | struct item => rfl
  | enum item => rfl
  | union item => rfl
  | trait item => rfl
  | impl item => rfl
  | other code => rfl
  | generated code => rfl

@[inherit_doc Item.collect_eq]
lemma Item.collectAll_eq (current : Namespace) (pending : List Namespace) (items : List Item) :
    Item.collectAll current (Item.namespacesIn current items ++ pending) items =
      some (Item.scopedIn current items, pending) := by
  cases items with
  | nil => rfl
  | cons item rest =>
    rw [Item.namespacesIn, List.append_assoc, Item.collectAll, Item.collect_eq]
    simp only [Item.collectAll_eq current pending rest, Item.scopedIn]

end

lemma scopedItems_eq (root : Namespace) (items : List Item) :
    scopedItems root items = Item.scopedIn root items := by
  have whole := Item.collectAll_eq root [] items
  rw [List.append_nil] at whole
  simp only [scopedItems, collect, namespaces, whole, Option.map_some, Option.getD_some]

def Scoped.map {α β : Type} (f : α → β) (placed : Scoped α) : Scoped β :=
  ⟨placed.scope, f placed.item⟩

def ScopedItems.map (ofStruct : StructItem → StructItem) (ofEnum : EnumItem → EnumItem)
    (ofTrait : TraitItem → TraitItem) (ofImpl : ImplItem → ImplItem) (items : ScopedItems) :
    ScopedItems :=
  ⟨items.structs.map (·.map ofStruct), items.enums.map (·.map ofEnum),
    items.traits.map (·.map ofTrait), items.impls.map (·.map ofImpl)⟩

lemma ScopedItems.map_append (ofStruct : StructItem → StructItem) (ofEnum : EnumItem → EnumItem)
    (ofTrait : TraitItem → TraitItem) (ofImpl : ImplItem → ImplItem) (first second : ScopedItems) :
    (first ++ second).map ofStruct ofEnum ofTrait ofImpl =
      first.map ofStruct ofEnum ofTrait ofImpl ++ second.map ofStruct ofEnum ofTrait ofImpl := by
  have parts : first ++ second = ⟨first.structs ++ second.structs, first.enums ++ second.enums,
    first.traits ++ second.traits, first.impls ++ second.impls⟩ := rfl
  simp only [parts, map, List.map_append]
  rfl

def Item.declaredName? : Item → Option String
  | .struct item => some (Token.plainName item.name)
  | .enum item => some (Token.plainName item.name)
  | .trait item => some (Token.plainName item.name)
  | _ => none

def Item.isModule : Item → Bool
  | .module _ _ _ _ _ => true
  | _ => false

/-- The module at a path declares a type of that name. The path consists of the names of modules,
each within the one before. -/
inductive Item.Declares : List Item → List String → String → Prop
  | here {items : List Item} {item : Item} {name : String} (present : item ∈ items)
      (named : item.declaredName? = some name) : Declares items [] name
  | inside {items inner : List Item} {attributes : List Attribute} {front : List Code}
      {moduleName : String} {innerAttributes : List Attribute} {path : List String} {name : String}
      (present : .module attributes front moduleName innerAttributes inner ∈ items)
      (rest : Declares inner path name) : Declares items (moduleName :: path) name

namespace Item

lemma not_declares_nil {path : List String} {name : String} : ¬ Declares [] path name := by
  intro declares
  cases declares with
  | here present named => cases present
  | inside present rest => cases present

/-- What is declared by items is declared by the first of them or by the others. -/
lemma declares_cons (item : Item) (rest : List Item) {path : List String} {name : String} :
    Declares (item :: rest) path name ↔ Declares [item] path name ∨ Declares rest path name := by
  constructor
  · intro declares
    cases declares with
    | here present named =>
      rcases List.mem_cons.mp present with rfl | later
      · exact Or.inl (.here List.mem_cons_self named)
      · exact Or.inr (.here later named)
    | inside present inner =>
      rcases List.mem_cons.mp present with rfl | later
      · exact Or.inl (.inside List.mem_cons_self inner)
      · exact Or.inr (.inside later inner)
  · rintro (first | others)
    · cases first with
      | here present named =>
        cases List.mem_singleton.mp present
        exact .here List.mem_cons_self named
      | inside present inner =>
        cases List.mem_singleton.mp present
        exact .inside List.mem_cons_self inner
    · cases others with
      | here present named => exact .here (List.mem_cons_of_mem item present) named
      | inside present inner => exact .inside (List.mem_cons_of_mem item present) inner

/-- An item that is no module declares its own name alone. -/
lemma declares_leaf {item : Item} (leaf : item.isModule = false) {path : List String}
    {name : String} :
    Declares [item] path name ↔ path = [] ∧ item.declaredName? = some name := by
  constructor
  · intro declares
    cases declares with
    | here present named =>
      cases List.mem_singleton.mp present
      exact ⟨rfl, named⟩
    | inside present rest =>
      rw [← List.mem_singleton.mp present] at leaf
      cases leaf
  · rintro ⟨rfl, named⟩
    exact .here List.mem_cons_self named

end Item

def Namespace.descend (root : Namespace) (path : List String) : Namespace :=
  path.foldl Namespace.join root

namespace Survey

lemma mem_declaredNames_append (first second : ScopedItems) (declared : String × Namespace) :
    declared ∈ declaredNames (first ++ second) ↔
      declared ∈ declaredNames first ∨ declared ∈ declaredNames second := by
  have parts : first ++ second = ⟨first.structs ++ second.structs, first.enums ++ second.enums,
    first.traits ++ second.traits, first.impls ++ second.impls⟩ := rfl
  simp only [declaredNames, parts, List.map_append, List.mem_append]
  tauto

lemma mem_declaredNames_leaf {current : Namespace} {item : Item} (leaf : item.isModule = false)
    {name : String} {scope : Namespace}
    (own : (name, scope) ∈ declaredNames (item.scoped current) ↔
      item.declaredName? = some name ∧ scope = current) :
    (name, scope) ∈ declaredNames (item.scoped current) ↔
      ∃ path, Item.Declares [item] path name ∧ scope = current.descend path := by
  rw [own]
  constructor
  · rintro ⟨named, rfl⟩
    exact ⟨[], (Item.declares_leaf leaf).mpr ⟨rfl, named⟩, rfl⟩
  · rintro ⟨path, declares, rfl⟩
    obtain ⟨rfl, named⟩ := (Item.declares_leaf leaf).mp declares
    exact ⟨named, rfl⟩

mutual

lemma mem_declaredNames_scoped (current : Namespace) (item : Item) (name : String)
    (scope : Namespace) :
    (name, scope) ∈ declaredNames (item.scoped current) ↔
      ∃ path, Item.Declares [item] path name ∧ scope = current.descend path := by
  cases item with
  | module attributes front moduleName innerAttributes items =>
    rw [Item.scoped, mem_declaredNames_scopedIn]
    constructor
    · rintro ⟨path, declares, rfl⟩
      exact ⟨moduleName :: path, .inside List.mem_cons_self declares, rfl⟩
    · rintro ⟨path, declares, rfl⟩
      cases declares with
      | here present named =>
        rw [List.mem_singleton.mp present] at named
        cases named
      | inside present rest =>
        cases List.mem_singleton.mp present
        exact ⟨_, rest, rfl⟩
  | struct item | enum item | trait item =>
    refine mem_declaredNames_leaf rfl ?_
    simp [Item.scoped, declaredNames, Item.declaredName?, eq_comm]
  | union item | impl item | other item | generated item =>
    refine mem_declaredNames_leaf rfl ?_
    simp [Item.scoped, declaredNames, Item.declaredName?]

/-- A name is declared in the namespace of each module that declares it, and in no other. -/
lemma mem_declaredNames_scopedIn (current : Namespace) (items : List Item) (name : String)
    (scope : Namespace) :
    (name, scope) ∈ declaredNames (Item.scopedIn current items) ↔
      ∃ path, Item.Declares items path name ∧ scope = current.descend path := by
  cases items with
  | nil => simp [Item.scopedIn, declaredNames, Item.not_declares_nil]
  | cons item rest =>
    rw [Item.scopedIn, mem_declaredNames_append, mem_declaredNames_scoped,
      mem_declaredNames_scopedIn, ← exists_or]
    simp only [Item.declares_cons item rest, or_and_right]

end

theorem mem_scopesOf {root : Namespace} {items : List Item} {name : String} {scope : Namespace} :
    scope ∈ (declaredNames (scopedItems root items)).scopesOf name ↔
      ∃ path, Item.Declares items path name ∧ scope = root.descend path := by
  rw [scopedItems_eq, ← mem_declaredNames_scopedIn, DeclaredNames.scopesOf, List.mem_map]
  constructor
  · rintro ⟨⟨declared, other⟩, present, rfl⟩
    obtain ⟨listed, same⟩ := List.mem_filter.mp present
    cases beq_iff_eq.mp same
    exact listed
  · intro listed
    exact ⟨(name, scope), List.mem_filter.mpr ⟨listed, beq_iff_eq.mpr rfl⟩, rfl⟩

end Survey

lemma Item.mem_namespacesIn {current : Namespace} {items : List Item} {item : Item}
    (present : item ∈ items) {scope : Namespace} (inside : scope ∈ item.namespaces current) :
    scope ∈ Item.namespacesIn current items := by
  induction items with
  | nil => cases present
  | cons first rest ih =>
    rw [Item.namespacesIn, List.mem_append]
    rcases List.mem_cons.mp present with rfl | later
    · exact Or.inl inside
    · exact Or.inr (ih later)

/-- The first walk lists the namespace of every module in which a name is declared. -/
lemma descend_mem_namespaces {items : List Item} {path : List String} {name : String}
    (declares : Item.Declares items path name) (current : Namespace) :
    current.descend path ∈ namespaces current items := by
  induction declares generalizing current with
  | here present named => exact List.mem_cons_self
  | @inside _ _ _ _ moduleName _ _ _ present _ ih =>
    have below := ih (current.join moduleName)
    exact List.mem_cons_of_mem current (Item.mem_namespacesIn present below)

lemma Survey.scope_mem_namespaces {root : Namespace} {items : List Item} {name : String}
    {scope : Namespace} (declared : (name, scope) ∈ declaredNames (scopedItems root items)) :
    scope ∈ namespaces root items := by
  rw [scopedItems_eq, mem_declaredNames_scopedIn] at declared
  obtain ⟨path, declares, rfl⟩ := declared
  exact descend_mem_namespaces declares root

end MemberMapping
