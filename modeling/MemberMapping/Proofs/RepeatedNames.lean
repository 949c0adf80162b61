import MemberMapping.Proofs.TypeItems

/-!
Which items an inventory holds.

Items of one full name share one entry. Without two items of one name every struct, enum and trait
has its own type in the schema and its own written form. Of several the last one is held, in the
place of the first, and nothing is said about the others.
-/

namespace MemberMapping

/-- The last item of each name, in the order in which the names first come. -/
def ScopedItems.lastItems (items : ScopedItems) : List TypeItem :=
  (items.typeItems.map (·.fullName)).eraseDups.filterMap fun name =>
    (items.typeItems.filter (·.fullName == name)).getLast?

/-- A type and its written form are those of an item, up to what implementations add. -/
structure TypeItem.Declares (names : DeclaredNames) (item : TypeItem) (d : TypeDef) (decl : Decl) :
    Prop where
  definition : d.ownPart = (item.entry names).definition.stamped.ownPart
  written : decl.ownPart = (item.entry names).decl.ownPart

lemma TypeItem.Declares.path {names : DeclaredNames} {item : TypeItem} {d : TypeDef} {decl : Decl}
    (declares : item.Declares names d decl) : d.path = item.path :=
  (congrArg TypeDef.path declares.definition).trans item.entry_path

/-- An inventory holds a list of items: its types and its written forms are those of the items, one
for each of them and in their order. -/
structure Inventory.Holds (inv : Inventory) (names : DeclaredNames) (items : List TypeItem) :
    Prop where
  types : List.Forall₂ (fun d item => ∃ decl, inv.decls.get? item.fullName = some decl ∧
    item.Declares names d decl) inv.schema.types items
  keys : inv.decls.keys = items.map (·.fullName)

/-! ## Items that are kept -/

namespace ScopedItems

variable (items : ScopedItems)

lemma kept_distinct : items.kept.keys.Nodup := by
  refine List.foldlRecOn (motive := fun t : Table TypeItem => t.keys.Nodup) _ _ List.nodup_nil ?_
  exact fun t distinct item _ => Table.keys_set_nodup distinct

lemma fullName_of_kept {name : String} {item : TypeItem} (kept : (name, item) ∈ items.kept) :
    item.fullName = name := by
  have found := Table.get?_of_mem items.kept_distinct kept
  rw [get?_kept] at found
  have listed := List.mem_of_getLast? found
  exact beq_iff_eq.mp (List.mem_filter.mp listed).2

lemma values_kept : items.kept.values = items.lastItems := by
  rw [Table.values_of_distinct items.kept_distinct, keys_kept, lastItems]
  congr 1
  funext name
  exact items.get?_kept name

lemma mem_of_get?_kept {name : String} {item : TypeItem}
    (found : items.kept.get? name = some item) : item ∈ items.typeItems := by
  rw [get?_kept] at found
  exact (List.mem_filter.mp (List.mem_of_getLast? found)).1

lemma mem_lastItems_iff {item : TypeItem} :
    item ∈ items.lastItems ↔ items.kept.get? item.fullName = some item := by
  rw [← items.values_kept, Table.values, List.mem_map]
  constructor
  · rintro ⟨⟨name, _⟩, listed, rfl⟩
    have known := items.fullName_of_kept listed
    rw [known]
    exact Table.get?_of_mem items.kept_distinct listed
  · intro found
    exact ⟨_, Table.mem_of_get? found, rfl⟩

lemma eq_of_held {item other : TypeItem} {name : String} (held : item ∈ items.lastItems)
    (called : item.fullName = name) (kept : items.kept.get? name = some other) : item = other := by
  rw [mem_lastItems_iff, called, kept] at held
  exact (Option.some.inj held).symm

lemma names_kept : items.kept.values.map (·.fullName) = items.kept.keys := by
  rw [Table.values, Table.keys, List.map_map]
  exact List.map_congr_left fun item kept => items.fullName_of_kept kept

lemma values_kept_of_distinct (distinct : (items.typeItems.map (·.fullName)).Nodup) :
    items.kept.values = items.typeItems := by
  have all := Table.foldl_set_of_distinct TypeItem.fullName id (t := []) distinct
    fun _ _ => List.not_mem_nil
  have kept : items.kept = items.typeItems.map fun item => (item.fullName, item) := all
  rw [kept, Table.values, List.map_map]
  exact List.map_id _

end ScopedItems

/-! ## What an inventory holds -/

lemma Survey.settledDecl_ownPart (s : Survey) (key : String) (decl : Decl) :
    (s.settledDecl key decl).ownPart = decl.ownPart := by
  rw [settledDecl]
  split
  · rename_i tuple _
    simp only [Decl.ownPart, tuple]
  · rfl

lemma Survey.entries_beside_kept (items : ScopedItems) :
    List.Forall₂ (fun entry item => entry.1 = item.1 ∧
      entry.2.ownPart = (item.2.entry (declaredNames items)).ownPart)
      (ofItems items).entries items.kept := by
  have beside := List.forall₂_eq_eq_eq ▸ ofItems_ownParts items
  rw [ownParts, List.forall₂_map_left_iff, List.forall₂_map_right_iff] at beside
  exact beside.imp fun entry item same => Prod.mk.inj same

lemma TypeDef.stamped_ownPart (d : TypeDef) : d.stamped.ownPart = d.ownPart.stamped := rfl

lemma Inventory.holds_kept {root : Namespace} {items : List Item} {inv : Inventory}
    (ready : Inventory.ofItems root items = .ok inv) :
    inv.Holds (Survey.declaredNames (scopedItems root items))
      (scopedItems root items).kept.values := by
  have keyed := Survey.keyed_of_declared (Survey.ofItems_headings (scopedItems root items)).1
  obtain ⟨_, _, settled⟩ := Survey.inventory_ok ready
  obtain ⟨types, _, written⟩ := Survey.inventory_entries keyed ready
  have beside := (List.forall₂_and_left _ _).mpr
    ⟨fun _ listed => listed, Survey.entries_beside_kept (scopedItems root items)⟩
  constructor
  · rw [types, Table.values, List.forall₂_map_left_iff, List.forall₂_map_right_iff]
    refine beside.imp fun entry item same => ?_
    obtain ⟨listed, _, own⟩ := same
    have definition : entry.2.definition.ownPart = _ := congrArg Entry.definition own
    have path : entry.2.definition.path = item.2.path :=
      (congrArg TypeDef.path definition).trans item.2.entry_path
    have fullName : entry.2.definition.fullName = item.2.fullName :=
      congrArg TypePath.definitionName path
    refine ⟨_, fullName ▸ written entry listed, ?_, ?_⟩
    · rw [TypeDef.stamped_ownPart, TypeDef.stamped_ownPart, definition]
      rfl
    · rw [Survey.settledDecl_ownPart]
      exact congrArg Entry.decl own
  · have parts := congrArg Table.keys (Survey.ofItems_ownParts (scopedItems root items))
    rw [settled, ScopedItems.names_kept]
    simp only [Table.keys, Survey.ownParts, List.map_map] at parts ⊢
    exact parts

/-- An inventory holds the last item of each name. It holds every struct, enum and trait exactly if
no two of them have one full name. -/
theorem Inventory.holds_last_items {root : Namespace} {items : List Item} {inv : Inventory}
    (ready : Inventory.ofItems root items = .ok inv) :
    inv.Holds (Survey.declaredNames (scopedItems root items)) (scopedItems root items).lastItems ∧
      (inv.Holds (Survey.declaredNames (scopedItems root items))
          (scopedItems root items).typeItems ↔
        ((scopedItems root items).typeItems.map (·.fullName)).Nodup) := by
  have kept := holds_kept ready
  have last : inv.Holds (Survey.declaredNames (scopedItems root items))
      (scopedItems root items).lastItems := (scopedItems root items).values_kept ▸ kept
  refine ⟨last, ?_, ?_⟩
  · intro every
    rw [← every.keys, kept.keys, ScopedItems.names_kept]
    exact (scopedItems root items).kept_distinct
  · intro distinct
    exact (scopedItems root items).values_kept_of_distinct distinct ▸ kept

/-- A type `User` for one system and another for a second one. -/
def configuredUsers : List Item :=
  let only (system : String) : Attribute :=
    ⟨⟨false, ["cfg"]⟩, .arguments .paren [.ident system]⟩
  [.struct ⟨[only "unix"], [], "User", [], [], .unit⟩,
    .struct ⟨[only "windows"], [], "User", [], [],
      .named [⟨[], [], some "id", .path ⟨false, [.plain "i32"]⟩⟩] false⟩]

def configuredInventory : Inventory :=
  (Inventory.ofItems ⟨"crate"⟩ configuredUsers).toOption.getD ⟨⟨{}, []⟩, []⟩

lemma configuredUsers_declared :
    Inventory.ofItems ⟨"crate"⟩ configuredUsers = .ok configuredInventory :=
  Inventory.of_accepted _ (by decide +kernel)

/-- Of two types `User` the inventory holds the last one. -/
theorem configuredUsers_hold_last :
    Inventory.ofItems ⟨"crate"⟩ configuredUsers = .ok configuredInventory ∧
    configuredInventory.Holds (Survey.declaredNames (scopedItems ⟨"crate"⟩ configuredUsers))
      (scopedItems ⟨"crate"⟩ configuredUsers).lastItems ∧
    (configuredInventory.Holds (Survey.declaredNames (scopedItems ⟨"crate"⟩ configuredUsers))
        (scopedItems ⟨"crate"⟩ configuredUsers).typeItems ↔
      ((scopedItems ⟨"crate"⟩ configuredUsers).typeItems.map (·.fullName)).Nodup) :=
  ⟨configuredUsers_declared, Inventory.holds_last_items configuredUsers_declared⟩

/-- A struct of two is missing from the inventory. A builder that is given both says that the name
is declared twice. -/
theorem first_user_dropped :
    Inventory.ofItems ⟨"crate"⟩ configuredUsers = .ok configuredInventory ∧
    (scopedItems ⟨"crate"⟩ configuredUsers).typeItems.length = 2 ∧
    configuredInventory.schema.types.length = 1 ∧ configuredInventory.decls.length = 1 ∧
    ¬ configuredInventory.Holds (Survey.declaredNames (scopedItems ⟨"crate"⟩ configuredUsers))
      (scopedItems ⟨"crate"⟩ configuredUsers).typeItems ∧
    Builder.build
        { types := (scopedItems ⟨"crate"⟩ configuredUsers).typeItems.map fun item =>
            (item.entry []).definition } = .error (.declaredTwice "crate::User") := by
  have two : (scopedItems ⟨"crate"⟩ configuredUsers).typeItems.length = 2 := by decide +kernel
  have one : configuredInventory.schema.types.length = 1 := by decide +kernel
  refine ⟨configuredUsers_declared, two, one, by decide +kernel, fun every => ?_, ?_⟩
  · have same := every.types.length_eq
    omega
  -- schemas cannot be compared by a decision procedure, so both sides are computed
  · with_unfolding_all rfl

end MemberMapping
