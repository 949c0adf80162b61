import MemberMapping.Proofs.RepeatedNames

/-!
Which faults are reported for the declarations of a program.

Each item has its own faults, and so has each link from a held struct to its base. All of them are
reported together. What they are depends on which structs are mapped: a struct whose attributes
cannot be read counts as one that is not, so that an attribute at fault can hide or make up others.
-/

namespace MemberMapping

/-! ## Mapped structs -/

def StructItem.carriesSource (item : StructItem) : Bool :=
  Attribute.present "map_from" item.attributes

def StructItem.readable (item : StructItem) : Bool :=
  (TypeMarks.ofAttributes item.attributes).isOk

/-- A struct is taken to be mapped if it names a source and all its attributes can be read. -/
lemma StructItem.seemsMapped_eq (item : StructItem) :
    item.seemsMapped = (item.readable && item.carriesSource) := by
  rw [seemsMapped, marks, readable, carriesSource]
  cases read : TypeMarks.ofAttributes item.attributes with
  | error faults => rfl
  | ok marks => exact TypeMarks.source_of_read read

/-- The item is a struct that is mapped, where `mapped` tells which structs are. -/
def TypeItem.isMapped (mapped : StructItem → Bool) : TypeItem → Bool
  | struct placed => mapped placed.item
  | enum _ => false
  | trait _ => false

/-! ## Faults of the whole -/

def ScopedItems.linkFault? (items : ScopedItems) (mapped : StructItem → Bool) (item : TypeItem) :
    Option DeclarationFault :=
  match (item.entry (Survey.declaredNames items)).decl.base with
  | none => none
  | some part =>
    match items.kept.get? part.path.definitionName with
    | none => some (.baseNotDeclared part.path.fullName)
    | some base =>
      if item.isMapped mapped && !base.isMapped mapped then some (.baseNotMapped base.path.name)
      else none

/-- The faults of each item and of each link by itself, where `mapped` tells which structs are
mapped. -/
def ScopedItems.faultsBy (items : ScopedItems) (mapped : StructItem → Bool) :
    List DeclarationFault :=
  items.typeItems.flatMap (·.faults (Survey.declaredNames items) mapped) ++
    items.impls.flatMap (ImplItem.faults (Survey.declaredNames items) items.nameOf?) ++
    items.lastItems.filterMap (items.linkFault? mapped)

/-- A type has a marker for its source exactly if it is a struct that is taken to be mapped. -/
lemma TypeItem.entry_mapFrom? (names : DeclaredNames) (item : TypeItem) :
    (item.entry names).definition.mapFrom?.isSome = item.isMapped StructItem.seemsMapped := by
  cases item with
  | enum placed => rfl
  | trait placed => rfl
  | struct placed =>
    simp only [entry, TypeDef.mapFrom?, StructItem.entry_markers, TypeMarks.mapFrom?_markers,
      Option.isSome_map]
    rfl

/-! ## Links -/

section Links

variable (items : ScopedItems)

lemma Survey.get?_entries (name : String) :
    ((ofItems items).entries.get? name).map Entry.ownPart =
      (items.kept.get? name).map fun item => (item.entry (declaredNames items)).ownPart := by
  have entered := Table.get?_map (ofItems items).entries (fun _ => Entry.ownPart) name
  have kept := Table.get?_map items.kept
    (fun _ item => (item.entry (declaredNames items)).ownPart) name
  rw [← entered, ← kept]
  exact congrArg (Table.get? · name) (ofItems_ownParts items)

lemma Decl.ownPart_base (decl : Decl) : decl.ownPart.base = decl.base := by
  rw [ownPart]
  split <;> rfl

lemma Survey.baseFault?_eq {entry : Entry} {item : TypeItem}
    (same : entry.ownPart = (item.entry (declaredNames items)).ownPart) :
    (ofItems items).baseFault? entry = items.linkFault? StructItem.seemsMapped item := by
  have base : entry.decl.base = (item.entry (declaredNames items)).decl.base := by
    rw [← entry.decl.ownPart_base, ← (item.entry (declaredNames items)).decl.ownPart_base]
    exact congrArg (·.decl.base) same
  have mapFrom : ∀ {e : Entry} {i : TypeItem},
      e.ownPart = (i.entry (declaredNames items)).ownPart →
        e.definition.mapFrom?.isSome = i.isMapped StructItem.seemsMapped := by
    intro e i known
    rw [← TypeItem.entry_mapFrom? (declaredNames items)]
    exact congrArg (·.definition.mapFrom?.isSome) known
  rw [baseFault?, ScopedItems.linkFault?, base]
  cases (item.entry (declaredNames items)).decl.base with
  | none => rfl
  | some part =>
    simp only
    have found := Survey.get?_entries items part.path.definitionName
    cases kept : items.kept.get? part.path.definitionName with
    | none =>
      rw [kept, Option.map_none, Option.map_eq_none_iff] at found
      rw [found]
    | some base =>
      rw [kept, Option.map_some, Option.map_eq_some_iff] at found
      obtain ⟨entered, known, own⟩ := found
      have name : entered.definition.name = base.path.name :=
        (congrArg (·.definition.path.name) own).trans (congrArg TypePath.name base.entry_path)
      simp only [known, ← mapFrom same, ← mapFrom own, name, Option.not_isSome]

lemma Survey.allFaults_eq :
    (ofItems items).allFaults = items.faultsBy StructItem.seemsMapped := by
  have links : (ofItems items).entries.values.filterMap (ofItems items).baseFault? =
      items.lastItems.filterMap (items.linkFault? StructItem.seemsMapped) := by
    have beside : List.Forall₂ (fun entry item => (ofItems items).baseFault? entry.2 =
        items.linkFault? StructItem.seemsMapped item.2) (ofItems items).entries items.kept :=
      (entries_beside_kept items).imp fun entry item same => baseFault?_eq items same.2
    have same : (ofItems items).entries.values.map (ofItems items).baseFault? =
        items.kept.values.map (items.linkFault? StructItem.seemsMapped) := by
      rw [Table.values, Table.values, List.map_map, List.map_map, ← List.forall₂_eq_eq_eq,
        List.forall₂_map_left_iff, List.forall₂_map_right_iff]
      exact beside
    rw [← items.values_kept]
    have results := congrArg (List.filterMap id) same
    rw [List.filterMap_map, List.filterMap_map] at results
    exact results
  rw [allFaults, ofItems_faults, links, ScopedItems.faultsBy]

end Links

/-! ## What is reported -/

section Congruence

variable {items : ScopedItems} {mapped mapped' : StructItem → Bool}
  (same : ∀ placed ∈ items.structs, mapped placed.item = mapped' placed.item)

include same

lemma TypeItem.isMapped_congr {item : TypeItem} (listed : item ∈ items.typeItems) :
    item.isMapped mapped = item.isMapped mapped' := by
  cases item with
  | enum placed => rfl
  | trait placed => rfl
  | struct placed => exact same placed (by simpa [ScopedItems.typeItems] using listed)

lemma TypeItem.faults_congr {names : DeclaredNames} {item : TypeItem}
    (listed : item ∈ items.typeItems) : item.faults names mapped = item.faults names mapped' := by
  cases item with
  | enum placed => rfl
  | trait placed => rfl
  | struct placed =>
    have known : mapped placed.item = mapped' placed.item := isMapped_congr same listed
    rw [faults, faults, known]

lemma ScopedItems.linkFault?_congr {item : TypeItem} (listed : item ∈ items.typeItems) :
    items.linkFault? mapped item = items.linkFault? mapped' item := by
  rw [linkFault?, linkFault?]
  cases (item.entry (Survey.declaredNames items)).decl.base with
  | none => rfl
  | some part =>
    simp only
    cases held : items.kept.get? part.path.definitionName with
    | none => rfl
    | some base =>
      simp only [TypeItem.isMapped_congr same listed,
        TypeItem.isMapped_congr same (items.mem_of_get?_kept held)]

lemma ScopedItems.faultsBy_congr : items.faultsBy mapped = items.faultsBy mapped' := by
  have own : items.typeItems.flatMap (·.faults (Survey.declaredNames items) mapped) =
      items.typeItems.flatMap (·.faults (Survey.declaredNames items) mapped') :=
    List.flatMap_congr fun item listed => TypeItem.faults_congr same listed
  have links : items.lastItems.filterMap (items.linkFault? mapped) =
      items.lastItems.filterMap (items.linkFault? mapped') := by
    apply List.filterMap_congr
    intro item held
    exact linkFault?_congr same (items.mem_of_get?_kept (items.mem_lastItems_iff.mp held))
  rw [faultsBy, faultsBy, own, links]

end Congruence

lemma Inventory.ofItems_error {root : Namespace} {items : List Item}
    {faults : List DeclarationFault}
    (found : (scopedItems root items).faultsBy StructItem.seemsMapped = faults)
    (some : faults ≠ []) : Inventory.ofItems root items = .error faults := by
  rw [ofItems, Survey.inventory, Survey.allFaults_eq, found, if_neg]
  simpa using some

/-- The faults of all items and of all links are reported together, and without any of them at most
one fault of the schema. They are the faults by what structs are mapped from, if the attributes of
every struct that names a source can be read. -/
theorem Inventory.reports_faults_together (root : Namespace) (items : List Item) :
    ((scopedItems root items).faultsBy StructItem.seemsMapped ≠ [] →
      Inventory.ofItems root items =
        .error ((scopedItems root items).faultsBy StructItem.seemsMapped)) ∧
    ((scopedItems root items).faultsBy StructItem.seemsMapped = [] →
      ∀ faults, Inventory.ofItems root items = .error faults →
        ∃ fault, faults = [.schema fault]) ∧
    ((∀ placed ∈ (scopedItems root items).structs,
        placed.item.carriesSource = true → placed.item.readable = true) →
      (scopedItems root items).faultsBy StructItem.seemsMapped =
        (scopedItems root items).faultsBy StructItem.carriesSource) := by
  refine ⟨ofItems_error rfl, fun none faults failed => ?_, fun readable => ?_⟩
  · rw [ofItems, Survey.inventory, Survey.allFaults_eq, none, if_pos List.isEmpty_nil] at failed
    simp only at failed
    split at failed
    · cases failed
    · rename_i fault _
      cases failed
      exact ⟨fault, rfl⟩
  · apply ScopedItems.faultsBy_congr
    intro placed listed
    rw [StructItem.seemsMapped_eq]
    cases carries : placed.item.carriesSource with
    | false => exact Bool.and_false _
    | true => rw [readable placed listed carries, Bool.and_true]

/-- A generic struct that names a source, with an attribute that cannot be read, and a mapped struct
that inherits from it. -/
def misread : List Item :=
  let update : Attribute := ⟨⟨false, ["use_update"]⟩, .arguments .paren [.ident "always"]⟩
  let base := StructItem.mapped [.ident "A"] "Base" [.marked [] "id" "T"]
  let inherited : TypeExpr :=
    .path ⟨false, [.generic "Base" false [.type (.path (.ofName "i32"))] false]⟩
  [.struct (.mapped [] "A" [.marked [] "id" "i32"]),
    .struct (.mapped [] "B" [.marked ["map_base"] "a" "A"]),
    .struct
      { base with
        attributes := base.attributes ++ [update]
        generics := Code.operator "<" ++ [.token (.ident "T")] ++ Code.operator ">" },
    .struct (.mapped [.ident "B"] "Derived"
      [{ Field.marked ["map_base"] "base" "Base" with ty := inherited }])]

/-- It is not said that the generic struct cannot be mapped. It is said that it is not mapped, where
it is. -/
theorem misread_faults :
    Inventory.ofItems ⟨"crate"⟩ misread =
      .error [.inAttribute .withArguments, .baseNotMapped "Base"] ∧
    (scopedItems ⟨"crate"⟩ misread).faultsBy StructItem.carriesSource =
      [.inAttribute .withArguments, .genericTarget] ∧
    ¬ [DeclarationFault.inAttribute .withArguments, .baseNotMapped "Base"].Perm
      [.inAttribute .withArguments, .genericTarget] := by
  refine ⟨?_, by decide +kernel, by decide⟩
  exact Inventory.ofItems_error (by decide +kernel) (by decide)

end MemberMapping
