import MemberMapping.Proofs.DeclarationOrder
import MemberMapping.Proofs.FieldReading

/-!
The declarations of a program, item by item.

A struct, an enum or a trait by itself comes to an entry and to faults. A survey enters the entry
under the full name of the item, so that of several items with one name the last one is kept, in the
place of the first. Implementations add interfaces and constructors and leave the rest as it is.
-/

namespace MemberMapping

/-! ## What implementations leave alone -/

/-- A definition without what implementations add to it. -/
def TypeDef.ownPart (d : TypeDef) : TypeDef :=
  { d with interfaces := [], constructors := [] }

/-- A written form without the function that builds a tuple and its parameters. -/
def Decl.ownPart (decl : Decl) : Decl :=
  match decl.shape with
  | .tuple => { decl with members := [], constructor := none }
  | _ => decl

lemma Decl.ownPart_shape (decl : Decl) : decl.ownPart.shape = decl.shape := by
  rw [ownPart]
  split <;> rfl

lemma Decl.eq_of_ownPart {decl other : Decl} (same : decl.ownPart = other.ownPart)
    (form : other.shape ≠ .tuple) : decl = other := by
  have whole : ∀ d : Decl, d.shape ≠ .tuple → d.ownPart = d := by
    intro d other
    rw [ownPart]
    split
    · contradiction
    · rfl
  have form' : decl.shape ≠ .tuple := by
    rw [← ownPart_shape decl, same, ownPart_shape other]
    exact form
  rw [← whole decl form', same, whole other form]

def Entry.ownPart (e : Entry) : Entry :=
  ⟨e.definition.ownPart, e.decl.ownPart⟩

/-! ## Items -/

/-- What the attributes of a struct are taken to say: nothing, where one of them cannot be read. -/
def StructItem.marks (item : StructItem) : TypeMarks :=
  (TypeMarks.ofAttributes item.attributes).toOption.getD {}

def StructItem.seemsMapped (item : StructItem) : Bool :=
  item.marks.source.isSome

lemma TypeMarks.mapFrom?_markers (marks : TypeMarks) (names : DeclaredNames) (scope : Namespace) :
    (marks.markers names scope).mapFrom? = marks.source.map (·.typePath names scope) := by
  obtain ⟨source, update, json⟩ := marks
  cases source with
  | some source => rfl
  | none => cases update <;> cases json <;> rfl

def Fields.faults (names : DeclaredNames) (scope : Namespace) : Fields → List DeclarationFault
  | named fields _ => Field.faultsFrom names scope false fields
  | positional fields _ => failures (elementsFrom names scope 0 fields)
  | unit => []

/-- Settling the base changes what is declared in the kind and in the base alone. -/
lemma Draft.settleBase_rest (d : Draft) :
    d.settleBase.faults = d.faults ∧ d.settleBase.entry.decl = d.entry.decl ∧
      d.settleBase.entry.definition.members = d.entry.definition.members ∧
      d.settleBase.entry.definition.markers = d.entry.definition.markers := by
  rw [settleBase]
  split <;> exact ⟨rfl, rfl, rfl, rfl⟩

def StructItem.entry (names : DeclaredNames) (scope : Namespace) (item : StructItem) : Entry :=
  let blank := emptyEntry scope item.name .structType .unit
  let entry : Entry :=
    { definition := { blank.definition with markers := item.marks.markers names scope }
      decl := { blank.decl with source := item.marks.source } }
  match item.fields with
  | .named fields _ =>
    let draft : Draft := { entry := { entry with decl.shape := .named } }
    (draft.reading names scope fields).settleBase.entry
  | .positional fields _ =>
    let elements := successes (elementsFrom names scope 0 fields)
    { definition :=
        { entry.definition with
          kind := .recordType
          members := elements.map (·.member)
          constructors := [tupleConstructor elements] }
      decl := { entry.decl with shape := .tuple } }
  | .unit => entry

lemma StructItem.entry_markers (names : DeclaredNames) (scope : Namespace) (item : StructItem) :
    (item.entry names scope).definition.markers = item.marks.markers names scope := by
  simp only [entry]
  cases item.fields with
  | named fields trailing => exact (Draft.settleBase_rest _).2.2.2
  | positional fields trailing => rfl
  | unit => rfl

/-- The entry of a struct with named fields has the members that these are. It has a base where one
of them is for the inherited part. -/
lemma StructItem.entry_named (names : DeclaredNames) (scope : Namespace) {item : StructItem}
    {fields : List Field} {trailing : Bool} (form : item.fields = .named fields trailing) :
    (item.entry names scope).decl.shape = .named ∧
      (item.entry names scope).decl.base = fields.findSome? (Field.part? names scope) ∧
      (item.entry names scope).decl.members =
        (fields.filterMap (Field.member? names scope)).foldl
          (fun t m => Table.set m.member.name m.decl t) [] ∧
      (item.entry names scope).definition.members =
        (fields.filterMap (Field.member? names scope)).map (·.member) ∧
      (item.entry names scope).definition.base =
        (fields.findSome? (Field.part? names scope)).map (·.path) ∧
      (item.entry names scope).definition.kind =
        if (fields.findSome? (Field.part? names scope)).isSome then .classType
        else .structType := by
  simp only [entry, form, Draft.settleBase, Draft.reading, emptyEntry, Option.none_or]
  cases fields.findSome? (Field.part? names scope) <;> exact ⟨rfl, rfl, rfl, rfl, rfl, rfl⟩

lemma StructItem.entry_base (names : DeclaredNames) (scope : Namespace) (item : StructItem) :
    (item.entry names scope).definition.base =
      (item.entry names scope).decl.base.map (·.path) := by
  cases form : item.fields with
  | named fields trailing =>
    obtain ⟨_, decl, _, _, definition, _⟩ := entry_named names scope form
    rw [decl, definition]
  | positional fields trailing => simp only [entry, form]; rfl
  | unit => simp only [entry, form]; rfl

/-- An item that declares a type, in its module. -/
inductive TypeItem
  | struct (placed : Scoped StructItem)
  | enum (placed : Scoped EnumItem)
  | trait (placed : Scoped TraitItem)

namespace TypeItem

def path : TypeItem → TypePath
  | struct placed => declaredPath placed.scope placed.item.name
  | enum placed => declaredPath placed.scope placed.item.name
  | trait placed => declaredPath placed.scope placed.item.name

def fullName (item : TypeItem) : String := item.path.definitionName

def entry (names : DeclaredNames) : TypeItem → Entry
  | struct placed => placed.item.entry names placed.scope
  | enum placed => emptyEntry placed.scope placed.item.name .structType .enumeration
  | trait placed => emptyEntry placed.scope placed.item.name .interfaceType .interface

/-- The faults of the item by itself, where `mapped` tells which structs are mapped. -/
def faults (names : DeclaredNames) (mapped : StructItem → Bool) :
    TypeItem → List DeclarationFault
  | struct placed =>
    (failures [TypeMarks.ofAttributes placed.item.attributes]).map .inAttribute ++
      (if mapped placed.item && !placed.item.generics.isEmpty then [.genericTarget] else []) ++
      placed.item.fields.faults names placed.scope
  | enum placed =>
    match TypeMarks.ofAttributes placed.item.attributes with
    | .error faults => faults.map .inAttribute
    | .ok marks => if marks.isEmpty then [] else [.notAtStruct]
  | trait _ => []

end TypeItem

/-- The items that declare types: structs, enums and traits, each in source order. -/
def ScopedItems.typeItems (items : ScopedItems) : List TypeItem :=
  items.structs.map .struct ++ items.enums.map .enum ++ items.traits.map .trait

def TypeItem.keep (t : Table TypeItem) (item : TypeItem) : Table TypeItem :=
  t.set item.fullName item

/-- The items that are kept, by full name: of several with one name the last. -/
def ScopedItems.kept (items : ScopedItems) : Table TypeItem :=
  items.typeItems.foldl TypeItem.keep []

lemma ScopedItems.keys_kept (items : ScopedItems) :
    items.kept.keys = (items.typeItems.map (·.fullName)).eraseDups := by
  have all := Table.keys_foldl_set TypeItem.fullName id (t := []) items.typeItems rfl
  exact all

lemma ScopedItems.get?_kept (items : ScopedItems) (name : String) :
    items.kept.get? name = (items.typeItems.filter (·.fullName == name)).getLast? := by
  have found := Table.get?_foldl_set_last TypeItem.fullName id (t := []) items.typeItems name
  rw [Option.map_id, id] at found
  rw [kept]
  exact found.trans (Option.or_none)

namespace TypeItem

variable {names : DeclaredNames}

lemma entry_path (item : TypeItem) : (item.entry names).definition.path = item.path := by
  cases item with
  | enum placed => rfl
  | trait placed => rfl
  | struct placed =>
    simp only [entry, StructItem.entry]
    cases placed.item.fields with
    | named fields trailing => exact Draft.settleBase_path _
    | positional fields trailing => rfl
    | unit => rfl

end TypeItem

/-! ## Implementations -/

/-- The faults of the parameters of a constructor of the type `typeName`. -/
def ImplMember.faults (names : DeclaredNames) (scope : Namespace) (typeName : String) :
    ImplMember → List DeclarationFault
  | .other _ => []
  | .function declared =>
    if declared.isConstructor typeName then
      (failures (declared.declaredParameters names scope)).map .inAttribute
    else []

/-- The faults of an implementation, where `nameOf` gives the name of the type that is declared
under a full name. -/
def ImplItem.faults (names : DeclaredNames) (nameOf : String → Option String)
    (placed : Scoped ImplItem) : List DeclarationFault :=
  match placed.item.self, placed.item.interface with
  | .path path, none =>
    match nameOf (path.typePath names placed.scope).definitionName with
    | some typeName => placed.item.members.flatMap (·.faults names placed.scope typeName)
    | none => []
  | _, _ => []

/-- The name of the type that is declared under a full name. -/
def ScopedItems.nameOf? (items : ScopedItems) (fullName : String) : Option String :=
  (items.kept.get? fullName).map (·.path.name)

/-! ## The survey -/

namespace Survey

variable {names : DeclaredNames}

def addType (names : DeclaredNames) (s : Survey) : TypeItem → Survey
  | .struct placed => addStruct names s placed
  | .enum placed => addEnum s placed
  | .trait placed => addTrait s placed

lemma addType_eq (names : DeclaredNames) (s : Survey) (item : TypeItem) :
    (addType names s item).entries = s.entries.set item.fullName (item.entry names) ∧
      (addType names s item).faults = s.faults ++ item.faults names StructItem.seemsMapped := by
  have fullName : (item.entry names).definition.fullName = item.fullName := by
    rw [TypeDef.fullName, TypeItem.entry_path, TypeItem.fullName]
  cases item with
  | enum placed => exact ⟨rfl, rfl⟩
  | trait placed => exact ⟨rfl, (List.append_nil _).symm⟩
  | struct placed =>
    rw [← fullName]
    simp only [addType, addStruct, TypeItem.entry, StructItem.entry, TypeItem.faults,
      Fields.faults]
    cases placed.item.fields with
    | named fields trailing =>
      simp only [Draft.foldl_addField, (Draft.settleBase_rest _).1]
      exact ⟨rfl, by simp only [enter, blame, List.append_assoc]; rfl⟩
    | positional fields trailing =>
      exact ⟨rfl, by simp only [enter, blame, addConstructor, List.append_assoc]; rfl⟩
    | unit =>
      exact ⟨rfl, by simp only [enter, blame, List.append_assoc, List.append_nil]; rfl⟩

lemma foldl_addType (names : DeclaredNames) (s : Survey) (items : List TypeItem) :
    (items.foldl (addType names) s).entries =
        items.foldl (fun t item => t.set item.fullName (item.entry names)) s.entries ∧
      (items.foldl (addType names) s).faults =
        s.faults ++ items.flatMap (·.faults names StructItem.seemsMapped) := by
  induction items generalizing s with
  | nil => exact ⟨rfl, (List.append_nil _).symm⟩
  | cons item rest ih =>
    obtain ⟨entries, faults⟩ := ih (addType names s item)
    obtain ⟨entered, blamed⟩ := addType_eq names s item
    rw [List.foldl_cons, entries, faults, entered, blamed, List.flatMap_cons, List.append_assoc]
    exact ⟨rfl, rfl⟩

lemma ofItems_eq (items : ScopedItems) :
    ofItems items =
      items.impls.foldl (addImpl (declaredNames items))
        (items.typeItems.foldl (addType (declaredNames items)) {}) := by
  simp only [ScopedItems.typeItems, List.foldl_append, List.foldl_map]
  rfl

/-- What the entries are apart from what implementations add to them. -/
def ownParts (s : Survey) : Table Entry :=
  s.entries.map fun entry => (entry.1, entry.2.ownPart)

/-- The name of the type that is entered under a full name. -/
def nameOf? (s : Survey) (fullName : String) : Option String :=
  (s.ownParts.get? fullName).map (·.definition.name)

lemma nameOf?_eq (s : Survey) (fullName : String) :
    s.nameOf? fullName = (s.entries.get? fullName).map (·.definition.name) := by
  have mapped := Table.get?_map s.entries (fun _ entry => entry.ownPart) fullName
  rw [nameOf?, ownParts, mapped, Option.map_map]
  rfl

lemma addFunction_eq (scope : Namespace) (key typeName : String) (s : Survey)
    (member : ImplMember) :
    (addFunction names scope key typeName s member).ownParts = s.ownParts ∧
      (addFunction names scope key typeName s member).faults =
        s.faults ++ member.faults names scope typeName := by
  cases member with
  | other code => exact ⟨rfl, (List.append_nil _).symm⟩
  | function function =>
    rw [addFunction, ImplMember.faults]
    split
    · refine ⟨?_, rfl⟩
      simp only [ownParts, addConstructor, blame]
      exact Table.map_update (f := Entry.ownPart) (fun entry => by rfl) s.entries key
    · exact ⟨rfl, (List.append_nil _).symm⟩

lemma foldl_addFunction (scope : Namespace) (key typeName : String) (s : Survey)
    (members : List ImplMember) :
    (members.foldl (addFunction names scope key typeName) s).ownParts = s.ownParts ∧
      (members.foldl (addFunction names scope key typeName) s).faults =
        s.faults ++ members.flatMap (·.faults names scope typeName) := by
  induction members generalizing s with
  | nil => exact ⟨rfl, (List.append_nil _).symm⟩
  | cons member rest ih =>
    obtain ⟨parts, faults⟩ := ih (addFunction names scope key typeName s member)
    obtain ⟨same, blamed⟩ := @addFunction_eq names scope key typeName s member
    rw [List.foldl_cons, parts, faults, same, blamed, List.flatMap_cons, List.append_assoc]
    exact ⟨rfl, rfl⟩

lemma addImpl_eq (s : Survey) (placed : Scoped ImplItem) :
    (addImpl names s placed).ownParts = s.ownParts ∧
      (addImpl names s placed).faults = s.faults ++ ImplItem.faults names s.nameOf? placed := by
  rw [addImpl, ImplItem.faults]
  cases placed.item.self with
  | path path =>
    cases placed.item.interface with
    | some interface =>
      simp only [List.append_nil]
      cases s.entries.get? (path.typePath names placed.scope).definitionName with
      | none => exact ⟨rfl, rfl⟩
      | some entry =>
        simp only
        split
        · exact ⟨rfl, rfl⟩
        · refine ⟨?_, rfl⟩
          simp only [ownParts]
          exact Table.map_update (f := Entry.ownPart) (fun entry => by rfl) s.entries _
    | none =>
      simp only [nameOf?_eq]
      cases s.entries.get? (path.typePath names placed.scope).definitionName with
      | none => exact ⟨rfl, (List.append_nil _).symm⟩
      | some entry => exact foldl_addFunction placed.scope _ _ s placed.item.members
  | reference _ _ => exact ⟨rfl, (List.append_nil _).symm⟩
  | paren _ => exact ⟨rfl, (List.append_nil _).symm⟩
  | traitObject _ _ _ => exact ⟨rfl, (List.append_nil _).symm⟩
  | other _ => exact ⟨rfl, (List.append_nil _).symm⟩

lemma foldl_addImpl (s : Survey) (impls : List (Scoped ImplItem)) :
    (impls.foldl (addImpl names) s).ownParts = s.ownParts ∧
      (impls.foldl (addImpl names) s).faults =
        s.faults ++ impls.flatMap (ImplItem.faults names s.nameOf?) := by
  induction impls generalizing s with
  | nil => exact ⟨rfl, (List.append_nil _).symm⟩
  | cons placed rest ih =>
    obtain ⟨parts, faults⟩ := ih (addImpl names s placed)
    obtain ⟨same, blamed⟩ := @addImpl_eq names s placed
    have named : (addImpl names s placed).nameOf? = s.nameOf? := by
      funext fullName
      rw [nameOf?, nameOf?, same]
    rw [List.foldl_cons, parts, faults, same, blamed, named, List.flatMap_cons,
      List.append_assoc]
    exact ⟨rfl, rfl⟩

/-- Up to what implementations add, the entries are those of the items that are kept. -/
theorem ofItems_ownParts (items : ScopedItems) :
    (ofItems items).ownParts =
      items.kept.map fun item => (item.1, (item.2.entry (declaredNames items)).ownPart) := by
  rw [ofItems_eq, (foldl_addImpl _ items.impls).1, ownParts, (foldl_addType _ {} _).1,
    Table.map_foldl_set]
  exact (Table.map_foldl_set (fun item => (item.entry (declaredNames items)).ownPart)
    TypeItem.fullName id items.typeItems []).symm

theorem ofItems_faults (items : ScopedItems) :
    (ofItems items).faults =
      items.typeItems.flatMap (·.faults (declaredNames items) StructItem.seemsMapped) ++
        items.impls.flatMap (ImplItem.faults (declaredNames items) items.nameOf?) := by
  have parts := ofItems_ownParts items
  rw [ofItems_eq, (foldl_addImpl _ items.impls).1] at parts
  have named : (items.typeItems.foldl (addType (declaredNames items)) {}).nameOf? =
      items.nameOf? := by
    funext fullName
    have mapped := Table.get?_map items.kept
      (fun _ item => (item.entry (declaredNames items)).ownPart) fullName
    rw [nameOf?, parts, mapped, ScopedItems.nameOf?, Option.map_map]
    congr 1
    funext item
    exact congrArg TypePath.name item.entry_path
  rw [ofItems_eq, (foldl_addImpl _ items.impls).2, (foldl_addType _ {} _).2, named]
  rfl

end Survey

end MemberMapping
