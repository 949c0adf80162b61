import MemberMapping.Inventory.Constructors
import MemberMapping.Inventory.Modules

/-!
Surveying a program: from its items to its declarations.

Structs, enums, traits and implementations are looked at in this order. Every fault is reported,
those of the items first, then those of the links between them; the schema is built only where
there is none.
-/

namespace MemberMapping

structure Entry where
  definition : TypeDef
  decl : Decl

/-- An entry while its declaration is read, and the faults found in it. -/
structure Draft where
  entry : Entry
  faults : List DeclarationFault := []

namespace Draft

def blame (d : Draft) (faults : List DeclarationFault) : Draft :=
  { d with faults := d.faults ++ faults }

/-- Takes a field for the inherited part, unless there is one. -/
def addBase (d : Draft) (names : DeclaredNames) (scope : Namespace) (field : String)
    (ty : TypeExpr) : Draft :=
  if d.entry.decl.base.isSome then d.blame [.secondBase]
  else
    match ty.ty names scope with
    | .path path => { d with entry.decl.base := some ⟨field, ty, path⟩ }
    | _ => d.blame [.baseNotNominal]

/-- Adds a member. One of the same name is replaced in what is written. -/
def addMember (d : Draft) (m : DeclaredMember) : Draft :=
  { d with
    entry.definition.members := d.entry.definition.members ++ [m.member]
    entry.decl.members := d.entry.decl.members.set m.member.name m.decl }

def addField (names : DeclaredNames) (scope : Namespace) (d : Draft) (field : Field) : Draft :=
  match field.name, MemberMarks.ofAttributes field.attributes with
  | none, _ => d
  | some _, .error faults => d.blame (faults.map .inAttribute)
  | some name, .ok marks =>
    if marks.base then d.addBase names scope name field.ty
    else
      d.addMember
        { member := marks.member names scope (Token.plainName name) field.ty .field
          decl := ⟨name, .named name, field.ty, marks.converter.map (·.path)⟩ }

def settleBase (d : Draft) : Draft :=
  match d.entry.decl.base with
  | some base =>
    { d with entry.definition.kind := .classType, entry.definition.base := some base.path }
  | none => d

end Draft

def Field.element (names : DeclaredNames) (scope : Namespace) (position : Nat) (field : Field) :
    Except (List DeclarationFault) DeclaredMember :=
  match MemberMarks.ofAttributes field.attributes with
  | .error faults => .error (faults.map .inAttribute)
  | .ok marks =>
    if marks.base then .error [.unnamedBase]
    else .ok
      { member := marks.member names scope (toString position) field.ty .field
        decl :=
          ⟨"field_" ++ toString position, .position position, field.ty,
            marks.converter.map (·.path)⟩ }

def tupleConstructor (elements : List DeclaredMember) : Constructor :=
  { params := elements.map fun e => { e.member with kind := .parameter, readOnly := true }
    implicit := true }

def TypeMarks.markers (marks : TypeMarks) (names : DeclaredNames) (scope : Namespace) : Markers :=
  (marks.source.map fun source => Marker.mapFrom (source.typePath names scope)).toList ++
    (if marks.update then [Marker.useUpdate] else []) ++
    (if marks.json then [Marker.jsonExtension] else [])

/-- The entry of a type without members. -/
def emptyEntry (scope : Namespace) (name : String) (kind : TypeKind) (shape : Shape) : Entry :=
  { definition := { path := .plain scope (Token.plainName name), kind := kind }
    decl := { name := name, shape := shape } }

/-- The declarations found so far. -/
structure Survey where
  /-- The types by full name. -/
  entries : Table Entry := []
  /-- The constructors of types, as they are written. -/
  constructors : Table (List WrittenConstructor) := []
  faults : List DeclarationFault := []

namespace Survey

def enter (s : Survey) (entry : Entry) : Survey :=
  { s with entries := s.entries.set entry.definition.fullName entry }

def blame (s : Survey) (faults : List DeclarationFault) : Survey :=
  { s with faults := s.faults ++ faults }

def addConstructor (s : Survey) (key : String) (c : WrittenConstructor) : Survey :=
  { s with constructors := s.constructors.set key ((s.constructors.get? key).getD [] ++ [c]) }

def addStruct (names : DeclaredNames) (s : Survey) (placed : Scoped StructItem) : Survey :=
  let item := placed.item
  let scope := placed.scope
  let outcome := TypeMarks.ofAttributes item.attributes
  let marks := outcome.toOption.getD {}
  let s := s.blame ((failures [outcome]).map .inAttribute)
  let s := s.blame (if marks.source.isSome && !item.generics.isEmpty then [.genericTarget] else [])
  let blank := emptyEntry scope item.name .structType .unit
  let entry : Entry :=
    { definition := { blank.definition with markers := marks.markers names scope }
      decl := { blank.decl with source := marks.source } }
  match item.fields with
  | .named fields _ =>
    let draft : Draft := { entry := { entry with decl.shape := .named } }
    let draft := (fields.foldl (Draft.addField names scope) draft).settleBase
    (s.blame draft.faults).enter draft.entry
  | .positional fields _ =>
    let outcomes := fields.zipIdx.map fun (field, position) => field.element names scope position
    let elements := successes outcomes
    let entry : Entry :=
      { definition :=
          { entry.definition with
            kind := .recordType
            members := elements.map (·.member)
            constructors := [tupleConstructor elements] }
        decl := { entry.decl with shape := .tuple } }
    ((s.blame (failures outcomes)).addConstructor entry.definition.fullName ⟨none, elements⟩).enter
      entry
  | .unit => s.enter entry

def addEnum (s : Survey) (placed : Scoped EnumItem) : Survey :=
  let faults := match TypeMarks.ofAttributes placed.item.attributes with
    | .error faults => faults.map .inAttribute
    | .ok marks => if marks.isEmpty then [] else [.notAtStruct]
  (s.blame faults).enter (emptyEntry placed.scope placed.item.name .structType .enumeration)

def addTrait (s : Survey) (placed : Scoped TraitItem) : Survey :=
  s.enter (emptyEntry placed.scope placed.item.name .interfaceType .interface)

/-- Looks at a function of the type `typeName`, whose full name is `key`. -/
def addFunction (names : DeclaredNames) (scope : Namespace) (key typeName : String) (s : Survey) :
    ImplMember → Survey
  | .other _ => s
  | .function function =>
    if function.isConstructor typeName then
      let outcomes := function.declaredParameters names scope
      let parameters := successes outcomes
      let constructor := function.constructor {} typeName parameters
      let entries := s.entries.update key fun entry =>
        { entry with definition.constructors := entry.definition.constructors ++ [constructor] }
      let blamed := { s with entries := entries }.blame ((failures outcomes).map .inAttribute)
      blamed.addConstructor key ⟨some function.name, parameters⟩
    else s

def addImpl (names : DeclaredNames) (s : Survey) (placed : Scoped ImplItem) : Survey :=
  match placed.item.self with
  | .path path =>
    let key := (path.typePath names placed.scope).definitionName
    match s.entries.get? key, placed.item.interface with
    | none, _ => s
    | some _, some interface =>
      if interface.negative then s
      else
        let implemented := interface.path.typePath names placed.scope
        { s with
          entries := s.entries.update key fun entry =>
            { entry with definition.interfaces := entry.definition.interfaces ++ [implemented] } }
    | some entry, none =>
      placed.item.members.foldl (addFunction names placed.scope key entry.definition.name) s
  | _ => s

/-- The declaration of a tuple has the members of its widest constructor. -/
def settledDecl (s : Survey) (key : String) (decl : Decl) : Decl :=
  match decl.shape, ((s.constructors.get? key).bind WrittenConstructor.widest?) with
  | .tuple, some widest => { decl with members := widest.table, constructor := widest.name }
  | _, _ => decl

def baseFault? (s : Survey) (entry : Entry) : Option DeclarationFault :=
  match entry.decl.base with
  | none => none
  | some part =>
    match s.entries.get? part.path.definitionName with
    | none => some (.baseNotDeclared part.path.fullName)
    | some base =>
      if entry.definition.mapFrom?.isSome && base.definition.mapFrom?.isNone then
        some (.baseNotMapped base.definition.name)
      else none

/-- Every fault of the declarations, those of the items before those of the links. -/
def allFaults (s : Survey) : List DeclarationFault :=
  s.faults ++ s.entries.values.filterMap s.baseFault?

def inventory (s : Survey) : Except (List DeclarationFault) Inventory :=
  if s.allFaults.isEmpty then
    let builder : Builder := { types := s.entries.values.map (·.definition) }
    match builder.build with
    | .ok schema =>
      .ok ⟨schema, s.entries.map fun (key, entry) => (key, s.settledDecl key entry.decl)⟩
    | .error fault => .error [.schema fault]
  else .error s.allFaults

def declaredNames (items : ScopedItems) : DeclaredNames :=
  items.structs.map (fun s => (Token.plainName s.item.name, s.scope)) ++
    items.enums.map (fun e => (Token.plainName e.item.name, e.scope)) ++
    items.traits.map (fun t => (Token.plainName t.item.name, t.scope))

def ofItems (items : ScopedItems) : Survey :=
  let names := declaredNames items
  let s := items.structs.foldl (addStruct names) {}
  let s := items.enums.foldl addEnum s
  let s := items.traits.foldl addTrait s
  items.impls.foldl (addImpl names) s

end Survey

/-- The declarations of a tree of modules, or every reason why they cannot be used. -/
def Inventory.ofItems (root : Namespace) (items : List Item) :
    Except (List DeclarationFault) Inventory :=
  (Survey.ofItems (scopedItems root items)).inventory

end MemberMapping
