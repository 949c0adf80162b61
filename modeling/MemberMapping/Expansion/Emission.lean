import MemberMapping.Assembly
import MemberMapping.Compatibility
import MemberMapping.Expansion.MappingCode
import MemberMapping.Inventory.Declarations

/-!
From a plan to the code of the mapping: which fields are read, how each value is converted, and
what the generated functions take.

A member that the source inherits is reached through the fields that hold inherited parts. The code
refers to members, converters and types as they are written in the program.
-/

namespace MemberMapping

/-- A part of a value that its type inherits: the field that holds it and the full name of its
type. -/
structure Part where
  field : String
  typeName : String
deriving DecidableEq, Repr

/-- The parts up to the first one of a type; all of them where there is none. -/
def Part.upTo (typeName : String) : List Part → List Part
  | [] => []
  | part :: rest => if part.typeName = typeName then [part] else part :: upTo typeName rest

/-- The fields that hold parts, outer ones first. -/
def Part.fields (parts : List Part) : List FieldName :=
  parts.map fun part => .named part.field

namespace Inventory

/-- At most `limit` parts of a value of a type, each within the one before. -/
def partsWithin (inv : Inventory) : Nat → Decl → List Part
  | 0, _ => []
  | limit + 1, decl =>
    match decl.base with
    | none => []
    | some base =>
      let rest := match inv.decls.get? base.path.definitionName with
        | some next => inv.partsWithin limit next
        | none => []
      ⟨base.field, base.path.definitionName⟩ :: rest

/-- The inherited parts of a value of a type. There are fewer than types. -/
def parts (inv : Inventory) (decl : Decl) : List Part :=
  inv.partsWithin inv.decls.length decl

end Inventory

def FieldName.ofText (text : String) : FieldName :=
  let cs := text.toList
  let n := Decimal.digitsValue 0 cs
  if !cs.isEmpty && cs.all Char.isDigit && n < UInt32.size then .position n else .named text

/-- A plan together with the declarations of its target and its source. -/
structure Emission where
  inventory : Inventory
  model : MappingModel
  target : Decl
  source : Decl

namespace Emission

def extraMembers (e : Emission) : List MemberDecl :=
  e.model.extraParameters.filterMap fun extra => e.target.members.get? extra.name

/-- The name of the source parameter: that of its type, unless it is no name or another parameter
has it. -/
def sourceBinding (e : Emission) : String :=
  let name := Text.snakeCase e.model.sourceTypeName
  if Token.isName name && !e.extraMembers.any (·.binding == name) then name
  else MappingCode.anonymousSource

/-- The members that a name can stand for at the source: fields with the inherited ones, then the
parameters of the widest constructor. -/
def sourceMembers (e : Emission) : List Member :=
  match e.inventory.schema.typeDef? (.plain e.model.sourceScope e.model.sourceTypeName) with
  | none => []
  | some d =>
    e.inventory.schema.members d false ++ (d.widestConstructor?.map (·.params)).getD []

def declaringType (e : Emission) (name : String) : String :=
  ((e.sourceMembers.find? (·.name == name)).map (·.declaredIn)).getD e.model.sourceFullName

def partsTo (e : Emission) (name : String) : List Part :=
  let typeName := e.declaringType name
  if typeName = e.model.sourceFullName then []
  else Part.upTo typeName (e.inventory.parts e.source)

def owner (e : Emission) (name : String) : Decl :=
  ((e.partsTo name).getLast?.bind fun part => e.inventory.decls.get? part.typeName).getD e.source

/-- Where a source member is read. -/
def sourcePlace (e : Emission) (name : String) : FieldPath :=
  let field := match (e.owner name).members.get? name with
    | some member => member.access
    | none => .ofText name
  ⟨e.sourceBinding, Part.fields (e.partsTo name) ++ [field]⟩

/-- The value of a source member assigned without a conversion of its own. -/
def directValue (place : FieldPath) (source target : Ty) : MemberValue :=
  match source, target with
  | .dyn _, _ => .cloned place
  | _, .dyn _ => .boxed place
  | _, _ => if source.needsConversion target then .lifted place else .cloned place

def converterPath (e : Emission) (member : String) (converter : TypePath) : PathExpr :=
  ((e.target.members.get? member).bind (·.converter)).getD (.ofName converter.name)

/-- The value of a mapped member. -/
def mappedValue (e : Emission) (m : MappedMember) : MemberValue :=
  let place := e.sourcePlace m.sourceName
  match m.conversion with
  | .direct => directValue place m.sourceTy m.ty
  | .converter converter parameters =>
    .converted (e.converterPath m.name converter) place parameters
  | .nested _ => .mapped place
  | .enumerable _ _ => .mappedEach place

def memberValue (e : Emission) (name : String) (decl : MemberDecl) : MemberValue :=
  match e.model.sourceMembers.find? (·.name == name) with
  | some mapped => e.mappedValue mapped
  | none =>
    if e.model.extraParameters.any (·.name == name) then .parameter decl.binding else .unset

/-- What the inherited part of the target is mapped from. -/
def partSource (e : Emission) : PartSource :=
  match e.model.baseSource with
  | none => .whole
  | some base =>
    let parts := e.inventory.parts e.source
    if parts.any (·.typeName == base.definitionName) then
      .part ⟨e.sourceBinding, Part.fields (Part.upTo base.definitionName parts)⟩
    else .view

/-- How the target is built. -/
def construction (e : Emission) : Construction :=
  let values := e.target.members.map fun (name, decl) => (decl.access, e.memberValue name decl)
  match e.target.shape with
  | .named => .fields (e.target.base.map fun base => (base.field, base.ty, e.partSource)) values
  | .tuple => .call e.target.constructor (values.map (·.2))
  | _ => .unit

/-- The assignment of a mapped member, where the target has a field for it. -/
def assignment? (e : Emission) (m : MappedMember) : Option (FieldName × MemberValue) :=
  (e.target.members.get? m.name).map fun decl => (decl.access, e.mappedValue m)

/-- The update method, where one is asked for and the target has named fields. -/
def update? (e : Emission) : Option UpdateCode :=
  if e.model.needsUpdateMethod && e.target.shape == .named then
    let writable := e.model.writableMembers
    some ⟨writable.any (·.usesContext), writable.filterMap e.assignment?⟩
  else none

/-- The code of the mapping. -/
def code (e : Emission) : MappingCode :=
  { options := e.model.options
    target := e.target.name
    targetName := e.model.typeName
    sourceName := e.model.sourceTypeName
    sourcePath := e.target.source.getD default
    source := e.sourceBinding
    parameters := e.extraMembers.map fun member => (member.binding, member.ty)
    construction := e.construction
    secondary := e.model.generateSecondaryConstructor
    update := e.update?
    writesJson := e.model.jsonExtension
    converts := e.model.isInfallibleFromSource }

end Emission

def Inventory.emission? (inv : Inventory) (model : MappingModel) : Option Emission := do
  let target ← inv.decls.get? (TypePath.plain model.scope model.typeName).definitionName
  let source ← inv.decls.get? model.sourceFullName
  return ⟨inv, model, target, source⟩

def Inventory.codeOf (inv : Inventory) (models : List MappingModel) :
    List (Namespace × MappingCode) :=
  models.filterMap fun model => (inv.emission? model).map fun e => (model.scope, e.code)

end MemberMapping
