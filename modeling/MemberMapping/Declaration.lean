import MemberMapping.TypeRef
import MemberMapping.Literal

/-!
Declared types: their members, constructors, interfaces and the markers set on them.
-/

namespace MemberMapping

inductive Marker
  /-- The type is generated from the named source type. -/
  | mapFrom (source : TypePath)
  /-- The member is matched against a source member of another name. -/
  | mapProperty (source : String)
  /-- The member takes no part in the mapping. -/
  | ignoreMember
  /-- The member is produced by a converter. -/
  | converter (converter : TypePath) (parameters : List Literal)
  /-- An update method is generated for the type. -/
  | useUpdate
  /-- A method that writes the value as JSON is generated for the type. -/
  | jsonExtension

/-- Markers without what they carry. -/
inductive MarkerKind
  | mapFrom | mapProperty | ignoreMember | converter | useUpdate | jsonExtension
deriving DecidableEq, Repr

def Marker.kind : Marker → MarkerKind
  | mapFrom _ => .mapFrom
  | mapProperty _ => .mapProperty
  | ignoreMember => .ignoreMember
  | converter _ _ => .converter
  | useUpdate => .useUpdate
  | jsonExtension => .jsonExtension

/-- The markers of a type or a member, in the order in which they were set. -/
abbrev Markers := List Marker

namespace Markers

/-- The first marker of a kind. -/
def get? (ms : Markers) (kind : MarkerKind) : Option Marker :=
  ms.find? (·.kind == kind)

def has (ms : Markers) (kind : MarkerKind) : Bool :=
  (ms.get? kind).isSome

/-- The source type named by the first map-from marker. -/
def mapFrom? (ms : Markers) : Option TypePath :=
  match ms.get? .mapFrom with
  | some (.mapFrom source) => some source
  | _ => none

end Markers

inductive MemberKind
  | field | property | parameter
deriving DecidableEq, Repr

/-- A data member of a type: a field, a property or a constructor parameter. -/
structure Member where
  name : String
  ty : Ty
  kind : MemberKind := .field
  /-- The member can only be set at construction. -/
  readOnly : Bool := false
  /-- Full name of the enclosing type; empty outside a schema. -/
  declaredIn : String := ""
  markers : Markers := []

namespace Member

/-- The name of the source member, where it is given explicitly. -/
def rename? (m : Member) : Option String :=
  match m.markers.get? .mapProperty with
  | some (.mapProperty source) => some source
  | _ => none

def lookupName (m : Member) : String :=
  m.rename?.getD m.name

def isIgnored (m : Member) : Bool :=
  m.markers.has .ignoreMember

def converter? (m : Member) : Option (TypePath × List Literal) :=
  match m.markers.get? .converter with
  | some (.converter converter parameters) => some (converter, parameters)
  | _ => none

end Member

structure Constructor where
  params : List Member
  /-- The types of the arguments handed on to another constructor, if it hands on to one; `none`
  stands for an argument of unknown type. -/
  initializer : Option (List (Option Ty)) := none
  /-- Provided by the language, not written by the user. -/
  implicit : Bool := false

inductive TypeKind
  | classType | structType | recordType | interfaceType
deriving DecidableEq, Repr

def TypeKind.name : TypeKind → String
  | classType => "class"
  | structType => "struct"
  | recordType => "record"
  | interfaceType => "interface"

/-- A declared type. Inherited members are not among its members. -/
structure TypeDef where
  path : TypePath
  kind : TypeKind
  base : Option TypePath := none
  interfaces : List TypePath := []
  members : List Member := []
  constructors : List Constructor := []
  markers : Markers := []

namespace TypeDef

def name (d : TypeDef) : String := d.path.name

def scope (d : TypeDef) : Namespace := d.path.scope

def fullName (d : TypeDef) : String := d.path.definitionName

def ty (d : TypeDef) : Ty := .path d.path

def mapFrom? (d : TypeDef) : Option TypePath := d.markers.mapFrom?

def isMapped (d : TypeDef) : Bool := d.markers.has .mapFrom

/-- The wider of two constructors, the first on a tie. -/
def wider (first second : Constructor) : Constructor :=
  if first.params.length < second.params.length then second else first

/-- The constructor with the most parameters, the first declared on a tie. -/
def widestConstructor? (d : TypeDef) : Option Constructor :=
  match d.constructors with
  | [] => none
  | first :: rest => some (rest.foldl wider first)

/-- The parameters of the widest constructor; the members where there is none. -/
def constructionMembers (d : TypeDef) : List Member :=
  match d.widestConstructor? with
  | some constructor => constructor.params
  | none => d.members

end TypeDef

end MemberMapping
