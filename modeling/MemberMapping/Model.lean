import MemberMapping.Declaration
import MemberMapping.Options

/-!
The resolved plan for one mapped type: which target member is read from which source member, and
through which conversion. A plan depends on the target, its source and the options alone.
-/

namespace MemberMapping

/-- How a source value becomes a target value. -/
inductive Conversion
  /-- Assigned as it is, or after an implicit widening. -/
  | direct
  /-- Converted by a converter of the user. -/
  | converter (converter : TypePath) (parameters : List Literal)
  /-- Mapped by the mapping of its own type; `source` is the type mapped from. -/
  | nested (source : Ty)
  /-- Mapped element by element. -/
  | enumerable (sourceElement element : Ty)

structure MappedMember where
  name : String
  ty : Ty
  sourceName : String
  sourceTy : Ty
  conversion : Conversion
  readOnly : Bool

namespace MappedMember

def isDirect (m : MappedMember) : Bool :=
  m.conversion matches .direct

def converter? (m : MappedMember) : Option (TypePath × List Literal) :=
  match m.conversion with
  | .converter converter parameters => some (converter, parameters)
  | _ => none

/-- The type mapped from, of a nested mapping only. -/
def nestedSource? (m : MappedMember) : Option Ty :=
  match m.conversion with
  | .nested source => some source
  | _ => none

/-- The target element type, of an element-wise mapping only. -/
def element? (m : MappedMember) : Option Ty :=
  match m.conversion with
  | .enumerable _ element => some element
  | _ => none

def isEnumerable (m : MappedMember) : Bool :=
  m.conversion matches .enumerable _ _

def usesContext (m : MappedMember) : Bool :=
  match m.conversion with
  | .nested _ | .enumerable _ _ => true
  | _ => false

end MappedMember

/-- A target member without a counterpart, which generated constructors take as a parameter. -/
structure ExtraParameter where
  name : String
  ty : Ty
  readOnly : Bool

/-- The plan for one mapped type. -/
structure MappingModel where
  options : Options
  scope : Namespace
  kind : TypeKind
  typeName : String
  sourceScope : Namespace
  sourceTypeName : String
  sourceFullName : String
  /-- An update method is asked for. -/
  updatable : Bool
  /-- A method that writes JSON is asked for. -/
  jsonExtension : Bool
  /-- The direct base is a mapped type; it and its source. -/
  hasBaseClass : Bool
  baseType : Option TypePath
  baseSource : Option TypePath
  /-- Mapped target members, in the order of the target. They drive the constructor. -/
  sourceMembers : List MappedMember
  /-- The members that a source member maps to, in the order of the source. They drive the update
  method. -/
  typeMembers : List MappedMember
  extraParameters : List ExtraParameter
  imports : List Namespace
  /-- A constructor that takes the source alone has to be generated. -/
  generateSecondaryConstructor : Bool

namespace MappingModel

/-- The mapped members that can only be set at construction. -/
def readOnlyMembers (m : MappingModel) : List MappedMember :=
  m.sourceMembers.filter (·.readOnly)

def writableMembers (m : MappingModel) : List MappedMember :=
  m.typeMembers.filter (!·.readOnly)

def needsUpdateMethod (m : MappingModel) : Bool :=
  m.updatable && !m.writableMembers.isEmpty

def hasEnumerableMembers (m : MappingModel) : Bool :=
  m.sourceMembers.any (·.isEnumerable)

/-- The source alone is enough to build the target. -/
def isInfallibleFromSource (m : MappingModel) : Bool :=
  m.extraParameters.isEmpty

end MappingModel

end MemberMapping
