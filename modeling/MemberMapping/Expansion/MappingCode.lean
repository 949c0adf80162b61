import MemberMapping.Literal
import MemberMapping.Options
import MemberMapping.Program.TypeExpr
import MemberMapping.Text.Words
import MemberMapping.Token.Keyword

/-!
The code generated for one mapped type, before it is printed: how the target is built from the
source, what an update assigns, and which further functions and conversions there are.
-/

namespace MemberMapping

structure FieldPath where
  binding : String
  fields : List FieldName
deriving DecidableEq, Repr

/-- The field `name` of the value reached. -/
def FieldPath.push (place : FieldPath) (name : FieldName) : FieldPath :=
  { place with fields := place.fields ++ [name] }

/-- The value that a member of the target is set to. -/
inductive MemberValue where
  /-- A clone of a source member. -/
  | cloned (place : FieldPath)
  /-- A clone in a box. -/
  | boxed (place : FieldPath)
  /-- A clone, widened or lifted. -/
  | lifted (place : FieldPath)
  /-- What a converter makes of a clone. -/
  | converted (converter : PathExpr) (place : FieldPath) (parameters : List Literal)
  /-- A source member mapped through the context. -/
  | mapped (place : FieldPath)
  /-- The elements of a source member, each mapped through the context. -/
  | mappedEach (place : FieldPath)
  /-- A further parameter of the constructor. -/
  | parameter (name : String)
  /-- The default value of the type. -/
  | unset

/-- What the inherited part of the target is mapped from. -/
inductive PartSource where
  /-- The source as it is. -/
  | whole
  /-- The inherited part of the source of that type. -/
  | part (place : FieldPath)
  /-- Whatever the source can be viewed as. -/
  | view

/-- How the target is built. -/
inductive Construction where
  /-- From the inherited part, if there is one, and the fields. -/
  | fields (base : Option (String × TypeExpr × PartSource))
      (values : List (FieldName × MemberValue))
  /-- By a constructor, the one of the tuple itself if it has no name. -/
  | call (constructor : Option String) (values : List MemberValue)
  /-- There is nothing to set. -/
  | unit

structure UpdateCode where
  /-- Some values are mapped through a context. -/
  needsContext : Bool
  assignments : List (FieldName × MemberValue)

/-- The code generated for one mapped type. -/
structure MappingCode where
  options : Options
  /-- The target as it is named in code. -/
  target : String
  /-- Target and source as they are named in documentation. -/
  targetName : String
  sourceName : String
  /-- The source type as it is written at the target. -/
  sourcePath : PathExpr
  /-- The name of the source parameter. -/
  source : String
  /-- The further parameters of constructors. -/
  parameters : List (String × TypeExpr)
  construction : Construction
  /-- There is a constructor that takes no context. -/
  secondary : Bool
  update : Option UpdateCode
  writesJson : Bool
  /-- The source alone is enough to build the target, so there are conversions. -/
  converts : Bool

namespace MappingCode

def context : String := "__mapto_context"

/-- The name of the source parameter where its type gives none. -/
def anonymousSource : String := "__mapto_source"

def constructorName (code : MappingCode) : String :=
  "from_" ++ Text.snakeCase code.sourceName

def contextConstructorName (code : MappingCode) : String :=
  code.constructorName ++ "_with_context"

def updateName (code : MappingCode) : String :=
  "update_from_" ++ Text.snakeCase code.sourceName

def traitName (code : MappingCode) : String :=
  Text.camelCase code.sourceName ++ "To" ++ Text.camelCase code.targetName

def methodName (code : MappingCode) : String :=
  "to_" ++ Text.snakeCase code.targetName

end MappingCode

def isPrintableName (name : String) : Bool :=
  Text.isIdentifierText (Token.plainName name).toList

/-- A literal that can stand in code: no infinity. -/
def Literal.isPrintable : Literal → Bool
  | float x => x.isFinite
  | _ => true

def FieldName.isPrintable : FieldName → Bool
  | named name => isPrintableName name
  | position _ => true

def MemberValue.isPrintable : MemberValue → Bool
  | cloned place | boxed place | lifted place | mapped place | mappedEach place =>
    place.fields.all (·.isPrintable)
  | converted _ place parameters =>
    place.fields.all (·.isPrintable) && parameters.all (·.isPrintable)
  | parameter _ => true
  | unset => true

def Construction.values : Construction → List MemberValue
  | fields _ values => values.map (·.2)
  | call _ values => values
  | unit => []

namespace MappingCode

/-- Every value that the code sets, at construction or in an update. -/
def values (code : MappingCode) : List MemberValue :=
  code.construction.values ++ (code.update.map (·.assignments.map (·.2))).getD []

def names (code : MappingCode) : List String :=
  [code.constructorName, code.contextConstructorName] ++
    (if code.update.isSome then [code.updateName] else []) ++
    (if code.converts then [code.traitName, code.methodName] else [])

/-- The code can be printed: its names are identifiers and its literals are finite. -/
def isPrintable (code : MappingCode) : Bool :=
  code.names.all isPrintableName && code.values.all (·.isPrintable)

end MappingCode

end MemberMapping
