import MemberMapping.Inventory.Arguments
import MemberMapping.Schema.Builder
import MemberMapping.Table

/-!
The declarations of a program: the schema that mappings are resolved over, and how each declared
type is written, which generated code refers back to.
-/

namespace MemberMapping

structure MemberDecl where
  /-- The name of the member where it is taken as a parameter. -/
  binding : String
  /-- What reads the member from a value. -/
  access : FieldName
  ty : TypeExpr
  /-- The converter as it is written. -/
  converter : Option PathExpr := none

structure BasePart where
  field : String
  /-- Its type, as it is written and as it is referred to. -/
  ty : TypeExpr
  path : TypePath

inductive Shape
  | named | tuple | unit | enumeration | interface
deriving DecidableEq, Repr

structure Decl where
  name : String
  shape : Shape
  /-- The source type as it is written. -/
  source : Option PathExpr := none
  base : Option BasePart := none
  /-- Fields by name; of a tuple, the parameters of its widest constructor. -/
  members : Table MemberDecl := []
  /-- The function that builds a tuple from its members; none where the tuple itself is its widest
  constructor. -/
  constructor : Option String := none

inductive DeclarationFault
  | inAttribute (fault : AttributeFault)
  /-- A mapped type has generic parameters. -/
  | genericTarget
  /-- An attribute for structs stands at an enum. -/
  | notAtStruct
  /-- The inherited part stands in a tuple. -/
  | unnamedBase
  | secondBase
  /-- The inherited part is of no nominal type. -/
  | baseNotNominal
  | baseNotDeclared (name : String)
  /-- The base of a mapped type is not mapped. -/
  | baseNotMapped (name : String)
  /-- The declarations form no schema. -/
  | schema (fault : SchemaFault)
deriving DecidableEq, Repr

namespace DeclarationFault

def message : DeclarationFault → String
  | inAttribute fault => fault.message
  | genericTarget => "types with #[map_from] cannot be generic"
  | notAtStruct => "mapping attributes are only supported on structs"
  | unnamedBase => "#[map_base] requires a named field"
  | secondBase => "only one #[map_base] field is allowed"
  | baseNotNominal => "#[map_base] field must hold a struct"
  | baseNotDeclared name => "base type " ++ inBackquotes name ++ " is not declared"
  | baseNotMapped name =>
    "base type " ++ inBackquotes name ++ " of a mapped type must have #[map_from]"
  | schema fault => fault.fault.message

end DeclarationFault

/-- The declarations of a program. -/
structure Inventory where
  schema : Schema
  /-- The declared types by full name, in the order of the schema. -/
  decls : Table Decl

end MemberMapping
