import MemberMapping.Declaration
import MemberMapping.WellKnown

/-!
The declared types of one run and the questions asked about them: the declaration behind a
reference, base chains, members with the inherited ones, interfaces, collection elements.

Declarations are looked up by full name. A schema built by `Builder.build` has one declaration
for a name, and its base chains end.
-/

namespace MemberMapping

/-- The declared types, in declaration order, and the well-known ones. -/
structure Schema where
  known : WellKnown
  types : List TypeDef

namespace Schema

def find? (s : Schema) (fullName : String) : Option TypeDef :=
  s.types.find? (·.fullName == fullName)

/-- The declaration a path refers to. Arguments do not count. -/
def typeDef? (s : Schema) (path : TypePath) : Option TypeDef :=
  s.find? path.definitionName

/-- The declaration behind a type, directly or as a boxed interface. -/
def typeOf? (s : Schema) (ty : Ty) : Option TypeDef :=
  ty.nominal?.bind s.typeDef?

/-- The declaration with that full name or, where only one type has it, that bare name. -/
def resolve? (s : Schema) (name : String) : Option TypeDef :=
  match s.find? name with
  | some d => some d
  | none =>
    match s.types.filter (·.name == name) with
    | [d] => some d
    | _ => none

def baseOf? (s : Schema) (d : TypeDef) : Option TypeDef :=
  d.base.bind s.typeDef?

/-- At most `limit` types of the base chain, nearest first. -/
def basesWithin (s : Schema) : Nat → TypeDef → List TypeDef
  | 0, _ => []
  | limit + 1, d =>
    match s.baseOf? d with
    | none => []
    | some base => base :: s.basesWithin limit base

/-- The base chain of a type, nearest base first. No chain is longer than the list of types. -/
def bases (s : Schema) (d : TypeDef) : List TypeDef :=
  s.basesWithin s.types.length d

/-- The members of a type with the inherited ones, farthest base first. -/
def allMembers (s : Schema) (d : TypeDef) : List Member :=
  (s.bases d).reverse.flatMap (·.members) ++ d.members

/-- The members of a type: its own alone, or the inherited ones before them. -/
def members (s : Schema) (d : TypeDef) (declaredOnly : Bool) : List Member :=
  if declaredOnly then d.members else s.allMembers d

def allInterfaces (s : Schema) (d : TypeDef) : List TypePath :=
  (d :: s.bases d).flatMap (·.interfaces)

/-- The type at `path` implements `interface`, itself or through a base. -/
def implements (s : Schema) (path interface : TypePath) : Bool :=
  match s.typeDef? path with
  | some d => (s.allInterfaces d).contains interface
  | none => false

/-- Collections whose elements can be mapped one by one: a well-known collection of one argument,
or a declared type with the interface of a well-known collection. -/
def isGenericEnumerable (s : Schema) : Ty → Bool
  | .path path =>
    (path.args.length == 1 && s.known.isEnumerable path) ||
      match s.typeDef? path with
      | some d => (s.allInterfaces d).any s.known.isEnumerable
      | none => false
  | _ => false

/-- The element type of a collection: its first argument. -/
def enumerableElement? (s : Schema) (ty : Ty) : Option Ty :=
  if s.isGenericEnumerable ty then ty.asPath?.bind (·.args.head?) else none

end Schema

end MemberMapping
