import MemberMapping.Schema
import MemberMapping.Fault

/-!
Building a schema: every declaration gets one full name, every base is declared, and no type
inherits from itself.
-/

namespace MemberMapping

/-- Why a list of declarations is no schema. -/
inductive SchemaFault
  | declaredTwice (name : String)
  | baseNotDeclared (base heir : String)
  | inheritsFromItself (name : String)
deriving DecidableEq, Repr

def SchemaFault.reason : SchemaFault → String
  | declaredTwice name => "type `" ++ name ++ "` is declared more than once"
  | baseNotDeclared base heir => "base type `" ++ base ++ "` of `" ++ heir ++ "` is not declared"
  | inheritsFromItself name => "type `" ++ name ++ "` inherits from itself"

def SchemaFault.fault (f : SchemaFault) : Fault := .invalidSchema f.reason

/-- Notes in each member and constructor parameter the type that declares it. -/
def TypeDef.stamped (d : TypeDef) : TypeDef :=
  let stamp (m : Member) : Member := { m with declaredIn := d.fullName }
  { d with
    members := d.members.map stamp
    constructors := d.constructors.map fun c => { c with params := c.params.map stamp } }

/-- The stamped declarations, unless a name comes twice; `seen` holds the names before. -/
def stampAll (seen : List String) : List TypeDef → Except SchemaFault (List TypeDef)
  | [] => .ok []
  | d :: rest =>
    if seen.contains d.fullName then .error (.declaredTwice d.fullName)
    else do
      let others ← stampAll (d.fullName :: seen) rest
      return d.stamped :: others

namespace Schema

/-- Follows the base chain from `current` for at most `limit` links. A link to a type in `visited`
is blamed on `start`, the type at which the walk began. -/
def checkChain (s : Schema) (start : String) :
    Nat → List String → TypeDef → Except SchemaFault Unit
  | 0, _, _ => .ok ()
  | limit + 1, visited, current =>
    match current.base with
    | none => .ok ()
    | some base =>
      match s.typeDef? base with
      | none => .error (.baseNotDeclared base.fullName current.fullName)
      | some next =>
        if visited.contains next.fullName then .error (.inheritsFromItself start)
        else s.checkChain start limit (next.fullName :: visited) next

/-- Every base chain leads through declared types, none of them twice. A chain that visits no type
twice has fewer links than there are types. -/
def checkBases (s : Schema) : Except SchemaFault Unit :=
  s.types.forM fun d => s.checkChain d.fullName (s.types.length + 1) [d.fullName] d

end Schema

structure Builder where
  known : WellKnown := {}
  types : List TypeDef := []

namespace Builder

def add (b : Builder) (d : TypeDef) : Builder :=
  { b with types := b.types ++ [d] }

/-- The schema of the declarations. -/
def build (b : Builder) : Except SchemaFault Schema := do
  let types ← stampAll [] b.types
  let schema : Schema := ⟨b.known, types⟩
  schema.checkBases
  return schema

end Builder

end MemberMapping
