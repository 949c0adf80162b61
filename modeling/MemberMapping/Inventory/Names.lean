import MemberMapping.Program.TypeExpr
import MemberMapping.TypeRef

/-!
The types that written types refer to.

A name that is declared in one module refers to that declaration, whatever is written before it. Of
several declarations the first is taken whose module path ends with what is written before the
name, then the one in the current module, then the first. A name that is not declared keeps what is
written before it as its namespace.
-/

namespace MemberMapping

/-- The declared names and their modules, in declaration order. -/
abbrev DeclaredNames := List (String × Namespace)

namespace DeclaredNames

def scopesOf (names : DeclaredNames) (name : String) : List Namespace :=
  (names.filter (·.1 == name)).map (·.2)

def declares (names : DeclaredNames) (name : String) : Bool :=
  names.any (·.1 == name)

def endsWith (scope written : Namespace) : Bool :=
  written.text.toList.isSuffixOf scope.text.toList

/-- The namespace that a name has behind the path `written` in the module `current`. -/
def scopeOf (names : DeclaredNames) (current written : Namespace) (name : String) : Namespace :=
  match names.scopesOf name with
  | [] => written
  | [scope] => scope
  | first :: others =>
    match (first :: others).find? fun scope => !written.isGlobal && endsWith scope written with
    | some scope => scope
    | none => ((first :: others).find? (· == current)).getD first

end DeclaredNames

/-- The scalar of that name, unless a type of the name is declared. -/
def DeclaredNames.primitive? (names : DeclaredNames) (name : String) : Option Primitive :=
  if names.declares name then none else Primitive.ofName? name

/-- The namespace of names between `::`. -/
def Namespace.ofNames (names : List String) : Namespace :=
  .ofText ("::".intercalate names)

def Ty.printed (text : String) : Ty := .path (.plain .global text)

mutual

/-- The type that a written type refers to in the module `current`. References and parentheses do
not count. -/
def TypeExpr.ty (names : DeclaredNames) (current : Namespace) : TypeExpr → Ty
  | .reference _ target => target.ty names current
  | .paren inner => inner.ty names current
  | .traitObject keyword bounds trailing =>
    match Bound.firstTrait names current bounds with
    | some interface => .dyn interface
    | none => .printed (TypeExpr.traitObject keyword bounds trailing).text
  | .path path => path.ty names current
  | .other code => .printed (TypeExpr.other code).text

/-- The trait of the first bound that names one. -/
def Bound.firstTrait (names : DeclaredNames) (current : Namespace) : List Bound → Option TypePath
  | [] => none
  | .implements _ path _ :: _ => some (path.typePath names current)
  | .lifetime _ :: rest => Bound.firstTrait names current rest
  | .other _ :: rest => Bound.firstTrait names current rest

/-- The type that a path refers to as a type: a boxed trait object, a scalar or a nominal type. -/
def PathExpr.ty (names : DeclaredNames) (current : Namespace) : PathExpr → Ty
  | ⟨_, segments⟩ => Segment.tyOf names current [] segments

/-- The type of a path with the segments `before` those given. -/
def Segment.tyOf (names : DeclaredNames) (current : Namespace) (before : List String) :
    List Segment → Ty
  | [] => .printed ""
  | [segment] => segment.ty names current before
  | segment :: rest => Segment.tyOf names current (before ++ [segment.name]) rest

def Segment.ty (names : DeclaredNames) (current : Namespace) (before : List String) : Segment → Ty
  | .plain name =>
    match names.primitive? name with
    | some scalar => .primitive scalar
    | none => .path ⟨names.scopeOf current (.ofNames before) name, name, []⟩
  | .generic name _ arguments _ =>
    match GenericArgument.boxed? names current name arguments with
    | some interface => .dyn interface
    | none =>
      .path ⟨names.scopeOf current (.ofNames before) name, name,
        GenericArgument.types names current arguments⟩
  | .callable name _ => .path ⟨names.scopeOf current (.ofNames before) name, name, []⟩

/-- The trait that a box of that name holds implementations of, if it is one. -/
def GenericArgument.boxed? (names : DeclaredNames) (current : Namespace) (name : String) :
    List GenericArgument → Option TypePath
  | .type argument :: _ => if name = "Box" then argument.object? names current else none
  | _ => none

def TypeExpr.object? (names : DeclaredNames) (current : Namespace) : TypeExpr → Option TypePath
  | .traitObject _ bounds _ => Bound.firstTrait names current bounds
  | _ => none

def GenericArgument.types (names : DeclaredNames) (current : Namespace) :
    List GenericArgument → List Ty
  | [] => []
  | .type argument :: rest =>
    argument.ty names current :: GenericArgument.types names current rest
  | .lifetime _ :: rest => GenericArgument.types names current rest
  | .other _ :: rest => GenericArgument.types names current rest

def PathExpr.typePath (names : DeclaredNames) (current : Namespace) : PathExpr → TypePath
  | ⟨_, segments⟩ => Segment.typePathOf names current [] segments

/-- The nominal type of a path with the segments `before` those given. -/
def Segment.typePathOf (names : DeclaredNames) (current : Namespace) (before : List String) :
    List Segment → TypePath
  | [] => .plain .global ""
  | [segment] => segment.typePath names current before
  | segment :: rest => Segment.typePathOf names current (before ++ [segment.name]) rest

def Segment.typePath (names : DeclaredNames) (current : Namespace) (before : List String) :
    Segment → TypePath
  | .generic name _ arguments _ =>
    ⟨names.scopeOf current (.ofNames before) name, name,
      GenericArgument.types names current arguments⟩
  | .plain name => ⟨names.scopeOf current (.ofNames before) name, name, []⟩
  | .callable name _ => ⟨names.scopeOf current (.ofNames before) name, name, []⟩

end

end MemberMapping
