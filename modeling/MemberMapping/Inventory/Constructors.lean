import MemberMapping.Inventory.Declarations
import MemberMapping.Inventory.Marks
import MemberMapping.Inventory.Names

/-!
Members and constructors as the schema sees them.

A function of a type is a constructor of it if it is not called on a value and its result is named
as the type or as `Self`. A constructor whose body ends in a call of another function of the type
hands on the arguments of that call.
-/

namespace MemberMapping

/-- The type by name or as `Self`. -/
def isOwnName (typeName name : String) : Bool :=
  name == "Self" || name == typeName

namespace Function

def isMethod (function : Function) : Bool :=
  function.parameters.head?.any fun parameter => parameter matches .receiver _

def isConstructor (function : Function) (typeName : String) : Bool :=
  !function.isMethod &&
    match function.result with
    | some (.path path) =>
      match path.last? with
      | some (.plain name) => isOwnName typeName name
      | _ => false
    | _ => false

end Function

namespace Outline

/-- The last two names of a path. -/
def lastNames? : Outline → Option (String × String)
  | path names =>
    match names.reverse with
    | last :: owner :: _ => some (owner, last)
    | _ => none
  | _ => none

def isNewContext (known : WellKnown) : Outline → Bool
  | call function [] =>
    match function.lastNames? with
    | some (owner, function) =>
      (function == "new" || function == "default") && owner == known.mappingContext.name
    | none => false
  | _ => false

/-- The type of an argument that is a parameter or a new mapping context, perhaps behind
references. -/
def argumentType? (known : WellKnown) (params : List (String × Ty)) : Outline → Option Ty
  | reference mutable target =>
    if mutable && target.isNewContext known then some (.path known.mappingContext)
    else target.argumentType? known params
  | name text => (params.find? (·.1 == text)).map (·.2)
  | _ => none

def handedOn? (typeName : String) : Outline → Option (List Outline)
  | call function arguments =>
    match function.lastNames? with
    | some (owner, _) => if isOwnName typeName owner then some arguments else none
    | none => none
  | _ => none

end Outline

/-- The member of that name and type with what its attributes say. Parameters cannot be changed
later on. -/
def MemberMarks.member (marks : MemberMarks) (names : DeclaredNames) (scope : Namespace)
    (name : String) (ty : TypeExpr) (kind : MemberKind) : Member :=
  { name := name
    ty := ty.ty names scope
    kind := kind
    readOnly := marks.readOnly || kind == .parameter
    markers :=
      (marks.rename.map Marker.mapProperty).toList ++
        (if marks.ignored then [Marker.ignoreMember] else []) ++
        (marks.converter.map fun c =>
          Marker.converter (c.path.typePath names scope) c.parameters).toList }

structure DeclaredMember where
  member : Member
  decl : MemberDecl

/-- A constructor as it is written; the one of a tuple itself has no name. -/
structure WrittenConstructor where
  name : Option String
  members : List DeclaredMember

namespace WrittenConstructor

/-- The wider of two constructors, the first on a tie. -/
def wider (first second : WrittenConstructor) : WrittenConstructor :=
  if first.members.length < second.members.length then second else first

/-- The constructor with the most parameters, the first on a tie. -/
def widest? : List WrittenConstructor → Option WrittenConstructor
  | [] => none
  | first :: rest => some (rest.foldl wider first)

def table (c : WrittenConstructor) : Table MemberDecl :=
  c.members.zipIdx.foldl
    (fun t (m, position) => t.set m.member.name { m.decl with access := .position position }) []

end WrittenConstructor

def successes {ε α : Type} (outcomes : List (Except ε α)) : List α :=
  outcomes.filterMap Except.toOption

def failures {ε α : Type} (outcomes : List (Except (List ε) α)) : List ε :=
  outcomes.flatMap fun
    | .ok _ => []
    | .error faults => faults

/-- A parameter of a constructor; nothing where it has no type of its own. -/
def Parameter.declared? (names : DeclaredNames) (scope : Namespace) (position : Nat) :
    Parameter → Option (Except (List AttributeFault) DeclaredMember)
  | typed attributes _ name ty => some do
    let marks ← MemberMarks.ofAttributes attributes
    let binding := name.getD ("arg_" ++ toString position)
    return {
      member := marks.member names scope (Token.plainName binding) ty .parameter
      decl := ⟨binding, .position position, ty, marks.converter.map (·.path)⟩ }
  | receiver _ => none
  | variadic _ => none

def Function.declaredParameters (function : Function) (names : DeclaredNames) (scope : Namespace) :
    List (Except (List AttributeFault) DeclaredMember) :=
  function.parameters.zipIdx.filterMap fun (parameter, position) =>
    parameter.declared? names scope position

def Function.constructor (function : Function) (known : WellKnown) (typeName : String)
    (parameters : List DeclaredMember) : Constructor :=
  let params := parameters.map (·.member)
  let types := params.map fun p => (p.name, p.ty)
  let arguments := function.ending.bind (·.handedOn? typeName)
  { params := params
    initializer := arguments.map fun outlines => outlines.map (·.argumentType? known types) }

end MemberMapping
