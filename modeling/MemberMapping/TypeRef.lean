/-!
References to types: a scalar, a nominal type with its generic arguments, or a boxed interface.

A nominal type is known by its scope (a `::`-separated module path), its name and its arguments.
Its *definition name* joins scope and name and identifies the declaration; its arguments do not
take part.
-/

namespace MemberMapping

/-- A `::`-separated module path. The empty path is the global namespace. -/
structure Namespace where
  text : String
deriving DecidableEq, Repr, Inhabited

namespace Namespace

def global : Namespace := ⟨""⟩

def trimColons (path : List Char) : List Char :=
  let tail := path.dropWhile (· == ':')
  (tail.reverse.dropWhile (· == ':')).reverse

/-- The namespace written as `path`; colons at either end do not count. -/
def ofText (path : String) : Namespace :=
  ⟨String.ofList (trimColons path.toList)⟩

def isGlobal (ns : Namespace) : Bool :=
  ns.text == ""

/-- The pieces of a path between successive `::`, from the left. -/
def splitPath : List Char → List (List Char)
  | [] => [[]]
  | ':' :: ':' :: rest => [] :: splitPath rest
  | c :: rest =>
    match splitPath rest with
    | [] => [[c]]
    | piece :: pieces => (c :: piece) :: pieces

/-- The module names on the path, outermost first. -/
def segments (ns : Namespace) : List String :=
  ((splitPath ns.text.toList).filter (· ≠ [])).map String.ofList

/-- The child module `segment` of a namespace. -/
def join (ns : Namespace) (segment : String) : Namespace :=
  if ns.isGlobal then ofText segment else ⟨ns.text ++ "::" ++ segment⟩

end Namespace

/-- The built-in scalars. Text counts as one of them. -/
inductive Primitive
  | bool | char
  | i8 | i16 | i32 | i64 | i128 | isize
  | u8 | u16 | u32 | u64 | u128 | usize
  | f32 | f64
  | string
deriving DecidableEq, Repr

namespace Primitive

def all : List Primitive :=
  [bool, char, i8, i16, i32, i64, i128, isize, u8, u16, u32, u64, u128, usize, f32, f64, string]

def name : Primitive → String
  | bool => "bool"
  | char => "char"
  | i8 => "i8"
  | i16 => "i16"
  | i32 => "i32"
  | i64 => "i64"
  | i128 => "i128"
  | isize => "isize"
  | u8 => "u8"
  | u16 => "u16"
  | u32 => "u32"
  | u64 => "u64"
  | u128 => "u128"
  | usize => "usize"
  | f32 => "f32"
  | f64 => "f64"
  | string => "String"

def ofName? (text : String) : Option Primitive :=
  all.find? (·.name == text)

/-- The scalars to which every value of a scalar converts without loss, itself not included. -/
def wideningTargets : Primitive → List Primitive
  | u8 => [u16, u32, u64, u128, usize, i16, i32, i64, i128, isize, f32, f64, char]
  | u16 => [u32, u64, u128, usize, i32, i64, i128, f32, f64]
  | u32 => [u64, u128, i64, i128, f64]
  | u64 => [u128, i128]
  | i8 => [i16, i32, i64, i128, isize, f32, f64]
  | i16 => [i32, i64, i128, isize, f32, f64]
  | i32 => [i64, i128, f64]
  | i64 => [i128]
  | f32 => [f64]
  | char => [u32, u64, u128]
  | _ => []

/-- Every value of `p` converts to `target` without loss, and the two differ. -/
def widensTo (p target : Primitive) : Bool :=
  p.wideningTargets.contains target

end Primitive

mutual

/-- The declared type of a member. -/
inductive Ty where
  /-- A built-in scalar. -/
  | primitive (scalar : Primitive)
  /-- A nominal type, possibly generic. -/
  | path (target : TypePath)
  /-- A box holding any implementation of an interface. -/
  | dyn (interface : TypePath)

structure TypePath where
  scope : Namespace
  name : String
  args : List Ty

end

instance : Inhabited TypePath := ⟨⟨.global, "", []⟩⟩
instance : Inhabited Ty := ⟨.path default⟩

mutual

/-- Equality of type references is decided side by side with that of paths and argument lists. -/
def Ty.decEq : (a b : Ty) → Decidable (a = b)
  | .primitive p, .primitive q =>
    if h : p = q then isTrue (by rw [h]) else isFalse (by simp [h])
  | .path p, .path q =>
    match TypePath.decEq p q with
    | isTrue h => isTrue (by rw [h])
    | isFalse h => isFalse (by simp [h])
  | .dyn p, .dyn q =>
    match TypePath.decEq p q with
    | isTrue h => isTrue (by rw [h])
    | isFalse h => isFalse (by simp [h])
  | .primitive _, .path _ => isFalse (by simp)
  | .primitive _, .dyn _ => isFalse (by simp)
  | .path _, .primitive _ => isFalse (by simp)
  | .path _, .dyn _ => isFalse (by simp)
  | .dyn _, .primitive _ => isFalse (by simp)
  | .dyn _, .path _ => isFalse (by simp)

@[inherit_doc Ty.decEq]
def TypePath.decEq : (a b : TypePath) → Decidable (a = b)
  | ⟨scope, name, args⟩, ⟨scope', name', args'⟩ =>
    if hs : scope = scope' then
      if hn : name = name' then
        match Ty.decEqList args args' with
        | isTrue ha => isTrue (by rw [hs, hn, ha])
        | isFalse ha => isFalse (by simp [ha])
      else isFalse (by simp [hn])
    else isFalse (by simp [hs])

@[inherit_doc Ty.decEq]
def Ty.decEqList : (as bs : List Ty) → Decidable (as = bs)
  | [], [] => isTrue rfl
  | [], _ :: _ => isFalse (by simp)
  | _ :: _, [] => isFalse (by simp)
  | a :: as, b :: bs =>
    match Ty.decEq a b, Ty.decEqList as bs with
    | isTrue h, isTrue hs => isTrue (by rw [h, hs])
    | isFalse h, _ => isFalse (by simp [h])
    | _, isFalse hs => isFalse (by simp [hs])

end

instance : DecidableEq Ty := Ty.decEq
instance : DecidableEq TypePath := TypePath.decEq

mutual

/-- The type as it reads in messages: names without scopes, arguments in angle brackets. -/
def Ty.display : Ty → String
  | .primitive scalar => scalar.name
  | .path target => target.display
  | .dyn interface => "Box<dyn " ++ interface.display ++ ">"

/-- The name and arguments of a nominal type, without its scope. -/
def TypePath.display : TypePath → String
  | ⟨_, name, args⟩ => name ++ Ty.displayArgs args

/-- Generic arguments in angle brackets; nothing when there are none. -/
def Ty.displayArgs : List Ty → String
  | [] => ""
  | arg :: rest => "<" ++ arg.display ++ Ty.displayRest rest ++ ">"

/-- The arguments after the first, each after a comma. -/
def Ty.displayRest : List Ty → String
  | [] => ""
  | arg :: rest => ", " ++ arg.display ++ Ty.displayRest rest

end

namespace TypePath

/-- The path without arguments. -/
def plain (scope : Namespace) (name : String) : TypePath :=
  ⟨scope, name, []⟩

/-- Scope and name, without arguments. Identifies the declaration. -/
def definitionName (path : TypePath) : String :=
  if path.scope.isGlobal then path.name else path.scope.text ++ "::" ++ path.name

def fullName (path : TypePath) : String :=
  path.definitionName ++ Ty.displayArgs path.args

end TypePath

namespace Ty

def isPrimitive : Ty → Bool
  | .primitive _ => true
  | _ => false

/-- The nominal type referred to directly, not behind a box. -/
def asPath? : Ty → Option TypePath
  | .path target => some target
  | _ => none

/-- The nominal type referred to, directly or as a boxed interface. -/
def nominal? : Ty → Option TypePath
  | .path target => some target
  | .dyn interface => some interface
  | .primitive _ => none

/-- The namespace the type is declared in; scalars have none. -/
def scope? (ty : Ty) : Option Namespace :=
  ty.nominal?.map (·.scope)

def option (inner : Ty) : Ty :=
  .path ⟨.global, "Option", [inner]⟩

def vec (element : Ty) : Ty :=
  .path ⟨.global, "Vec", [element]⟩

end Ty

end MemberMapping
