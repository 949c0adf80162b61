import MemberMapping.Token

/-!
Code that is carried along as it is written.

It is known token by token, with one exception: what helper attributes are removed from is told
apart, a struct, an enum, a field or a parameter with a type, of a function or of a closure. What
stands in the braces of a block is tokens throughout, but for the attributes at its beginning.
-/

namespace MemberMapping

/-- Parts with a separator between them, and behind the last one where `trailing`. -/
def separated {α : Type} (separator : List α) (trailing : Bool) : List (List α) → List α
  | [] => []
  | [part] => part ++ (if trailing then separator else [])
  | part :: rest => part ++ separator ++ separated separator trailing rest

def Token.comma : Token := .mark ',' false

/-- What names a field of a value: a word or, without names, its position. -/
inductive FieldName
  | named (name : String)
  | position (index : Nat)
deriving DecidableEq, Repr

def FieldName.token : FieldName → Token
  | named name => .ident name
  | position index => .literal (toString index)

/-- A path of names alone. -/
structure NamePath where
  /-- The path begins with `::`. -/
  rooted : Bool
  names : List String
deriving DecidableEq, Repr

namespace NamePath

def isName (path : NamePath) (name : String) : Bool :=
  !path.rooted && path.names == [name]

def tokens (path : NamePath) : List Token :=
  (if path.rooted then Token.operator "::" else []) ++
    separated (Token.operator "::") false (path.names.map fun name => [.ident name])

end NamePath

mutual

/-- What stands behind the path of an attribute. -/
inductive AttributeBody where
  | empty
  /-- Arguments in brackets. -/
  | arguments (delimiter : Delimiter) (inner : List Token)
  /-- A value behind an equals sign. -/
  | value (written : List Code)

structure Attribute where
  path : NamePath
  body : AttributeBody

/-- Code, token by token but for what helper attributes are removed from. -/
inductive Code where
  | token (token : Token)
  | group (delimiter : Delimiter) (inner : List Code)
  /-- A struct, an enum, a field or a parameter with a type: its attributes, and the rest of it. -/
  | marked (attributes : List Attribute) (rest : List Code)

end

namespace Attribute

def helperNames : List String :=
  ["map_from", "use_update", "json_extension", "map_property", "ignore_member", "converter",
    "read_only", "map_base"]

/-- The attribute steers the generator and is no part of the expanded code. -/
def isHelper (a : Attribute) : Bool :=
  helperNames.any a.path.isName

end Attribute

def Code.ofTokens (tokens : List Token) : List Code :=
  tokens.map .token

/-! ## Tokens -/

mutual

def Code.tokens : Code → List Token
  | .token t => [t]
  | .group delimiter inner => [.group delimiter (Code.tokensOf inner)]
  | .marked attributes rest => Attribute.tokensOf attributes ++ Code.tokensOf rest

def Code.tokensOf : List Code → List Token
  | [] => []
  | code :: rest => code.tokens ++ Code.tokensOf rest

def AttributeBody.tokens : AttributeBody → List Token
  | .empty => []
  | .arguments delimiter inner => [.group delimiter inner]
  | .value written => .mark '=' false :: Code.tokensOf written

def Attribute.tokens : Attribute → List Token
  | ⟨path, body⟩ => [.mark '#' false, .group .bracket (path.tokens ++ body.tokens)]

def Attribute.tokensOf : List Attribute → List Token
  | [] => []
  | a :: rest => a.tokens ++ Attribute.tokensOf rest

end

namespace AttributeBody

/-- What stands behind the path of an attribute, as code. -/
def code : AttributeBody → List Code
  | empty => []
  | arguments delimiter inner => [.token (.group delimiter inner)]
  | value written => .token (.mark '=' false) :: written

end AttributeBody

namespace Attribute

def inside (a : Attribute) : Code :=
  .group .bracket (Code.ofTokens a.path.tokens ++ a.body.code)

/-- Attributes in front of what they belong to, where none is removed. -/
def codeOf (attributes : List Attribute) : List Code :=
  attributes.flatMap fun a => [.token (.mark '#' false), a.inside]

def innerCodeOf (attributes : List Attribute) : List Code :=
  attributes.flatMap fun a => [.token (.mark '#' false), .token (.mark '!' false), a.inside]

end Attribute

/-! ## Stripping -/

mutual

/-- A piece of code without the helper attributes in it. -/
def Code.stripped : Code → Code
  | .token t => .token t
  | .group delimiter inner => .group delimiter (Code.strippedAll inner)
  | .marked attributes rest => .marked (Attribute.kept attributes) (Code.strippedAll rest)

/-- Code without the helper attributes in it. -/
def Code.strippedAll : List Code → List Code
  | [] => []
  | code :: rest => code.stripped :: Code.strippedAll rest

def AttributeBody.stripped : AttributeBody → AttributeBody
  | .empty => .empty
  | .arguments delimiter inner => .arguments delimiter inner
  | .value written => .value (Code.strippedAll written)

/-- An attribute without the helper attributes in its value. -/
def Attribute.stripped : Attribute → Attribute
  | ⟨path, body⟩ => ⟨path, body.stripped⟩

/-- The attributes that stay where helper attributes are removed. -/
def Attribute.kept : List Attribute → List Attribute
  | [] => []
  | a :: rest => if a.isHelper then Attribute.kept rest else a.stripped :: Attribute.kept rest

end

def Attribute.strippedAll (attributes : List Attribute) : List Attribute :=
  attributes.map (·.stripped)

end MemberMapping
