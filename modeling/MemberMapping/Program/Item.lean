import MemberMapping.Expansion.Printing

/-!
The items of a program: structs, enums, unions, traits, implementations, modules and code of other
kinds, each with its attributes.

Only what a mapping looks into is taken apart. Printing gives the tokens of an item back, generated
code included.
-/

namespace MemberMapping

/-- What a body ends in, as far as it matters whether it calls another constructor. -/
inductive Outline where
  /-- A single name. -/
  | name (text : String)
  /-- Any other path: the names of its segments. -/
  | path (names : List String)
  | call (function : Outline) (arguments : List Outline)
  | reference (mutable : Bool) (target : Outline)
  | other
deriving Inhabited

/-- A field of a struct, a variant or a union. Fields of a tuple have no name. -/
structure Field where
  attributes : List Attribute
  visibility : List Code
  name : Option String
  ty : TypeExpr

inductive Fields where
  | named (fields : List Field) (trailing : Bool)
  | positional (fields : List Field) (trailing : Bool)
  | unit

structure StructItem where
  attributes : List Attribute
  visibility : List Code
  name : String
  /-- The generic parameters in angle brackets; empty where there are none. -/
  generics : List Code
  conditions : List Code
  fields : Fields

structure Variant where
  attributes : List Attribute
  name : String
  fields : Fields
  /-- The value behind an equals sign. -/
  discriminant : List Code

structure EnumItem where
  attributes : List Attribute
  visibility : List Code
  name : String
  generics : List Code
  conditions : List Code
  variants : List Variant
  trailing : Bool

structure UnionItem where
  attributes : List Attribute
  visibility : List Code
  name : String
  generics : List Code
  conditions : List Code
  fields : List Field
  trailing : Bool

structure TraitItem where
  attributes : List Attribute
  /-- What stands before the name. -/
  front : List Code
  name : String
  /-- What stands behind the name, the members included. -/
  rest : List Code

inductive Parameter where
  /-- The value that a method is called on. -/
  | receiver (code : List Code)
  /-- A pattern and its type. `name` is what the pattern binds, if it is a single name. -/
  | typed (attributes : List Attribute) (pattern : List Code) (name : Option String) (ty : TypeExpr)
  | variadic (code : List Code)

structure Function where
  attributes : List Attribute
  /-- What stands before the name. -/
  front : List Code
  name : String
  generics : List Code
  parameters : List Parameter
  trailing : Bool
  /-- The written result type. -/
  result : Option TypeExpr
  conditions : List Code
  /-- The attributes at the beginning of the body. -/
  innerAttributes : List Attribute := []
  /-- The further tokens in the braces. -/
  body : List Token
  /-- The last expression of the body, if it ends in one. -/
  ending : Option Outline

inductive ImplMember where
  | function (function : Function)
  | other (code : List Code)

/-- The trait that is implemented, or is said not to be. -/
structure ImplTrait where
  negative : Bool
  path : PathExpr

structure ImplItem where
  attributes : List Attribute
  /-- What stands before the trait or the type. -/
  front : List Code
  interface : Option ImplTrait
  self : TypeExpr
  conditions : List Code
  innerAttributes : List Attribute
  members : List ImplMember

/-- An item of a module. -/
inductive Item where
  | struct (item : StructItem)
  | enum (item : EnumItem)
  | union (item : UnionItem)
  | trait (item : TraitItem)
  | impl (item : ImplItem)
  /-- A module with its items in place: attributes, what stands before its name, the name, its
  inner attributes and the items. -/
  | module (attributes : List Attribute) (front : List Code) (name : String)
      (innerAttributes : List Attribute) (items : List Item)
  /-- An item of another kind, a module in a file of its own among them. -/
  | other (code : List Code)
  /-- The code generated for a type. -/
  | generated (code : MappingCode)

/-- A source file. -/
structure SourceFile where
  innerAttributes : List Attribute
  items : List Item

namespace Field

def code (field : Field) : List Code :=
  let name := match field.name with
    | some name => .token (.ident name) :: Code.operator ":"
    | none => []
  [.marked field.attributes (field.visibility ++ name ++ field.ty.code)]

def stripped (field : Field) : Field :=
  { field with
    attributes := Attribute.kept field.attributes
    visibility := Code.strippedAll field.visibility
    ty := field.ty.stripped }

end Field

/-- A block: the attributes at its beginning, and the further tokens in its braces. -/
def blockOf (attributes : List Attribute) (tokens : List Token) : List Code :=
  [.group .brace (Attribute.innerCodeOf attributes ++ Code.ofTokens tokens)]

def bracketed (delimiter : Delimiter) (trailing : Bool) (parts : List (List Code)) : List Code :=
  [.group delimiter (separated [Code.comma] trailing parts)]

namespace Fields

def code : Fields → List Code
  | named fields trailing => bracketed .brace trailing (fields.map (·.code))
  | positional fields trailing => bracketed .paren trailing (fields.map (·.code))
  | unit => []

def stripped : Fields → Fields
  | named fields trailing => named (fields.map (·.stripped)) trailing
  | positional fields trailing => positional (fields.map (·.stripped)) trailing
  | unit => unit

end Fields

namespace StructItem

/-- The struct behind its attributes. Conditions stand before named fields and behind those of a
tuple. -/
def bare (item : StructItem) : List Code :=
  let head := item.visibility ++ Code.ofTokens [.ident "struct", .ident item.name] ++ item.generics
  match item.fields with
  | .named _ _ => head ++ item.conditions ++ item.fields.code
  | .positional _ _ => head ++ item.fields.code ++ item.conditions ++ Code.operator ";"
  | .unit => head ++ item.conditions ++ Code.operator ";"

def code (item : StructItem) : List Code :=
  [.marked item.attributes item.bare]

def stripped (item : StructItem) : StructItem :=
  { item with
    attributes := Attribute.kept item.attributes
    visibility := Code.strippedAll item.visibility
    generics := Code.strippedAll item.generics
    conditions := Code.strippedAll item.conditions
    fields := item.fields.stripped }

end StructItem

namespace Variant

def code (variant : Variant) : List Code :=
  Attribute.codeOf variant.attributes ++ [.token (.ident variant.name)] ++ variant.fields.code ++
    variant.discriminant

def stripped (variant : Variant) : Variant :=
  { variant with
    attributes := Attribute.strippedAll variant.attributes
    fields := variant.fields.stripped
    discriminant := Code.strippedAll variant.discriminant }

end Variant

namespace EnumItem

def code (item : EnumItem) : List Code :=
  [.marked item.attributes
    (item.visibility ++ Code.ofTokens [.ident "enum", .ident item.name] ++ item.generics ++
      item.conditions ++ bracketed .brace item.trailing (item.variants.map (·.code)))]

def stripped (item : EnumItem) : EnumItem :=
  { item with
    attributes := Attribute.kept item.attributes
    visibility := Code.strippedAll item.visibility
    generics := Code.strippedAll item.generics
    conditions := Code.strippedAll item.conditions
    variants := item.variants.map (·.stripped) }

end EnumItem

namespace UnionItem

def code (item : UnionItem) : List Code :=
  Attribute.codeOf item.attributes ++ item.visibility ++
    Code.ofTokens [.ident "union", .ident item.name] ++ item.generics ++ item.conditions ++
    bracketed .brace item.trailing (item.fields.map (·.code))

def stripped (item : UnionItem) : UnionItem :=
  { item with
    attributes := Attribute.strippedAll item.attributes
    visibility := Code.strippedAll item.visibility
    generics := Code.strippedAll item.generics
    conditions := Code.strippedAll item.conditions
    fields := item.fields.map (·.stripped) }

end UnionItem

namespace TraitItem

def code (item : TraitItem) : List Code :=
  Attribute.codeOf item.attributes ++ item.front ++ [.token (.ident item.name)] ++ item.rest

def stripped (item : TraitItem) : TraitItem :=
  { item with
    attributes := Attribute.strippedAll item.attributes
    front := Code.strippedAll item.front
    rest := Code.strippedAll item.rest }

end TraitItem

namespace Parameter

def code : Parameter → List Code
  | receiver code => code
  | typed attributes pattern _ ty =>
    [.marked attributes (pattern ++ Code.operator ":" ++ ty.code)]
  | variadic code => code

def stripped : Parameter → Parameter
  | receiver code => receiver (Code.strippedAll code)
  | typed attributes pattern name ty =>
    typed (Attribute.kept attributes) (Code.strippedAll pattern) name ty.stripped
  | variadic code => variadic (Code.strippedAll code)

end Parameter

namespace Function

def resultCode (function : Function) : List Code :=
  match function.result with
  | some ty => Code.operator "->" ++ ty.code
  | none => []

def signatureCode (function : Function) : List Code :=
  function.front ++ [.token (.ident function.name)] ++ function.generics ++
    bracketed .paren function.trailing (function.parameters.map (·.code)) ++
    function.resultCode ++ function.conditions

def code (function : Function) : List Code :=
  Attribute.codeOf function.attributes ++ function.signatureCode ++
    blockOf function.innerAttributes function.body

/-- The attributes of the function itself stay, and its body is left alone. -/
def stripped (function : Function) : Function :=
  { function with
    attributes := Attribute.strippedAll function.attributes
    innerAttributes := Attribute.strippedAll function.innerAttributes
    front := Code.strippedAll function.front
    generics := Code.strippedAll function.generics
    parameters := function.parameters.map (·.stripped)
    result := function.result.map (·.stripped)
    conditions := Code.strippedAll function.conditions }

end Function

namespace ImplMember

def code : ImplMember → List Code
  | function f => f.code
  | other code => code

def stripped : ImplMember → ImplMember
  | function f => function f.stripped
  | other code => other (Code.strippedAll code)

end ImplMember

namespace ImplTrait

def code (interface : ImplTrait) : List Code :=
  (if interface.negative then Code.operator "!" else []) ++ interface.path.code ++
    [.token (.ident "for")]

def stripped (interface : ImplTrait) : ImplTrait :=
  { interface with path := interface.path.stripped }

end ImplTrait

namespace ImplItem

def code (item : ImplItem) : List Code :=
  Attribute.codeOf item.attributes ++ item.front ++ (item.interface.map (·.code)).getD [] ++
    item.self.code ++ item.conditions ++
    [.group .brace
      (Attribute.innerCodeOf item.innerAttributes ++ item.members.flatMap (·.code))]

def stripped (item : ImplItem) : ImplItem :=
  { item with
    attributes := Attribute.strippedAll item.attributes
    innerAttributes := Attribute.strippedAll item.innerAttributes
    front := Code.strippedAll item.front
    interface := item.interface.map (·.stripped)
    self := item.self.stripped
    conditions := Code.strippedAll item.conditions
    members := item.members.map (·.stripped) }

end ImplItem

namespace Item

mutual

/-- The code of an item. -/
def code : Item → List Code
  | struct item => item.code
  | enum item => item.code
  | union item => item.code
  | trait item => item.code
  | impl item => item.code
  | module attributes front name innerAttributes items =>
    Attribute.codeOf attributes ++ front ++ [.token (.ident name)] ++
      [.group .brace (Attribute.innerCodeOf innerAttributes ++ codeOf items)]
  | other code => code
  | generated code => Code.ofTokens code.tokens

def codeOf : List Item → List Code
  | [] => []
  | item :: rest => item.code ++ codeOf rest

end

mutual

/-- The item without the attributes that steer the generator, at every place where they are read:
structs, enums, fields and parameters. Blocks are left alone. -/
def stripped : Item → Item
  | struct item => struct item.stripped
  | enum item => enum item.stripped
  | union item => union item.stripped
  | trait item => trait item.stripped
  | impl item => impl item.stripped
  | module attributes front name innerAttributes items =>
    module (Attribute.strippedAll attributes) (Code.strippedAll front) name
      (Attribute.strippedAll innerAttributes) (strippedAll items)
  | other code => other (Code.strippedAll code)
  | generated code => generated code

/-- Each item without the attributes that steer the generator. -/
def strippedAll : List Item → List Item
  | [] => []
  | item :: rest => item.stripped :: strippedAll rest

end

end Item

namespace SourceFile

def tokens (file : SourceFile) : List Token :=
  Code.tokensOf (Attribute.innerCodeOf file.innerAttributes ++ Item.codeOf file.items)

def text (file : SourceFile) : String := Token.textOf file.tokens

end SourceFile

end MemberMapping
