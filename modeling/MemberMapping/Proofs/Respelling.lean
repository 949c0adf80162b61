import Mathlib.Data.List.Basic
import MemberMapping.Inventory.Modules
import MemberMapping.Inventory.Survey

/-!
Spelling the names of a program in another way.

Every name is replaced wherever it stands; lifetimes and literals are no names. What of a program
is read exactly as it is written is told apart from the names that it declares and from code that
no mapping looks into.
-/

namespace MemberMapping

/-! ## Respelling -/

namespace Token

mutual

/-- The token with its names spelled anew. -/
def respelled (spell : String → String) : Token → Token
  | ident text => ident (spell text)
  | group delimiter inner => group delimiter (respelledAll spell inner)
  | lifetime name => lifetime name
  | literal text => literal text
  | mark char joint => mark char joint

def respelledAll (spell : String → String) : List Token → List Token
  | [] => []
  | token :: rest => token.respelled spell :: respelledAll spell rest

end

def rawName (name : String) : String := "r#" ++ plainName name

lemma plainName_raw (name : String) : plainName ("r#" ++ name) = name := by
  have marked : ("r#" ++ name).startsWith "r#" = true := by simp
  rw [plainName, if_pos marked]
  simp

@[simp] lemma plainName_rawName (name : String) : plainName (rawName name) = plainName name :=
  plainName_raw _

@[simp] lemma rawName_rawName (name : String) : rawName (rawName name) = rawName name := by
  rw [rawName, plainName_rawName, rawName]

def marking (name written : String) : String :=
  if written = name then "r#" ++ name else written

/-- Another spelling adds or removes the mark of a raw name at most. -/
def OnlyMarks (spell : String → String) : Prop :=
  ∀ written, plainName (spell written) = plainName written

lemma marking_onlyMarks {name : String} (plain : plainName name = name) :
    OnlyMarks (marking name) := by
  intro written
  rw [marking]
  by_cases same : written = name
  · rw [if_pos same, plainName_raw, same, plain]
  · rw [if_neg same]

end Token

section Respelled

variable (spell : String → String)

mutual

def AttributeBody.respelled : AttributeBody → AttributeBody
  | .empty => .empty
  | .arguments delimiter inner => .arguments delimiter (Token.respelledAll spell inner)
  | .value written => .value (Code.respelledAll written)

def Attribute.respelled : Attribute → Attribute
  | ⟨path, body⟩ => ⟨{ path with names := path.names.map spell }, body.respelled⟩

def Attribute.respelledAll : List Attribute → List Attribute
  | [] => []
  | a :: rest => a.respelled :: Attribute.respelledAll rest

def Code.respelled : Code → Code
  | .token t => .token (t.respelled spell)
  | .group delimiter inner => .group delimiter (Code.respelledAll inner)
  | .marked attributes rest => .marked (Attribute.respelledAll attributes) (Code.respelledAll rest)

def Code.respelledAll : List Code → List Code
  | [] => []
  | code :: rest => code.respelled :: Code.respelledAll rest

end

mutual

def TypeExpr.respelled : TypeExpr → TypeExpr
  | .reference front target => .reference (Token.respelledAll spell front) target.respelled
  | .paren inner => .paren inner.respelled
  | .traitObject keyword bounds trailing =>
    .traitObject keyword (Bound.respelledAll bounds) trailing
  | .path path => .path path.respelled
  | .other code => .other (Code.respelledAll spell code)

def Bound.respelled : Bound → Bound
  | .lifetime name => .lifetime name
  | .implements front path inParens =>
    .implements (Code.respelledAll spell front) path.respelled inParens
  | .other code => .other (Code.respelledAll spell code)

def Bound.respelledAll : List Bound → List Bound
  | [] => []
  | bound :: rest => bound.respelled :: Bound.respelledAll rest

def PathExpr.respelled : PathExpr → PathExpr
  | ⟨rooted, segments⟩ => ⟨rooted, Segment.respelledAll segments⟩

def Segment.respelled : Segment → Segment
  | .plain name => .plain (spell name)
  | .generic name turbofish arguments trailing =>
    .generic (spell name) turbofish (GenericArgument.respelledAll arguments) trailing
  | .callable name code => .callable (spell name) (Code.respelledAll spell code)

def Segment.respelledAll : List Segment → List Segment
  | [] => []
  | segment :: rest => segment.respelled :: Segment.respelledAll rest

def GenericArgument.respelled : GenericArgument → GenericArgument
  | .lifetime name => .lifetime name
  | .type argument => .type argument.respelled
  | .other code => .other (Code.respelledAll spell code)

def GenericArgument.respelledAll : List GenericArgument → List GenericArgument
  | [] => []
  | argument :: rest => argument.respelled :: GenericArgument.respelledAll rest

end

mutual

def Outline.respelled : Outline → Outline
  | .name text => .name (spell text)
  | .path names => .path (names.map spell)
  | .call function arguments => .call function.respelled (Outline.respelledAll arguments)
  | .reference mutable target => .reference mutable target.respelled
  | .other => .other

def Outline.respelledAll : List Outline → List Outline
  | [] => []
  | outline :: rest => outline.respelled :: Outline.respelledAll rest

end

def Field.respelled (field : Field) : Field :=
  { attributes := field.attributes.map (·.respelled spell)
    visibility := Code.respelledAll spell field.visibility
    name := field.name.map spell
    ty := field.ty.respelled spell }

def Fields.respelled : Fields → Fields
  | .named fields trailing => .named (fields.map (·.respelled spell)) trailing
  | .positional fields trailing => .positional (fields.map (·.respelled spell)) trailing
  | .unit => .unit

def StructItem.respelled (item : StructItem) : StructItem :=
  { attributes := item.attributes.map (·.respelled spell)
    visibility := Code.respelledAll spell item.visibility
    name := spell item.name
    generics := Code.respelledAll spell item.generics
    conditions := Code.respelledAll spell item.conditions
    fields := item.fields.respelled spell }

def Variant.respelled (variant : Variant) : Variant :=
  { attributes := variant.attributes.map (·.respelled spell)
    name := spell variant.name
    fields := variant.fields.respelled spell
    discriminant := Code.respelledAll spell variant.discriminant }

def EnumItem.respelled (item : EnumItem) : EnumItem :=
  { attributes := item.attributes.map (·.respelled spell)
    visibility := Code.respelledAll spell item.visibility
    name := spell item.name
    generics := Code.respelledAll spell item.generics
    conditions := Code.respelledAll spell item.conditions
    variants := item.variants.map (·.respelled spell)
    trailing := item.trailing }

def UnionItem.respelled (item : UnionItem) : UnionItem :=
  { attributes := item.attributes.map (·.respelled spell)
    visibility := Code.respelledAll spell item.visibility
    name := spell item.name
    generics := Code.respelledAll spell item.generics
    conditions := Code.respelledAll spell item.conditions
    fields := item.fields.map (·.respelled spell)
    trailing := item.trailing }

def TraitItem.respelled (item : TraitItem) : TraitItem :=
  { attributes := item.attributes.map (·.respelled spell)
    front := Code.respelledAll spell item.front
    name := spell item.name
    rest := Code.respelledAll spell item.rest }

def Parameter.respelled : Parameter → Parameter
  | .receiver code => .receiver (Code.respelledAll spell code)
  | .typed attributes pattern name ty =>
    .typed (attributes.map (·.respelled spell)) (Code.respelledAll spell pattern) (name.map spell)
      (ty.respelled spell)
  | .variadic code => .variadic (Code.respelledAll spell code)

def Function.respelled (function : Function) : Function :=
  { attributes := function.attributes.map (·.respelled spell)
    front := Code.respelledAll spell function.front
    name := spell function.name
    generics := Code.respelledAll spell function.generics
    parameters := function.parameters.map (·.respelled spell)
    trailing := function.trailing
    result := function.result.map (·.respelled spell)
    conditions := Code.respelledAll spell function.conditions
    innerAttributes := function.innerAttributes.map (·.respelled spell)
    body := Token.respelledAll spell function.body
    ending := function.ending.map (·.respelled spell) }

def ImplMember.respelled : ImplMember → ImplMember
  | .function f => .function (f.respelled spell)
  | .other code => .other (Code.respelledAll spell code)

def ImplTrait.respelled (interface : ImplTrait) : ImplTrait :=
  { interface with path := interface.path.respelled spell }

def ImplItem.respelled (item : ImplItem) : ImplItem :=
  { attributes := item.attributes.map (·.respelled spell)
    front := Code.respelledAll spell item.front
    interface := item.interface.map (·.respelled spell)
    self := item.self.respelled spell
    conditions := Code.respelledAll spell item.conditions
    innerAttributes := item.innerAttributes.map (·.respelled spell)
    members := item.members.map (·.respelled spell) }

mutual

/-- The item with all names in it spelled anew. Generated code is no part of a written program. -/
def Item.respelled : Item → Item
  | .struct item => .struct (item.respelled spell)
  | .enum item => .enum (item.respelled spell)
  | .union item => .union (item.respelled spell)
  | .trait item => .trait (item.respelled spell)
  | .impl item => .impl (item.respelled spell)
  | .module attributes front name innerAttributes items =>
    .module (attributes.map (·.respelled spell)) (Code.respelledAll spell front) (spell name)
      (innerAttributes.map (·.respelled spell)) (Item.respelledAll items)
  | .other code => .other (Code.respelledAll spell code)
  | .generated code => .generated code

def Item.respelledAll : List Item → List Item
  | [] => []
  | item :: rest => item.respelled :: Item.respelledAll rest

end

/-- The file with all names in it spelled anew. -/
def SourceFile.respelled (file : SourceFile) : SourceFile :=
  { innerAttributes := file.innerAttributes.map (·.respelled spell)
    items := Item.respelledAll spell file.items }

end Respelled

/-! ## What is read -/

namespace Attribute

def helpers (attributes : List Attribute) : List Attribute :=
  attributes.filter (·.isHelper)

/-- The spelling leaves the helper attributes as they are. -/
def HelpersKept (spell : String → String) (attributes : List Attribute) : Prop :=
  helpers (attributes.map (·.respelled spell)) = helpers attributes

end Attribute

/-- The field with its name spelled raw, and without what is not read. -/
def Field.reduced (field : Field) : Field :=
  { attributes := Attribute.helpers field.attributes
    visibility := []
    name := field.name.map Token.rawName
    ty := field.ty }

def Fields.reduced : Fields → Fields
  | .named fields _ => .named (fields.map (·.reduced)) false
  | .positional fields _ => .positional (fields.map (·.reduced)) false
  | .unit => .unit

/-- Of the generic parameters it is only read whether there are some. -/
def StructItem.reduced (item : StructItem) : StructItem :=
  { attributes := Attribute.helpers item.attributes
    visibility := []
    name := Token.rawName item.name
    generics := if item.generics.isEmpty then [] else [Code.comma]
    conditions := []
    fields := item.fields.reduced }

def EnumItem.reduced (item : EnumItem) : EnumItem :=
  { attributes := Attribute.helpers item.attributes
    visibility := []
    name := Token.rawName item.name
    generics := []
    conditions := []
    variants := []
    trailing := false }

def TraitItem.reduced (item : TraitItem) : TraitItem :=
  { attributes := [], front := [], name := Token.rawName item.name, rest := [] }

def Parameter.reduced : Parameter → Parameter
  | .receiver _ => .receiver []
  | .typed attributes _ name ty =>
    .typed (Attribute.helpers attributes) [] (name.map Token.rawName) ty
  | .variadic _ => .variadic []

def Function.reduced (function : Function) : Function :=
  { attributes := []
    front := []
    name := Token.rawName function.name
    generics := []
    parameters := function.parameters.map (·.reduced)
    trailing := false
    result := function.result
    conditions := []
    body := []
    ending := function.ending }

def ImplMember.reduced : ImplMember → ImplMember
  | .function f => if f.isMethod then .other [] else .function f.reduced
  | .other _ => .other []

def ImplItem.reduced (item : ImplItem) : ImplItem :=
  { attributes := []
    front := []
    interface := item.interface
    self := item.self
    conditions := []
    innerAttributes := []
    members := item.members.map (·.reduced) }

mutual

/-- The item with the names that it declares spelled raw, and without what is not read. -/
def Item.reduced : Item → Item
  | .struct item => .struct item.reduced
  | .enum item => .enum item.reduced
  | .union _ => .other []
  | .trait item => .trait item.reduced
  | .impl item => .impl item.reduced
  | .module _ _ name _ items => .module [] [] name [] (Item.reducedAll items)
  | .other _ => .other []
  | .generated code => .generated code

@[inherit_doc Item.reduced]
def Item.reducedAll : List Item → List Item
  | [] => []
  | item :: rest => item.reduced :: Item.reducedAll rest

end

/-! ## What is read as it is written -/

section Kept

variable (spell : String → String)

/-- The spelling leaves what is read of a field, but for its name. -/
structure Field.Kept (field : Field) : Prop where
  attributes : Attribute.HelpersKept spell field.attributes
  ty : field.ty.respelled spell = field.ty

/-- All fields, in order. -/
def Fields.list : Fields → List Field
  | .named fields _ => fields
  | .positional fields _ => fields
  | .unit => []

/-- The spelling leaves what is read of a struct, but for the names that it declares. -/
structure StructItem.Kept (item : StructItem) : Prop where
  attributes : Attribute.HelpersKept spell item.attributes
  fields : ∀ field ∈ item.fields.list, field.Kept spell

/-- The spelling leaves what is read of a parameter, but for its name. -/
def Parameter.Kept : Parameter → Prop
  | .typed attributes _ _ ty => Attribute.HelpersKept spell attributes ∧ ty.respelled spell = ty
  | .receiver _ => True
  | .variadic _ => True

/-- The spelling leaves what is read of a function, but for the names of its parameters: their
types, its result and what its body ends in. -/
structure Function.Kept (function : Function) : Prop where
  parameters : ∀ parameter ∈ function.parameters, parameter.Kept spell
  result : function.result.map (·.respelled spell) = function.result
  ending : function.ending.map (·.respelled spell) = function.ending

def ImplMember.Kept : ImplMember → Prop
  | .function f => f.isMethod = false → f.Kept spell
  | .other _ => True

/-- The spelling leaves what is read of an implementation: the trait, the type and the functions
that are no methods. -/
structure ImplItem.Kept (item : ImplItem) : Prop where
  interface : item.interface.map (·.respelled spell) = item.interface
  self : item.self.respelled spell = item.self
  members : ∀ member ∈ item.members, member.Kept spell

mutual

/-- The spelling leaves what is read of an item as it is written: names of modules, helper
attributes, types, and what bodies of functions end in. -/
def Item.Kept : Item → Prop
  | .struct item => item.Kept spell
  | .enum item => Attribute.HelpersKept spell item.attributes
  | .impl item => item.Kept spell
  | .module _ _ name _ items => spell name = name ∧ Item.AllKept items
  | .union _ => True
  | .trait _ => True
  | .other _ => True
  | .generated _ => True

@[inherit_doc Item.Kept]
def Item.AllKept : List Item → Prop
  | [] => True
  | item :: rest => item.Kept ∧ Item.AllKept rest

end

end Kept

/-! ## Spellings that are not seen -/

section OnlyMarks

variable {spell : String → String} (marks : Token.OnlyMarks spell)

include marks

lemma Token.OnlyMarks.rawName_eq (written : String) :
    Token.rawName (spell written) = Token.rawName written := by
  rw [Token.rawName, marks written, Token.rawName]

lemma Token.OnlyMarks.map_rawName (name : Option String) :
    (name.map spell).map Token.rawName = name.map Token.rawName := by
  cases name with
  | none => rfl
  | some written => rw [Option.map_some, Option.map_some, Option.map_some, marks.rawName_eq]

lemma Field.reduced_respelled {field : Field} (kept : field.Kept spell) :
    (field.respelled spell).reduced = field.reduced := by
  have attributes := kept.attributes
  rw [Attribute.HelpersKept] at attributes
  simp only [reduced, respelled, attributes, kept.ty, marks.map_rawName]

lemma Fields.reduced_respelled {fields : Fields} (kept : ∀ field ∈ fields.list, field.Kept spell) :
    (fields.respelled spell).reduced = fields.reduced := by
  have each : ∀ field ∈ fields.list, (field.respelled spell).reduced = field.reduced :=
    fun field listed => Field.reduced_respelled marks (kept field listed)
  cases fields with
  | unit => rfl
  | named fields trailing =>
    rw [respelled, reduced, reduced, List.map_map]
    exact congrArg (Fields.named · false) (List.map_congr_left each)
  | positional fields trailing =>
    rw [respelled, reduced, reduced, List.map_map]
    exact congrArg (Fields.positional · false) (List.map_congr_left each)

omit marks in
lemma Code.respelledAll_isEmpty (codes : List Code) :
    (Code.respelledAll spell codes).isEmpty = codes.isEmpty := by
  cases codes with
  | nil => rfl
  | cons code rest => rfl

lemma StructItem.reduced_respelled {item : StructItem} (kept : item.Kept spell) :
    (item.respelled spell).reduced = item.reduced := by
  have attributes := kept.attributes
  rw [Attribute.HelpersKept] at attributes
  simp only [reduced, respelled, attributes, Code.respelledAll_isEmpty,
    Fields.reduced_respelled marks kept.fields, marks.rawName_eq]

lemma EnumItem.reduced_respelled {item : EnumItem}
    (kept : Attribute.HelpersKept spell item.attributes) :
    (item.respelled spell).reduced = item.reduced := by
  rw [Attribute.HelpersKept] at kept
  simp only [reduced, respelled, kept, marks.rawName_eq]

lemma TraitItem.reduced_respelled (item : TraitItem) :
    (item.respelled spell).reduced = item.reduced := by
  simp only [reduced, respelled, marks.rawName_eq]

lemma Parameter.reduced_respelled {parameter : Parameter} (kept : parameter.Kept spell) :
    (parameter.respelled spell).reduced = parameter.reduced := by
  cases parameter with
  | receiver code => rfl
  | variadic code => rfl
  | typed attributes pattern name ty =>
    obtain ⟨helpers, same⟩ := kept
    rw [Attribute.HelpersKept] at helpers
    simp only [reduced, respelled, helpers, same, marks.map_rawName]

lemma Function.reduced_respelled {function : Function} (kept : function.Kept spell) :
    (function.respelled spell).reduced = function.reduced := by
  have parameters : (function.parameters.map (·.respelled spell)).map Parameter.reduced =
      function.parameters.map Parameter.reduced := by
    rw [List.map_map]
    exact List.map_congr_left fun parameter listed =>
      Parameter.reduced_respelled marks (kept.parameters parameter listed)
  simp only [reduced, respelled, kept.result, kept.ending, marks.rawName_eq]
  rw [parameters]

omit marks in
lemma Function.isMethod_respelled (function : Function) :
    (function.respelled spell).isMethod = function.isMethod := by
  simp only [isMethod, respelled, List.head?_map]
  cases function.parameters.head? with
  | none => rfl
  | some parameter => cases parameter <;> rfl

lemma ImplMember.reduced_respelled {member : ImplMember} (kept : member.Kept spell) :
    (member.respelled spell).reduced = member.reduced := by
  cases member with
  | other code => rfl
  | function f =>
    rw [respelled, reduced, reduced, f.isMethod_respelled]
    by_cases method : f.isMethod = true
    · rw [if_pos method, if_pos method]
    · rw [if_neg method, if_neg method,
        Function.reduced_respelled marks (kept (Bool.eq_false_iff.mpr method))]

lemma ImplItem.reduced_respelled {item : ImplItem} (kept : item.Kept spell) :
    (item.respelled spell).reduced = item.reduced := by
  have members : (item.members.map (·.respelled spell)).map ImplMember.reduced =
      item.members.map ImplMember.reduced := by
    rw [List.map_map]
    exact List.map_congr_left fun member listed =>
      ImplMember.reduced_respelled marks (kept.members member listed)
  simp only [reduced, respelled, kept.interface, kept.self]
  rw [members]

end OnlyMarks

mutual

lemma Item.reduced_respelled {spell : String → String} (marks : Token.OnlyMarks spell)
    {item : Item} (kept : item.Kept spell) :
    (item.respelled spell).reduced = item.reduced := by
  cases item with
  | struct item => exact congrArg Item.struct (StructItem.reduced_respelled marks kept)
  | enum item => exact congrArg Item.enum (EnumItem.reduced_respelled marks kept)
  | trait item => exact congrArg Item.trait (TraitItem.reduced_respelled marks item)
  | impl item => exact congrArg Item.impl (ImplItem.reduced_respelled marks kept)
  | module attributes front name innerAttributes items =>
    obtain ⟨same, within⟩ := kept
    simp only [Item.respelled, Item.reduced, same, Item.reducedAll_respelledAll marks within]
  | union item | other code | generated code => rfl

/-- A spelling that adds or removes marks of raw names, and leaves what is read as it is written,
cannot be told from the reduced items. -/
lemma Item.reducedAll_respelledAll {spell : String → String} (marks : Token.OnlyMarks spell)
    {items : List Item} (kept : Item.AllKept spell items) :
    Item.reducedAll (Item.respelledAll spell items) = Item.reducedAll items := by
  cases items with
  | nil => rfl
  | cons item rest =>
    simp only [Item.respelledAll, Item.reducedAll, Item.reduced_respelled marks kept.1,
      Item.reducedAll_respelledAll marks kept.2]

end

end MemberMapping
