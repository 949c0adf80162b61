import MemberMapping.Proofs.Stripping

/-!
Stripping a program and stripping its code are the same.

Of every part of a program, types, fields and items, the code of what is left is what is left of
the code: helper attributes are removed from structs, enums, fields and parameters with a type,
which the code tells apart, and the parts stay together as they were.
-/

namespace MemberMapping

/-! ## Parts put together -/

section Parts

variable {α β : Type} (f : α → β) (trailing : Bool)

lemma map_separated (separator : List α) (parts : List (List α)) :
    (separated separator trailing parts).map f =
      separated (separator.map f) trailing (parts.map (List.map f)) := by
  induction parts with
  | nil => rfl
  | cons part rest ih =>
    cases rest with
    | nil => cases trailing <;> exact List.map_append
    | cons next rest =>
      have step : separated separator trailing (part :: next :: rest) =
          part ++ separator ++ separated separator trailing (next :: rest) := rfl
      rw [step, List.map_append, List.map_append, ih]
      rfl

lemma map_withCommas (comma : α) (parts : List (List α)) :
    (withCommas comma trailing parts).map (List.map f) =
      withCommas (f comma) trailing (parts.map (List.map f)) := by
  induction parts with
  | nil => rfl
  | cons part rest ih =>
    cases rest with
    | nil => cases trailing <;> simp [withCommas]
    | cons next rest =>
      have step : withCommas comma trailing (part :: next :: rest) =
          (part ++ [comma]) :: withCommas comma trailing (next :: rest) := rfl
      rw [step, List.map_cons, List.map_append, ih]
      rfl

lemma map_lifetimesFirst (comma : α) (parts : List (Bool × List α)) :
    (lifetimesFirst comma trailing parts).map f =
      lifetimesFirst (f comma) trailing (parts.map fun part => (part.1, part.2.map f)) := by
  have lost : (parts.map fun part => (part.1, part.2.map f)).getLast?.any (·.1) =
      parts.getLast?.any (·.1) := by
    rw [List.getLast?_map, Option.any_map]
  have beside : ((parts.map fun part => (part.1, part.2.map f)).map (·.1)).zip
      (withCommas (f comma) trailing ((parts.map fun part => (part.1, part.2.map f)).map (·.2))) =
      ((parts.map (·.1)).zip (withCommas comma trailing (parts.map (·.2)))).map
        (Prod.map id (List.map f)) := by
    rw [← List.zip_map_right, map_withCommas, List.map_map, List.map_map, List.map_map]
    rfl
  simp only [lifetimesFirst]
  rw [beside, lost]
  generalize (parts.map (·.1)).zip (withCommas comma trailing (parts.map (·.2))) = placed
  simp only [List.map_append, List.map_flatten, List.filter_map, List.map_map, Function.comp_def,
    Prod.map_fst, Prod.map_snd, id_eq, List.isEmpty_map]
  rw [apply_ite (List.map f)]
  rfl

end Parts

/-! ## Stripped code -/

namespace Code

lemma strippedAll_eq : strippedAll = List.map stripped := by
  funext codes
  induction codes with
  | nil => rfl
  | cons code rest ih => rw [strippedAll, ih, List.map_cons]

@[simp] lemma strippedAll_append (first second : List Code) :
    strippedAll (first ++ second) = strippedAll first ++ strippedAll second := by
  rw [strippedAll_eq, List.map_append]

@[simp] lemma strippedAll_flatten (parts : List (List Code)) :
    strippedAll parts.flatten = (parts.map strippedAll).flatten := by
  rw [strippedAll_eq, List.map_flatten]

@[simp] lemma strippedAll_ofTokens (tokens : List Token) :
    strippedAll (ofTokens tokens) = ofTokens tokens := by
  rw [strippedAll_eq, ofTokens, List.map_map]
  rfl

@[simp] lemma strippedAll_operator (text : String) :
    strippedAll (operator text) = operator text :=
  strippedAll_ofTokens _

@[simp] lemma strippedAll_separated (separator : List Code) (trailing : Bool)
    (parts : List (List Code)) :
    strippedAll (separated separator trailing parts) =
      separated (strippedAll separator) trailing (parts.map strippedAll) := by
  rw [strippedAll_eq, map_separated]

@[simp] lemma strippedAll_lifetimesFirst (trailing : Bool) (parts : List (Bool × List Code)) :
    strippedAll (lifetimesFirst comma trailing parts) =
      lifetimesFirst comma trailing (parts.map fun part => (part.1, strippedAll part.2)) := by
  rw [strippedAll_eq, map_lifetimesFirst]
  rfl

@[simp] lemma strippedAll_bracketed (delimiter : Delimiter) (trailing : Bool)
    (parts : List (List Code)) :
    strippedAll (bracketed delimiter trailing parts) =
      bracketed delimiter trailing (parts.map strippedAll) := by
  rw [bracketed, bracketed, strippedAll, stripped, strippedAll_separated]
  rfl

end Code

lemma AttributeBody.code_stripped (body : AttributeBody) :
    body.stripped.code = Code.strippedAll body.code := by
  cases body <;> rfl

namespace Attribute

lemma inside_stripped (a : Attribute) : a.stripped.inside = a.inside.stripped := by
  obtain ⟨path, body⟩ := a
  rw [inside, inside, Code.stripped, Code.strippedAll_append, Code.strippedAll_ofTokens, stripped,
    AttributeBody.code_stripped]

@[simp] lemma codeOf_strippedAll (attributes : List Attribute) :
    codeOf (strippedAll attributes) = Code.strippedAll (codeOf attributes) := by
  simp only [codeOf, strippedAll, Code.strippedAll_eq, List.flatMap_map, List.map_flatMap,
    List.map_cons, List.map_nil, Code.stripped, inside_stripped]

@[simp] lemma innerCodeOf_strippedAll (attributes : List Attribute) :
    innerCodeOf (strippedAll attributes) = Code.strippedAll (innerCodeOf attributes) := by
  simp only [innerCodeOf, strippedAll, Code.strippedAll_eq, List.flatMap_map, List.map_flatMap,
    List.map_cons, List.map_nil, Code.stripped, inside_stripped]

end Attribute

@[simp] lemma Code.strippedAll_blockOf (attributes : List Attribute) (tokens : List Token) :
    Code.strippedAll (blockOf attributes tokens) =
      blockOf (Attribute.strippedAll attributes) tokens := by
  rw [blockOf, blockOf, Code.strippedAll, Code.stripped, Code.strippedAll_append,
    Code.strippedAll_ofTokens, Attribute.innerCodeOf_strippedAll]
  rfl

/-! ## Types -/

mutual

lemma TypeExpr.code_stripped (ty : TypeExpr) : ty.stripped.code = Code.strippedAll ty.code := by
  cases ty with
  | reference front target =>
    simp only [TypeExpr.stripped, TypeExpr.code, TypeExpr.code_stripped target,
      Code.strippedAll_append, Code.strippedAll_ofTokens]
  | paren inner =>
    simp only [TypeExpr.stripped, TypeExpr.code, TypeExpr.code_stripped inner, Code.strippedAll,
      Code.stripped]
  | traitObject keyword bounds trailing =>
    simp only [TypeExpr.stripped, TypeExpr.code, Bound.codes_strippedAll bounds,
      Code.strippedAll_append, Code.strippedAll_separated, Code.strippedAll_operator]
    cases keyword <;> rfl
  | path path => exact PathExpr.code_stripped path
  | other code => rfl

lemma Bound.code_stripped (bound : Bound) : bound.stripped.code = Code.strippedAll bound.code := by
  cases bound with
  | lifetime name => rfl
  | implements front path inParens =>
    simp only [Bound.stripped, Bound.code, PathExpr.code_stripped path]
    cases inParens <;> simp only [Code.strippedAll_append, Code.strippedAll, Code.stripped,
      Bool.false_eq_true, if_false, if_true]
  | other code => rfl

lemma Bound.codes_strippedAll (bounds : List Bound) :
    Bound.codes (Bound.strippedAll bounds) = (Bound.codes bounds).map Code.strippedAll := by
  cases bounds with
  | nil => rfl
  | cons bound rest =>
    simp only [Bound.strippedAll, Bound.codes, Bound.code_stripped bound,
      Bound.codes_strippedAll rest, List.map_cons]

lemma PathExpr.code_stripped (path : PathExpr) :
    path.stripped.code = Code.strippedAll path.code := by
  obtain ⟨rooted, segments⟩ := path
  simp only [PathExpr.stripped, PathExpr.code, Segment.codes_strippedAll segments,
    Code.strippedAll_append, Code.strippedAll_separated, Code.strippedAll_operator]
  cases rooted <;> rfl

lemma Segment.code_stripped (segment : Segment) :
    segment.stripped.code = Code.strippedAll segment.code := by
  cases segment with
  | plain name => rfl
  | generic name turbofish arguments trailing =>
    simp only [Segment.stripped, Segment.code, GenericArgument.codes_strippedAll arguments,
      Code.strippedAll_append, Code.strippedAll_lifetimesFirst, Code.strippedAll_operator]
    cases turbofish <;> rfl
  | callable name code => rfl

lemma Segment.codes_strippedAll (segments : List Segment) :
    Segment.codes (Segment.strippedAll segments) =
      (Segment.codes segments).map Code.strippedAll := by
  cases segments with
  | nil => rfl
  | cons segment rest =>
    simp only [Segment.strippedAll, Segment.codes, Segment.code_stripped segment,
      Segment.codes_strippedAll rest, List.map_cons]

lemma GenericArgument.code_stripped (argument : GenericArgument) :
    argument.stripped.code = Code.strippedAll argument.code := by
  cases argument with
  | lifetime name => rfl
  | type argument => exact TypeExpr.code_stripped argument
  | other code => rfl

lemma GenericArgument.codes_strippedAll (arguments : List GenericArgument) :
    GenericArgument.codes (GenericArgument.strippedAll arguments) =
      (GenericArgument.codes arguments).map fun part => (part.1, Code.strippedAll part.2) := by
  cases arguments with
  | nil => rfl
  | cons argument rest =>
    have same : argument.stripped.isLifetime = argument.isLifetime := by cases argument <;> rfl
    simp only [GenericArgument.strippedAll, GenericArgument.codes, same,
      GenericArgument.code_stripped argument, GenericArgument.codes_strippedAll rest,
      List.map_cons]

end

/-! ## Items -/

lemma map_code_stripped {α : Type} {code : α → List Code} {stripped : α → α}
    (each : ∀ a, code (stripped a) = Code.strippedAll (code a)) (as : List α) :
    (as.map stripped).map code = (as.map code).map Code.strippedAll := by
  rw [List.map_map, List.map_map]
  exact List.map_congr_left fun a _ => each a

lemma Field.code_stripped (field : Field) :
    field.stripped.code = Code.strippedAll field.code := by
  obtain ⟨attributes, visibility, name, ty⟩ := field
  simp only [stripped, code, Code.strippedAll, Code.stripped, Code.strippedAll_append,
    TypeExpr.code_stripped]
  cases name <;> rfl

lemma Fields.code_stripped (fields : Fields) :
    fields.stripped.code = Code.strippedAll fields.code := by
  cases fields with
  | named fields trailing | positional fields trailing =>
    simp only [stripped, code, Code.strippedAll_bracketed, map_code_stripped Field.code_stripped]
  | unit => rfl

lemma StructItem.bare_stripped (item : StructItem) :
    item.stripped.bare = Code.strippedAll item.bare := by
  obtain ⟨attributes, visibility, name, generics, conditions, fields⟩ := item
  have body := fields.code_stripped
  cases fields with
  | named fields trailing | positional fields trailing | unit =>
    simp only [Fields.stripped] at body
    simp only [stripped, bare, Fields.stripped, body, Code.strippedAll_append,
      Code.strippedAll_ofTokens, Code.strippedAll_operator]

lemma StructItem.code_stripped (item : StructItem) :
    item.stripped.code = Code.strippedAll item.code := by
  rw [code, bare_stripped]
  rfl

lemma Variant.code_stripped (variant : Variant) :
    variant.stripped.code = Code.strippedAll variant.code := by
  simp only [stripped, code, Fields.code_stripped, Attribute.codeOf_strippedAll,
    Code.strippedAll_append]
  rfl

lemma EnumItem.code_stripped (item : EnumItem) :
    item.stripped.code = Code.strippedAll item.code := by
  simp only [stripped, code, Code.strippedAll, Code.stripped, Code.strippedAll_append,
    Code.strippedAll_ofTokens, Code.strippedAll_bracketed, map_code_stripped Variant.code_stripped]

lemma UnionItem.code_stripped (item : UnionItem) :
    item.stripped.code = Code.strippedAll item.code := by
  simp only [stripped, code, Attribute.codeOf_strippedAll, Code.strippedAll_append,
    Code.strippedAll_ofTokens, Code.strippedAll_bracketed, map_code_stripped Field.code_stripped]

lemma TraitItem.code_stripped (item : TraitItem) :
    item.stripped.code = Code.strippedAll item.code := by
  simp only [stripped, code, Attribute.codeOf_strippedAll, Code.strippedAll_append]
  rfl

lemma Parameter.code_stripped (parameter : Parameter) :
    parameter.stripped.code = Code.strippedAll parameter.code := by
  cases parameter with
  | receiver code | variadic code => rfl
  | typed attributes pattern name ty =>
    simp only [stripped, code, Code.strippedAll, Code.stripped, Code.strippedAll_append,
      Code.strippedAll_operator, TypeExpr.code_stripped]

lemma Function.resultCode_stripped (function : Function) :
    function.stripped.resultCode = Code.strippedAll function.resultCode := by
  cases result : function.result with
  | none => simp only [stripped, resultCode, result, Option.map_none, Code.strippedAll]
  | some ty =>
    simp only [stripped, resultCode, result, Option.map_some, Code.strippedAll_append,
      Code.strippedAll_operator, TypeExpr.code_stripped]

lemma Function.code_stripped (function : Function) :
    function.stripped.code = Code.strippedAll function.code := by
  rw [code, signatureCode, resultCode_stripped]
  simp only [stripped, code, signatureCode, Attribute.codeOf_strippedAll, Code.strippedAll_append,
    Code.strippedAll_bracketed, Code.strippedAll_blockOf,
    map_code_stripped Parameter.code_stripped]
  rfl

lemma ImplMember.code_stripped (member : ImplMember) :
    member.stripped.code = Code.strippedAll member.code := by
  cases member with
  | function f => exact f.code_stripped
  | other code => rfl

lemma ImplTrait.code_stripped (interface : ImplTrait) :
    interface.stripped.code = Code.strippedAll interface.code := by
  obtain ⟨negative, path⟩ := interface
  simp only [stripped, code, Code.strippedAll_append, PathExpr.code_stripped]
  cases negative <;> rfl

lemma ImplItem.code_stripped (item : ImplItem) :
    item.stripped.code = Code.strippedAll item.code := by
  obtain ⟨attributes, front, interface, self, conditions, innerAttributes, members⟩ := item
  have named : ((interface.map ImplTrait.stripped).map ImplTrait.code).getD [] =
      Code.strippedAll ((interface.map ImplTrait.code).getD []) := by
    cases interface with
    | none => rfl
    | some interface => exact interface.code_stripped
  simp only [stripped, code, named, Attribute.codeOf_strippedAll, Code.strippedAll_append,
    TypeExpr.code_stripped, Code.strippedAll, Code.stripped, Attribute.innerCodeOf_strippedAll,
    List.flatMap_def, Code.strippedAll_flatten, map_code_stripped ImplMember.code_stripped]

mutual

lemma Item.code_stripped (item : Item) : item.stripped.code = Code.strippedAll item.code := by
  cases item with
  | struct item => exact item.code_stripped
  | enum item => exact item.code_stripped
  | union item => exact item.code_stripped
  | trait item => exact item.code_stripped
  | impl item => exact item.code_stripped
  | module attributes front name innerAttributes items =>
    simp only [Item.stripped, Item.code, Attribute.codeOf_strippedAll, Code.strippedAll_append,
      Code.strippedAll, Code.stripped, Attribute.innerCodeOf_strippedAll,
      Item.codeOf_strippedAll items]
  | other code => rfl
  | generated code => exact (Code.strippedAll_ofTokens code.tokens).symm

lemma Item.codeOf_strippedAll (items : List Item) :
    Item.codeOf (Item.strippedAll items) = Code.strippedAll (Item.codeOf items) := by
  cases items with
  | nil => rfl
  | cons item rest =>
    simp only [Item.strippedAll, Item.codeOf, Item.code_stripped item,
      Item.codeOf_strippedAll rest, Code.strippedAll_append]

end

end MemberMapping
