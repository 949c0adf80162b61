import MemberMapping.Proofs.StrippedCode

/-!
What stripping takes away from the tokens of a program.

The tokens are listed with the brackets taken apart, and each with the attributes that it stands
in: those of structs, enums, fields and parameters with a type. Stripping keeps a token exactly if
none of these attributes is a helper. As the statements of a block are tokens throughout, they stay
or go with the block.
-/

namespace MemberMapping

/-! ## Pieces of code -/

/-- A token that is no group, or a bracket of one. -/
inductive Piece where
  | plain (token : Token)
  | opening (delimiter : Delimiter)
  | closing (delimiter : Delimiter)
deriving Repr

mutual

def Token.pieces : Token → List Piece
  | .group delimiter inner => .opening delimiter :: (Token.piecesOf inner ++ [.closing delimiter])
  | .ident text => [.plain (.ident text)]
  | .lifetime name => [.plain (.lifetime name)]
  | .literal text => [.plain (.literal text)]
  | .mark char joint => [.plain (.mark char joint)]

def Token.piecesOf : List Token → List Piece
  | [] => []
  | token :: rest => token.pieces ++ Token.piecesOf rest

end

/-- A piece with the paths of the attributes that it stands in, outermost first. Only attributes of
structs, enums, fields and parameters with a type count. -/
structure PlacedPiece where
  piece : Piece
  around : List NamePath

namespace PlacedPiece

/-- Pieces that stand in no attribute. -/
def alone (pieces : List Piece) : List PlacedPiece :=
  pieces.map (⟨·, []⟩)

def within (path : NamePath) (placed : PlacedPiece) : PlacedPiece :=
  { placed with around := path :: placed.around }

/-- No attribute that the piece stands in is a helper. -/
def stays (placed : PlacedPiece) : Bool :=
  placed.around.all fun path => !Attribute.helperNames.any path.isName

end PlacedPiece

open PlacedPiece

mutual

/-- The pieces of a piece of code, with the attributes in it that they stand in. -/
def Code.placed : Code → List PlacedPiece
  | .token t => alone t.pieces
  | .group delimiter inner =>
    alone [.opening delimiter] ++ Code.placedOf inner ++ alone [.closing delimiter]
  | .marked attributes rest => Attribute.placedOf attributes ++ Code.placedOf rest

/-- The pieces of code, with the attributes in it that they stand in. -/
def Code.placedOf : List Code → List PlacedPiece
  | [] => []
  | code :: rest => code.placed ++ Code.placedOf rest

def AttributeBody.placed : AttributeBody → List PlacedPiece
  | .empty => []
  | .arguments delimiter inner => alone (Token.pieces (.group delimiter inner))
  | .value written => alone [.plain (.mark '=' false)] ++ Code.placedOf written

/-- The pieces of an attribute, all of which stand in it. -/
def Attribute.placed : Attribute → List PlacedPiece
  | ⟨path, body⟩ =>
    (alone
        (.plain (.mark '#' false) :: .opening .bracket :: Token.piecesOf path.tokens) ++
      body.placed ++ alone [.closing .bracket]).map (·.within path)

/-- The pieces of attributes in front of what they belong to. -/
def Attribute.placedOf : List Attribute → List PlacedPiece
  | [] => []
  | a :: rest => a.placed ++ Attribute.placedOf rest

end

/-- The pieces of items, with the attributes in them that they stand in. -/
def Item.placedOf (items : List Item) : List PlacedPiece :=
  Code.placedOf (Item.codeOf items)

/-! ## All tokens are listed -/

lemma Token.piecesOf_append (first second : List Token) :
    piecesOf (first ++ second) = piecesOf first ++ piecesOf second := by
  induction first with
  | nil => rfl
  | cons token rest ih =>
    rw [List.cons_append, piecesOf, ih, piecesOf, List.append_assoc]

namespace PlacedPiece

lemma piece_alone (pieces : List Piece) : (alone pieces).map (·.piece) = pieces := by
  rw [alone, List.map_map]
  exact List.map_id _

lemma piece_within (path : NamePath) (listed : List PlacedPiece) :
    (listed.map (·.within path)).map (·.piece) = listed.map (·.piece) := by
  rw [List.map_map]
  rfl

end PlacedPiece

mutual

lemma Code.piece_placed (code : Code) :
    code.placed.map (·.piece) = Token.piecesOf code.tokens := by
  cases code with
  | token t =>
    rw [Code.placed, piece_alone, Code.tokens, Token.piecesOf, Token.piecesOf, List.append_nil]
  | group delimiter inner =>
    rw [Code.placed, List.map_append, List.map_append, piece_alone, piece_alone,
      Code.piece_placedOf inner, Code.tokens, Token.piecesOf, Token.pieces, Token.piecesOf,
      List.append_nil]
    rfl
  | marked attributes rest =>
    rw [Code.placed, List.map_append, Attribute.piece_placedOf attributes,
      Code.piece_placedOf rest, Code.tokens, Token.piecesOf_append]

lemma Code.piece_placedOf (codes : List Code) :
    (Code.placedOf codes).map (·.piece) = Token.piecesOf (Code.tokensOf codes) := by
  cases codes with
  | nil => rfl
  | cons code rest =>
    rw [Code.placedOf, List.map_append, Code.piece_placed code, Code.piece_placedOf rest,
      Code.tokensOf, Token.piecesOf_append]

lemma AttributeBody.piece_placed (body : AttributeBody) :
    body.placed.map (·.piece) = Token.piecesOf body.tokens := by
  cases body with
  | empty => rfl
  | arguments delimiter inner =>
    rw [AttributeBody.placed, piece_alone, AttributeBody.tokens, Token.piecesOf, Token.piecesOf,
      List.append_nil]
  | value written =>
    rw [AttributeBody.placed, List.map_append, piece_alone, Code.piece_placedOf written]
    rfl

lemma Attribute.piece_placed (a : Attribute) :
    a.placed.map (·.piece) = Token.piecesOf a.tokens := by
  obtain ⟨path, body⟩ := a
  rw [Attribute.placed, piece_within, List.map_append, List.map_append, piece_alone, piece_alone,
    AttributeBody.piece_placed body, Attribute.tokens]
  simp [Token.piecesOf, Token.pieces, Token.piecesOf_append]

lemma Attribute.piece_placedOf (attributes : List Attribute) :
    (Attribute.placedOf attributes).map (·.piece) =
      Token.piecesOf (Attribute.tokensOf attributes) := by
  cases attributes with
  | nil => rfl
  | cons a rest =>
    rw [Attribute.placedOf, List.map_append, Attribute.piece_placed a,
      Attribute.piece_placedOf rest, Attribute.tokensOf, Token.piecesOf_append]

end

/-! ## Some pieces stay -/

namespace PlacedPiece

lemma filter_alone (pieces : List Piece) : (alone pieces).filter (·.stays) = alone pieces := by
  rw [List.filter_eq_self]
  intro placed listed
  obtain ⟨piece, -, rfl⟩ := List.mem_map.mp listed
  rfl

lemma filter_within_helper {path : NamePath}
    (helper : Attribute.helperNames.any path.isName = true) (listed : List PlacedPiece) :
    (listed.map (·.within path)).filter (·.stays) = [] := by
  rw [List.filter_map, List.map_eq_nil_iff, List.filter_eq_nil_iff]
  intro placed _
  simp [within, stays, helper]

lemma filter_within_other {path : NamePath}
    (other : Attribute.helperNames.any path.isName = false) (listed : List PlacedPiece) :
    (listed.map (·.within path)).filter (·.stays) =
      (listed.filter (·.stays)).map (·.within path) := by
  rw [List.filter_map]
  refine congrArg (List.map _) (List.filter_congr fun placed _ => ?_)
  simp [within, stays, other]

end PlacedPiece

lemma Attribute.placed_of_helper {a : Attribute} (helper : a.isHelper = true) :
    a.placed.filter (·.stays) = [] := by
  obtain ⟨path, body⟩ := a
  exact filter_within_helper helper _

mutual

lemma Code.placed_stripped (code : Code) :
    code.stripped.placed = code.placed.filter (·.stays) := by
  cases code with
  | token t => exact (filter_alone t.pieces).symm
  | group delimiter inner =>
    rw [Code.stripped, Code.placed, Code.placed, List.filter_append, List.filter_append,
      filter_alone, filter_alone, Code.placedOf_strippedAll inner]
  | marked attributes rest =>
    rw [Code.stripped, Code.placed, Code.placed, List.filter_append,
      Attribute.placedOf_kept attributes, Code.placedOf_strippedAll rest]

lemma Code.placedOf_strippedAll (codes : List Code) :
    Code.placedOf (Code.strippedAll codes) = (Code.placedOf codes).filter (·.stays) := by
  cases codes with
  | nil => rfl
  | cons code rest =>
    rw [Code.strippedAll, Code.placedOf, Code.placedOf, List.filter_append,
      Code.placed_stripped code, Code.placedOf_strippedAll rest]

lemma AttributeBody.placed_stripped (body : AttributeBody) :
    body.stripped.placed = body.placed.filter (·.stays) := by
  cases body with
  | empty => rfl
  | arguments delimiter inner => exact (filter_alone _).symm
  | value written =>
    rw [AttributeBody.stripped, AttributeBody.placed, AttributeBody.placed, List.filter_append,
      filter_alone, Code.placedOf_strippedAll written]

lemma Attribute.placed_stripped (a : Attribute) (other : a.isHelper = false) :
    a.stripped.placed = a.placed.filter (·.stays) := by
  obtain ⟨path, body⟩ := a
  rw [Attribute.stripped, Attribute.placed, Attribute.placed, filter_within_other other,
    List.filter_append, List.filter_append, filter_alone, filter_alone,
    AttributeBody.placed_stripped body]

lemma Attribute.placedOf_kept (attributes : List Attribute) :
    Attribute.placedOf (Attribute.kept attributes) =
      (Attribute.placedOf attributes).filter (·.stays) := by
  cases attributes with
  | nil => rfl
  | cons a rest =>
    rw [Attribute.kept, Attribute.placedOf, List.filter_append]
    cases helper : a.isHelper with
    | true =>
      rw [if_pos rfl, Attribute.placed_of_helper helper, List.nil_append,
        Attribute.placedOf_kept rest]
    | false =>
      rw [if_neg Bool.false_ne_true, Attribute.placedOf, Attribute.placed_stripped a helper,
        Attribute.placedOf_kept rest]

end

/-! ## Attributes that are read -/

def Fields.attributeLists : Fields → List (List Attribute)
  | .named fields _ => fields.map (·.attributes)
  | .positional fields _ => fields.map (·.attributes)
  | .unit => []

def Parameter.attributes? : Parameter → Option (List Attribute)
  | .typed attributes _ _ _ => some attributes
  | .receiver _ => none
  | .variadic _ => none

def ImplMember.attributeLists : ImplMember → List (List Attribute)
  | .function f => f.parameters.filterMap (·.attributes?)
  | .other _ => []

mutual

/-- The attributes of each struct, each enum, each of their fields and those of unions, and each
parameter with a type of the functions in implementations, at all depths of modules. -/
def Item.attributeLists : Item → List (List Attribute)
  | .struct item => item.attributes :: item.fields.attributeLists
  | .enum item => item.attributes :: item.variants.flatMap (·.fields.attributeLists)
  | .union item => item.fields.map (·.attributes)
  | .impl item => item.members.flatMap (·.attributeLists)
  | .module _ _ _ _ items => Item.attributeListsOf items
  | .trait _ => []
  | .other _ => []
  | .generated _ => []

@[inherit_doc Item.attributeLists]
def Item.attributeListsOf : List Item → List (List Attribute)
  | [] => []
  | item :: rest => item.attributeLists ++ Item.attributeListsOf rest

end

/-- Of attributes that are read those that are no helpers stay, each stripped in its value. -/
lemma Attribute.kept_eq (attributes : List Attribute) :
    kept attributes = (attributes.filter (!·.isHelper)).map (·.stripped) := by
  induction attributes with
  | nil => rfl
  | cons a rest ih =>
    rw [kept, List.filter_cons]
    cases a.isHelper with
    | true => exact ih
    | false => exact congrArg (a.stripped :: ·) ih

lemma Fields.attributeLists_stripped (fields : Fields) :
    fields.stripped.attributeLists = fields.attributeLists.map Attribute.kept := by
  cases fields with
  | named fields trailing | positional fields trailing =>
    rw [stripped, attributeLists, attributeLists, List.map_map, List.map_map]
    rfl
  | unit => rfl

lemma ImplMember.attributeLists_stripped (member : ImplMember) :
    member.stripped.attributeLists = member.attributeLists.map Attribute.kept := by
  cases member with
  | other code => rfl
  | function f =>
    have each : ∀ parameter : Parameter,
        parameter.stripped.attributes? = parameter.attributes?.map Attribute.kept := by
      intro parameter
      cases parameter <;> rfl
    rw [stripped, attributeLists, attributeLists, Function.stripped, List.filterMap_map,
      List.map_filterMap]
    exact List.filterMap_congr fun parameter _ => each parameter

mutual

lemma Item.attributeLists_stripped (item : Item) :
    item.stripped.attributeLists = item.attributeLists.map Attribute.kept := by
  cases item with
  | struct item => exact congrArg (_ :: ·) item.fields.attributeLists_stripped
  | enum item =>
    refine congrArg (_ :: ·) ?_
    rw [EnumItem.stripped, List.flatMap_map, List.map_flatMap]
    exact List.flatMap_congr fun variant _ => variant.fields.attributeLists_stripped
  | union item =>
    rw [Item.stripped, Item.attributeLists, Item.attributeLists, UnionItem.stripped, List.map_map,
      List.map_map]
    rfl
  | impl item =>
    rw [Item.stripped, Item.attributeLists, Item.attributeLists, ImplItem.stripped,
      List.flatMap_map, List.map_flatMap]
    exact List.flatMap_congr fun member _ => member.attributeLists_stripped
  | module attributes front name innerAttributes items =>
    exact Item.attributeListsOf_strippedAll items
  | trait item | other code | generated code => rfl

lemma Item.attributeListsOf_strippedAll (items : List Item) :
    Item.attributeListsOf (Item.strippedAll items) =
      (Item.attributeListsOf items).map Attribute.kept := by
  cases items with
  | nil => rfl
  | cons item rest =>
    rw [Item.strippedAll, Item.attributeListsOf, Item.attributeListsOf, List.map_append,
      Item.attributeLists_stripped item, Item.attributeListsOf_strippedAll rest]

end

/-- Stripping removes exactly the helper attributes of structs, enums, fields and parameters with a
type. Of all tokens of the items it keeps, in order, those that stand in none of these; in each list
of attributes that is read it keeps the others; a block keeps its attributes and all its tokens. A
second time nothing changes. -/
theorem stripping_removes_helpers (items : List Item) :
    Item.placedOf (Item.strippedAll items) = (Item.placedOf items).filter (·.stays) ∧
      (Item.placedOf items).map (·.piece) = Token.piecesOf (Code.tokensOf (Item.codeOf items)) ∧
      Item.attributeListsOf (Item.strippedAll items) = (Item.attributeListsOf items).map
        (fun attributes => (attributes.filter (!·.isHelper)).map (·.stripped)) ∧
      (∀ attributes tokens, Code.strippedAll (blockOf attributes tokens) =
        blockOf (Attribute.strippedAll attributes) tokens) ∧
      Item.strippedAll (Item.strippedAll items) = Item.strippedAll items := by
  refine ⟨?_, Code.piece_placedOf _, ?_, Code.strippedAll_blockOf,
    Item.strippedAll_strippedAll items⟩
  · rw [Item.placedOf, Item.codeOf_strippedAll, Code.placedOf_strippedAll, Item.placedOf]
  · rw [Item.attributeListsOf_strippedAll]
    exact List.map_congr_left fun attributes _ => Attribute.kept_eq attributes

/-- A variant keeps an attribute that its enum, its field and a closure in its value lose. What is
in the block of the closure stays. -/
example :
    let hidden : Attribute := ⟨⟨false, ["map_base"]⟩, .empty⟩
    let level : Item := .enum
      { attributes := [hidden], visibility := [], name := "Level", generics := [], conditions := []
        variants :=
          [{ attributes := [hidden], name := "Low"
             fields := .positional [⟨[hidden], [], none, .path (.ofName "u8")⟩] false
             discriminant := Code.operator "=" ++ Code.operator "|" ++
               [.marked [hidden] (Code.ofTokens [.ident "a", .mark ':' false, .ident "u8"])] ++
               Code.operator "|" ++ blockOf [] (hidden.tokens ++ [.ident "a"]) }]
        trailing := false }
    Token.textOf (Code.tokensOf level.stripped.code) =
      "enum Level \x7b # [map_base] Low (u8) = | a : u8 | \x7b # [map_base] a \x7d \x7d" := by
  decide +kernel

end MemberMapping
