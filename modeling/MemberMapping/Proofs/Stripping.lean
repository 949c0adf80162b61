import MemberMapping.Inventory.Survey
import MemberMapping.Proofs.Lists
import MemberMapping.Proofs.ModuleWalk

/-!
Removing helper attributes once is enough.

Whatever is stripped keeps no helper attribute at a place where stripping looks for one. So nothing
changes a second time, and whoever reads the attributes that are left learns nothing from them.
-/

namespace MemberMapping

@[simp] lemma Attribute.isHelper_stripped (a : Attribute) : a.stripped.isHelper = a.isHelper := by
  obtain ⟨path, body⟩ := a
  rfl

/-! ## Code and types -/

mutual

lemma Code.stripped_stripped (code : Code) : code.stripped.stripped = code.stripped := by
  cases code with
  | token t => rfl
  | group delimiter inner => simp only [Code.stripped, Code.strippedAll_strippedAll inner]
  | marked attributes rest =>
    simp only [Code.stripped, Attribute.kept_kept attributes, Code.strippedAll_strippedAll rest]

lemma Code.strippedAll_strippedAll (codes : List Code) :
    Code.strippedAll (Code.strippedAll codes) = Code.strippedAll codes := by
  cases codes with
  | nil => rfl
  | cons code rest =>
    simp only [Code.strippedAll, Code.stripped_stripped code, Code.strippedAll_strippedAll rest]

lemma AttributeBody.stripped_stripped (body : AttributeBody) :
    body.stripped.stripped = body.stripped := by
  cases body with
  | empty | arguments delimiter inner => rfl
  | value written => simp only [AttributeBody.stripped, Code.strippedAll_strippedAll written]

lemma Attribute.stripped_stripped (a : Attribute) : a.stripped.stripped = a.stripped := by
  obtain ⟨path, body⟩ := a
  simp only [Attribute.stripped, AttributeBody.stripped_stripped body]

lemma Attribute.kept_kept (attributes : List Attribute) :
    Attribute.kept (Attribute.kept attributes) = Attribute.kept attributes := by
  cases attributes with
  | nil => rfl
  | cons a rest =>
    rw [Attribute.kept]
    split
    · exact Attribute.kept_kept rest
    · next other =>
      rw [Attribute.kept, Attribute.isHelper_stripped, if_neg other, Attribute.stripped_stripped a,
        Attribute.kept_kept rest]

end

lemma Attribute.strippedAll_strippedAll (attributes : List Attribute) :
    strippedAll (strippedAll attributes) = strippedAll attributes :=
  map_map_of_idempotent stripped_stripped attributes

mutual

lemma TypeExpr.stripped_stripped (ty : TypeExpr) : ty.stripped.stripped = ty.stripped := by
  cases ty with
  | reference front target => simp only [TypeExpr.stripped, TypeExpr.stripped_stripped target]
  | paren inner => simp only [TypeExpr.stripped, TypeExpr.stripped_stripped inner]
  | traitObject keyword bounds trailing =>
    simp only [TypeExpr.stripped, Bound.strippedAll_strippedAll bounds]
  | path path => simp only [TypeExpr.stripped, PathExpr.stripped_stripped path]
  | other code => simp only [TypeExpr.stripped, Code.strippedAll_strippedAll]

lemma Bound.stripped_stripped (bound : Bound) : bound.stripped.stripped = bound.stripped := by
  cases bound with
  | lifetime name => rfl
  | implements front path inParens =>
    simp only [Bound.stripped, Code.strippedAll_strippedAll, PathExpr.stripped_stripped path]
  | other code => simp only [Bound.stripped, Code.strippedAll_strippedAll]

lemma Bound.strippedAll_strippedAll (bounds : List Bound) :
    Bound.strippedAll (Bound.strippedAll bounds) = Bound.strippedAll bounds := by
  cases bounds with
  | nil => rfl
  | cons bound rest =>
    simp only [Bound.strippedAll, Bound.stripped_stripped bound, Bound.strippedAll_strippedAll rest]

lemma PathExpr.stripped_stripped (path : PathExpr) : path.stripped.stripped = path.stripped := by
  obtain ⟨rooted, segments⟩ := path
  simp only [PathExpr.stripped, Segment.strippedAll_strippedAll segments]

lemma Segment.stripped_stripped (segment : Segment) :
    segment.stripped.stripped = segment.stripped := by
  cases segment with
  | plain name => rfl
  | generic name turbofish arguments trailing =>
    simp only [Segment.stripped, GenericArgument.strippedAll_strippedAll arguments]
  | callable name code => simp only [Segment.stripped, Code.strippedAll_strippedAll]

lemma Segment.strippedAll_strippedAll (segments : List Segment) :
    Segment.strippedAll (Segment.strippedAll segments) = Segment.strippedAll segments := by
  cases segments with
  | nil => rfl
  | cons segment rest =>
    simp only [Segment.strippedAll, Segment.stripped_stripped segment,
      Segment.strippedAll_strippedAll rest]

lemma GenericArgument.stripped_stripped (argument : GenericArgument) :
    argument.stripped.stripped = argument.stripped := by
  cases argument with
  | lifetime name => rfl
  | type argument => simp only [GenericArgument.stripped, TypeExpr.stripped_stripped argument]
  | other code => simp only [GenericArgument.stripped, Code.strippedAll_strippedAll]

lemma GenericArgument.strippedAll_strippedAll (arguments : List GenericArgument) :
    GenericArgument.strippedAll (GenericArgument.strippedAll arguments) =
      GenericArgument.strippedAll arguments := by
  cases arguments with
  | nil => rfl
  | cons argument rest =>
    simp only [GenericArgument.strippedAll, GenericArgument.stripped_stripped argument,
      GenericArgument.strippedAll_strippedAll rest]

end

/-! ## Items -/

lemma Field.stripped_stripped (field : Field) : field.stripped.stripped = field.stripped := by
  simp only [stripped, Attribute.kept_kept, Code.strippedAll_strippedAll,
    TypeExpr.stripped_stripped]

lemma Fields.stripped_stripped (fields : Fields) : fields.stripped.stripped = fields.stripped := by
  cases fields with
  | named fields trailing =>
    simp only [stripped, map_map_of_idempotent Field.stripped_stripped]
  | positional fields trailing =>
    simp only [stripped, map_map_of_idempotent Field.stripped_stripped]
  | unit => rfl

lemma StructItem.stripped_stripped (item : StructItem) :
    item.stripped.stripped = item.stripped := by
  simp only [stripped, Attribute.kept_kept, Code.strippedAll_strippedAll, Fields.stripped_stripped]

lemma Variant.stripped_stripped (variant : Variant) :
    variant.stripped.stripped = variant.stripped := by
  simp only [stripped, Attribute.strippedAll_strippedAll, Code.strippedAll_strippedAll,
    Fields.stripped_stripped]

lemma EnumItem.stripped_stripped (item : EnumItem) : item.stripped.stripped = item.stripped := by
  simp only [stripped, Attribute.kept_kept, Code.strippedAll_strippedAll,
    map_map_of_idempotent Variant.stripped_stripped]

lemma UnionItem.stripped_stripped (item : UnionItem) : item.stripped.stripped = item.stripped := by
  simp only [stripped, Attribute.strippedAll_strippedAll, Code.strippedAll_strippedAll,
    map_map_of_idempotent Field.stripped_stripped]

lemma TraitItem.stripped_stripped (item : TraitItem) : item.stripped.stripped = item.stripped := by
  simp only [stripped, Attribute.strippedAll_strippedAll, Code.strippedAll_strippedAll]

lemma Parameter.stripped_stripped (parameter : Parameter) :
    parameter.stripped.stripped = parameter.stripped := by
  cases parameter with
  | receiver code => simp only [stripped, Code.strippedAll_strippedAll]
  | typed attributes pattern name ty =>
    simp only [stripped, Attribute.kept_kept, Code.strippedAll_strippedAll,
      TypeExpr.stripped_stripped]
  | variadic code => simp only [stripped, Code.strippedAll_strippedAll]

lemma Function.stripped_stripped (function : Function) :
    function.stripped.stripped = function.stripped := by
  simp only [stripped, Attribute.strippedAll_strippedAll, Code.strippedAll_strippedAll,
    map_map_of_idempotent Parameter.stripped_stripped, Option.map_map, Function.comp_def,
    TypeExpr.stripped_stripped]

lemma ImplMember.stripped_stripped (member : ImplMember) :
    member.stripped.stripped = member.stripped := by
  cases member with
  | function f => simp only [stripped, Function.stripped_stripped]
  | other code => simp only [stripped, Code.strippedAll_strippedAll]

lemma ImplTrait.stripped_stripped (interface : ImplTrait) :
    interface.stripped.stripped = interface.stripped := by
  simp only [stripped, PathExpr.stripped_stripped]

lemma ImplItem.stripped_stripped (item : ImplItem) : item.stripped.stripped = item.stripped := by
  simp only [stripped, Attribute.strippedAll_strippedAll, Code.strippedAll_strippedAll,
    TypeExpr.stripped_stripped, map_map_of_idempotent ImplMember.stripped_stripped,
    Option.map_map, Function.comp_def, ImplTrait.stripped_stripped]

mutual

lemma Item.stripped_stripped (item : Item) : item.stripped.stripped = item.stripped := by
  cases item with
  | struct item => simp only [stripped, StructItem.stripped_stripped]
  | enum item => simp only [stripped, EnumItem.stripped_stripped]
  | union item => simp only [stripped, UnionItem.stripped_stripped]
  | trait item => simp only [stripped, TraitItem.stripped_stripped]
  | impl item => simp only [stripped, ImplItem.stripped_stripped]
  | module attributes front name innerAttributes items =>
    simp only [stripped, Attribute.strippedAll_strippedAll, Code.strippedAll_strippedAll,
      Item.strippedAll_strippedAll items]
  | other code => simp only [stripped, Code.strippedAll_strippedAll]
  | generated code => rfl

lemma Item.strippedAll_strippedAll (items : List Item) :
    strippedAll (strippedAll items) = strippedAll items := by
  cases items with
  | nil => rfl
  | cons item rest =>
    simp only [strippedAll, Item.stripped_stripped item, Item.strippedAll_strippedAll rest]

end

/-! ## What is left to read -/

namespace Attribute

lemma isName_of_not_helper {a : Attribute} (other : a.isHelper = false) (name : String)
    (helper : name ∈ helperNames) : a.path.isName name = false := by
  have unnamed := List.any_eq_false.mp other name helper
  simpa using unnamed

lemma not_helper_of_mem_kept {attributes : List Attribute} {a : Attribute}
    (left : a ∈ kept attributes) : a.isHelper = false := by
  induction attributes with
  | nil => cases left
  | cons b rest ih =>
    rw [kept] at left
    split at left
    · exact ih left
    · next other =>
      rcases List.mem_cons.mp left with rfl | later
      · rwa [isHelper_stripped, ← Bool.not_eq_true]
      · exact ih later

end Attribute

lemma Marked.step_of_ignored {α : Type} {add : α → Attribute → Except AttributeFault α}
    {m : Marked α} {a : Attribute} (ignored : add m.marks a = .ok m.marks) : step add m a = m := by
  rw [step, ignored, take]

/-- Attributes that add nothing are read without a fault, and leave what is known as it is. -/
lemma Marked.ofAttributes_of_ignored {α : Type} {add : α → Attribute → Except AttributeFault α}
    {attributes : List Attribute} (ignored : ∀ a ∈ attributes, ∀ marks, add marks a = .ok marks)
    (start : α) : Marked.ofAttributes add start attributes = .ok start := by
  have same : attributes.foldl (step add) ⟨start, []⟩ = ⟨start, []⟩ := by
    induction attributes with
    | nil => rfl
    | cons a rest ih =>
      rw [List.foldl_cons, step_of_ignored (ignored a List.mem_cons_self start)]
      exact ih fun b later => ignored b (List.mem_cons_of_mem a later)
  rw [ofAttributes, same]
  rfl

lemma TypeMarks.add_of_not_helper (marks : TypeMarks) {a : Attribute}
    (other : a.isHelper = false) : marks.add a = .ok marks := by
  have source := Attribute.isName_of_not_helper other "map_from" (by decide)
  have update := Attribute.isName_of_not_helper other "use_update" (by decide)
  have json := Attribute.isName_of_not_helper other "json_extension" (by decide)
  simp only [add, source, update, json, Bool.false_eq_true, if_false]

lemma MemberMarks.add_of_not_helper (marks : MemberMarks) {a : Attribute}
    (other : a.isHelper = false) : marks.add a = .ok marks := by
  have rename := Attribute.isName_of_not_helper other "map_property" (by decide)
  have converter := Attribute.isName_of_not_helper other "converter" (by decide)
  have ignored := Attribute.isName_of_not_helper other "ignore_member" (by decide)
  have readOnly := Attribute.isName_of_not_helper other "read_only" (by decide)
  have base := Attribute.isName_of_not_helper other "map_base" (by decide)
  simp only [add, rename, converter, ignored, readOnly, base, Bool.false_eq_true, if_false]

lemma TypeMarks.ofAttributes_kept (attributes : List Attribute) :
    TypeMarks.ofAttributes (Attribute.kept attributes) = .ok {} := by
  refine Marked.ofAttributes_of_ignored ?_ _
  intro a left marks
  exact marks.add_of_not_helper (Attribute.not_helper_of_mem_kept left)

lemma MemberMarks.ofAttributes_kept (attributes : List Attribute) :
    MemberMarks.ofAttributes (Attribute.kept attributes) = .ok {} := by
  refine Marked.ofAttributes_of_ignored ?_ _
  intro a left marks
  exact marks.add_of_not_helper (Attribute.not_helper_of_mem_kept left)

/-! ## The items of stripped modules -/

/-- The items without helper attributes. -/
def ScopedItems.stripped : ScopedItems → ScopedItems :=
  ScopedItems.map StructItem.stripped EnumItem.stripped TraitItem.stripped ImplItem.stripped

mutual

lemma Item.scoped_stripped (current : Namespace) (item : Item) :
    item.stripped.scoped current = (item.scoped current).stripped := by
  cases item with
  | module attributes front name innerAttributes items =>
    exact Item.scopedIn_strippedAll (current.join name) items
  | struct item | enum item | union item | trait item | impl item | other code | generated code =>
    rfl

lemma Item.scopedIn_strippedAll (current : Namespace) (items : List Item) :
    Item.scopedIn current (strippedAll items) = (Item.scopedIn current items).stripped := by
  cases items with
  | nil => rfl
  | cons item rest =>
    rw [strippedAll, Item.scopedIn, Item.scoped_stripped current item,
      Item.scopedIn_strippedAll current rest, Item.scopedIn, ScopedItems.stripped,
      ScopedItems.map_append]

end

end MemberMapping
