import MemberMapping.Proofs.Placement
import MemberMapping.Proofs.SeenDeclarations

/-!
Names that are written raw.

Resolution, and whether code can be printed, depend only on what is seen of the declarations. So a
spelling that marks declared names as raw is not seen in the outcome, as long as nothing else is
spelled anew that is read as it is written. A name by which a type, an argument or a result refers
to a declaration is read with its mark, and then refers to nothing.
-/

namespace MemberMapping

/-! ## Printing -/

lemma FieldName.isPrintable_seen (field : FieldName) :
    field.seen.isPrintable = field.isPrintable := by
  cases field with
  | position index => rfl
  | named name => rw [seen, isPrintable, isPrintableName, Token.plainName_rawName]; rfl

def Part.seen (part : Part) : Part :=
  { part with field := Token.rawName part.field }

lemma Part.upTo_seen (typeName : String) (parts : List Part) :
    upTo typeName (parts.map seen) = (upTo typeName parts).map seen := by
  induction parts with
  | nil => rfl
  | cons part rest ih =>
    have named : part.seen.typeName = part.typeName := rfl
    rw [List.map_cons, upTo, upTo, named, ih]
    split <;> rfl

namespace Inventory

lemma get?_seen (inv : Inventory) (key : String) :
    inv.seen.decls.get? key = (inv.decls.get? key).map Decl.seen :=
  Table.get?_map inv.decls (fun _ => Decl.seen) key

lemma partsWithin_seen (inv : Inventory) (limit : Nat) (decl : Decl) :
    inv.seen.partsWithin limit decl.seen = (inv.partsWithin limit decl).map Part.seen := by
  induction limit generalizing decl with
  | zero => rfl
  | succ limit ih =>
    have part : decl.seen.base = decl.base.map (·.seen) := rfl
    rw [partsWithin, partsWithin, part]
    cases decl.base with
    | none => rfl
    | some base =>
      have path : base.seen.path = base.path := rfl
      simp only [Option.map_some, path, get?_seen]
      cases inv.decls.get? base.path.definitionName with
      | none => rfl
      | some next =>
        simp only [Option.map_some, ih, List.map_cons]
        rfl

lemma parts_seen (inv : Inventory) (decl : Decl) :
    inv.seen.parts decl.seen = (inv.parts decl).map Part.seen := by
  have count : inv.seen.decls.length = inv.decls.length := List.length_map _
  rw [parts, parts, count, partsWithin_seen]

end Inventory

namespace Emission

/-- What is seen of a plan together with its declarations. -/
def seen (e : Emission) : Emission :=
  ⟨e.inventory.seen, e.model, e.target.seen, e.source.seen⟩

variable (e : Emission)

lemma partsTo_seen (name : String) : e.seen.partsTo name = (e.partsTo name).map Part.seen := by
  have declared : e.seen.declaringType name = e.declaringType name := rfl
  have source : e.seen.model = e.model := rfl
  have parts : e.seen.inventory.parts e.seen.source = (e.inventory.parts e.source).map Part.seen :=
    e.inventory.parts_seen e.source
  rw [partsTo, partsTo]
  simp only [declared, source, parts, Part.upTo_seen]
  split <;> rfl

lemma owner_seen (name : String) : e.seen.owner name = (e.owner name).seen := by
  rw [owner, owner, partsTo_seen, List.getLast?_map]
  cases (e.partsTo name).getLast? with
  | none => rfl
  | some part =>
    have found : e.seen.inventory.decls.get? part.seen.typeName =
        (e.inventory.decls.get? part.typeName).map Decl.seen :=
      e.inventory.get?_seen part.typeName
    simp only [Option.map_some, Option.bind_some, found]
    cases e.inventory.decls.get? part.typeName <;> rfl

/-- Whether a place can be printed does not depend on how its fields are spelled. -/
lemma sourcePlace_isPrintable (name : String) :
    (e.seen.sourcePlace name).fields.all (·.isPrintable) =
      (e.sourcePlace name).fields.all (·.isPrintable) := by
  have parts : (Part.fields (e.seen.partsTo name)).all (·.isPrintable) =
      (Part.fields (e.partsTo name)).all (·.isPrintable) := by
    rw [partsTo_seen, Part.fields, Part.fields, List.map_map, List.all_map, List.all_map]
    exact congrArg (List.all (e.partsTo name))
      (funext fun part => FieldName.isPrintable_seen (.named part.field))
  have member : (e.seen.owner name).members.get? name =
      ((e.owner name).members.get? name).map MemberDecl.seen := by
    rw [owner_seen]
    exact Table.get?_map (e.owner name).members (fun _ => MemberDecl.seen) name
  rw [sourcePlace, sourcePlace]
  simp only [List.all_append, parts, member]
  cases (e.owner name).members.get? name with
  | none => rfl
  | some written =>
    simp only [Option.map_some, List.all_cons, MemberDecl.seen, FieldName.isPrintable_seen]

lemma directValue_isPrintable (place : FieldPath) (source target : Ty) :
    (directValue place source target).isPrintable = place.fields.all (·.isPrintable) := by
  cases source with
  | dyn interface => rfl
  | primitive scalar | path path =>
    cases target with
    | dyn interface => rfl
    | primitive scalar | path path =>
      simp only [directValue]
      split <;> rfl

lemma mappedValue_isPrintable (m : MappedMember) :
    (e.seen.mappedValue m).isPrintable = (e.mappedValue m).isPrintable := by
  have place := e.sourcePlace_isPrintable m.sourceName
  rw [mappedValue, mappedValue]
  cases m.conversion with
  | direct => simp only [directValue_isPrintable, place]
  | converter converter parameters => simp only [MemberValue.isPrintable, place]
  | nested source => exact place
  | enumerable sourceElement element => exact place

lemma memberValue_isPrintable (name : String) (decl : MemberDecl) :
    (e.seen.memberValue name decl.seen).isPrintable = (e.memberValue name decl).isPrintable := by
  have model : e.seen.model = e.model := rfl
  rw [memberValue, memberValue, model]
  cases e.model.sourceMembers.find? (·.name == name) with
  | some mapped => exact e.mappedValue_isPrintable mapped
  | none =>
    simp only
    split <;> rfl

lemma construction_isPrintable :
    e.seen.construction.values.all (·.isPrintable) =
      e.construction.values.all (·.isPrintable) := by
  have members : e.seen.target.members = e.target.members.map fun entry =>
    (entry.1, entry.2.seen) := rfl
  have shape : e.seen.target.shape = e.target.shape := rfl
  have values : (fun entry : String × MemberDecl =>
        (e.seen.memberValue entry.1 entry.2.seen).isPrintable) =
      fun entry => (e.memberValue entry.1 entry.2).isPrintable :=
    funext fun entry => e.memberValue_isPrintable entry.1 entry.2
  rw [construction, construction, members, shape]
  cases e.target.shape with
  | named | tuple =>
    simp only [Construction.values, List.all_map]
    exact congrArg (List.all e.target.members) values
  | unit | enumeration | interface => rfl

lemma assignments_isPrintable (entries : List MappedMember) :
    (entries.filterMap e.seen.assignment?).all (·.2.isPrintable) =
      (entries.filterMap e.assignment?).all (·.2.isPrintable) := by
  induction entries with
  | nil => rw [List.filterMap_nil, List.filterMap_nil]
  | cons entry rest ih =>
    have written : e.seen.target.members.get? entry.name =
        (e.target.members.get? entry.name).map MemberDecl.seen :=
      Table.get?_map e.target.members (fun _ => MemberDecl.seen) entry.name
    rw [List.filterMap_cons, List.filterMap_cons, assignment?, assignment?, written]
    cases e.target.members.get? entry.name with
    | none => exact ih
    | some decl =>
      simp only [Option.map_some, List.all_cons, e.mappedValue_isPrintable, ih]

lemma update?_isPrintable :
    e.seen.update?.isSome = e.update?.isSome ∧
      ((e.seen.update?.map (·.assignments.map (·.2))).getD []).all (·.isPrintable) =
        ((e.update?.map (·.assignments.map (·.2))).getD []).all (·.isPrintable) := by
  have shape : e.seen.target.shape = e.target.shape := rfl
  have model : e.seen.model = e.model := rfl
  rw [update?, update?, shape, model]
  split
  · rw [Option.isSome_some, Option.isSome_some]
    refine ⟨rfl, ?_⟩
    simp only [Option.map_some, Option.getD_some, List.all_map]
    exact e.assignments_isPrintable e.model.writableMembers
  · exact ⟨rfl, rfl⟩

/-- Whether code can be printed does not depend on how the declared names are spelled. -/
lemma code_isPrintable : e.seen.code.isPrintable = e.code.isPrintable := by
  obtain ⟨written, assignments⟩ := e.update?_isPrintable
  have names : e.seen.code.names = e.code.names := by
    have update : e.seen.code.update.isSome = e.code.update.isSome := written
    rw [MappingCode.names, MappingCode.names, update]
    rfl
  have values : e.seen.code.values.all (·.isPrintable) = e.code.values.all (·.isPrintable) := by
    rw [MappingCode.values, MappingCode.values, List.all_append, List.all_append]
    exact congr (congrArg and e.construction_isPrintable) assignments
  rw [MappingCode.isPrintable, MappingCode.isPrintable, names, values]

end Emission

namespace Inventory

lemma emission?_seen (inv : Inventory) (model : MappingModel) :
    inv.seen.emission? model = (inv.emission? model).map Emission.seen := by
  rw [emission?, emission?, get?_seen, get?_seen]
  cases inv.decls.get? (TypePath.plain model.scope model.typeName).definitionName with
  | none => rfl
  | some target => cases inv.decls.get? model.sourceFullName <;> rfl

/-- Whether all code can be printed does not depend on how the declared names are spelled. -/
lemma codeOf_isPrintable (inv : Inventory) (models : List MappingModel) :
    (inv.seen.codeOf models).all (·.2.isPrintable) =
      (inv.codeOf models).all (·.2.isPrintable) := by
  rw [codeOf, codeOf]
  induction models with
  | nil => rfl
  | cons model rest ih =>
    rw [List.filterMap_cons, List.filterMap_cons, emission?_seen]
    cases inv.emission? model with
    | none => exact ih
    | some e => simp only [Option.map_some, List.all_cons, e.code_isPrintable, ih]

/-- What is resolved in the declarations of a program, if the code for it can be printed. -/
def outcome (inv : Inventory) (options : Options) : Except ExpansionFault Generation :=
  if (inv.codeOf (generate inv.schema options).models).all (·.2.isPrintable) then
    .ok (generate inv.schema options)
  else .error .unprintable

lemma outcome_seen (inv : Inventory) (options : Options) :
    inv.seen.outcome options = inv.outcome options := by
  have schema : inv.seen.schema = inv.schema := rfl
  rw [outcome, outcome, schema, codeOf_isPrintable]

end Inventory

/-! ## The outcome -/

/-- What is resolved in a file, or why it cannot be expanded. -/
def SourceFile.outcome (file : SourceFile) (options : Options) :
    Except ExpansionFault Generation :=
  (file.expand options).map (·.generation)

/-- The outcome depends on the declarations alone. -/
lemma SourceFile.outcome_eq (file : SourceFile) (options : Options) :
    file.outcome options = match Inventory.ofItems ⟨"crate"⟩ file.items with
      | .ok inv => inv.outcome options
      | .error faults => .error (.declarations faults) := by
  rw [outcome, expand, expandItems]
  cases Inventory.ofItems ⟨"crate"⟩ file.items with
  | error faults => rfl
  | ok inv =>
    simp only [Except.mapError, bind, Except.bind, Inventory.outcome]
    by_cases printable :
        (inv.codeOf (generate inv.schema options).models).all (·.2.isPrintable) = true
    · simp only [if_pos printable]
      rfl
    · simp only [if_neg printable]
      rfl

lemma SourceFile.outcome_eq_of_reduced {file file' : SourceFile}
    (same : Item.reducedAll file.items = Item.reducedAll file'.items) (options : Options) :
    file.outcome options = file'.outcome options := by
  have alike : (Inventory.ofItems ⟨"crate"⟩ file.items).map Inventory.seen =
      (Inventory.ofItems ⟨"crate"⟩ file'.items).map Inventory.seen := by
    rw [← Inventory.ofItems_seen _ file.items, ← Inventory.ofItems_seen _ file'.items, same]
  rw [outcome_eq, outcome_eq]
  cases first : Inventory.ofItems ⟨"crate"⟩ file.items with
  | error faults =>
    cases second : Inventory.ofItems ⟨"crate"⟩ file'.items with
    | error faults' =>
      rw [first, second] at alike
      cases alike
      rfl
    | ok inv' => rw [first, second] at alike; cases alike
  | ok inv =>
    cases second : Inventory.ofItems ⟨"crate"⟩ file'.items with
    | error faults' => rw [first, second] at alike; cases alike
    | ok inv' =>
      rw [first, second] at alike
      have seen : inv.seen = inv'.seen := Except.ok.inj alike
      simp only
      rw [← Inventory.outcome_seen, seen, Inventory.outcome_seen]

/-- A struct with one field is left as it is but for its name and that of the field, if the type of
the field and the path of what the struct is mapped from are. -/
lemma StructItem.mapped_kept {spell : String → String} {source : List Token}
    {name field type : String} (marker : spell "map_from" = "map_from")
    (path : Token.respelledAll spell source = source) (ty : spell type = type) :
    StructItem.Kept spell (.mapped source name [.marked [] field type]) := by
  constructor
  · cases source with
    | nil => rfl
    | cons token rest =>
      have same : Attribute.respelled spell ⟨⟨false, ["map_from"]⟩,
          .arguments .paren (token :: rest)⟩ =
          ⟨⟨false, ["map_from"]⟩, .arguments .paren (token :: rest)⟩ := by
        simp only [Attribute.respelled, AttributeBody.respelled, List.map_cons, List.map_nil,
          marker, path]
      exact congrArg (fun a => Attribute.helpers [a]) same
  · intro written listed
    rw [List.mem_singleton.mp listed]
    refine ⟨rfl, ?_⟩
    simp only [Field.marked, TypeExpr.respelled, PathExpr.respelled, Segment.respelledAll,
      Segment.respelled, ty]

/-- A spelling that adds or removes marks of raw names does not change the outcome, as long as it
leaves what is read as it is written: names of modules, helper attributes, types, and what bodies
of functions end in. Names of declared types, fields and parameters can be spelled either way. -/
theorem outcome_respelled {spell : String → String} (marks : Token.OnlyMarks spell)
    {file : SourceFile} (kept : Item.AllKept spell file.items) (options : Options) :
    (file.respelled spell).outcome options = file.outcome options :=
  SourceFile.outcome_eq_of_reduced (Item.reducedAll_respelledAll marks kept) options

/-- The field of the shop can be spelled raw everywhere. -/
theorem shop_outcome_marked :
    Token.OnlyMarks (Token.marking "id") ∧ Item.AllKept (Token.marking "id") shop.items ∧
      (shop.outcome {}).toOption.map (·.models.map (·.fullName)) =
        some ["crate::views::Row", "crate::Card", "crate::views::Cell"] ∧
      (shop.respelled (Token.marking "id")).outcome {} = shop.outcome {} := by
  have marks : Token.OnlyMarks (Token.marking "id") := Token.marking_onlyMarks (by decide +kernel)
  have struct : ∀ (source : List Token) (name : String),
      Token.respelledAll (Token.marking "id") source = source →
        StructItem.Kept (Token.marking "id") (.mapped source name [.marked [] "id" "i32"]) :=
    fun source name same => StructItem.mapped_kept rfl same (by rfl)
  have kept : Item.AllKept (Token.marking "id") shop.items :=
    ⟨struct _ _ rfl, ⟨by rfl, ⟨by rfl, trivial⟩, struct _ _ (by rfl), trivial⟩, struct _ _ (by rfl),
      ⟨by rfl, struct _ _ (by rfl), trivial⟩, trivial⟩
  exact ⟨marks, kept, by decide +kernel, outcome_respelled marks kept {}⟩

def display : SourceFile where
  innerAttributes := []
  items :=
    [.struct (.mapped [] "Thing" [.marked [] "id" "i32"]),
      .struct (.mapped [.ident "Thing"] "Card" [.marked [] "id" "i32"])]

/-- A card shows a thing, but not once the name of the thing is spelled raw everywhere. -/
theorem marked_thing_not_found :
    Token.isName "Thing" = true ∧ Item.Declares display.items [] "Thing" ∧
      (display.outcome {}).toOption.map (fun g => (g.models.length, g.diagnostics.length)) =
        some (1, 0) ∧
      ((display.respelled (Token.marking "Thing")).outcome {}).toOption.map
        (fun g => (g.models.length, g.diagnostics.length)) = some (0, 1) := by
  refine ⟨by decide +kernel, ?_, by decide +kernel, by decide +kernel⟩
  exact .here List.mem_cons_self (by decide +kernel)

end MemberMapping
