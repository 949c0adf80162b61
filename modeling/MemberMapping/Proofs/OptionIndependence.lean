import MemberMapping.Proofs.Placement

/-!
Options do not take part in what is mapped.

Two expansions of one file under different options go the same way: both are refused for the same
reason, or both report the same and plan the same. The code they add differs in documentation, in
visibility and in the conversion of an optional source. It is the same once these are erased.
-/

namespace MemberMapping

/-! ## The parts of generated code -/

/-- A generated function or trait: its documentation, its visibility, and the rest, which includes
the body. -/
structure GeneratedItem where
  documentation : List Token
  visibility : List Token
  rest : List Token

namespace GeneratedItem

def tokens (item : GeneratedItem) : List Token :=
  item.documentation ++ item.visibility ++ item.rest

/-- The item without documentation and visibility. -/
def erased (item : GeneratedItem) : GeneratedItem :=
  { item with documentation := [], visibility := [] }

end GeneratedItem

structure GeneratedParts where
  extensionTrait : Option GeneratedItem
  target : String
  methods : List GeneratedItem
  /-- The conversions, but for that of an optional source. -/
  conversions : List Token
  /-- The extension trait implemented for an optional reference to the source. -/
  optionalConversion : List Token

namespace GeneratedParts

def tokens (parts : GeneratedParts) : List Token :=
  (parts.extensionTrait.map (·.tokens)).getD [] ++ Printing.namesOf ["const", "_"] ++
    Printing.op ":" ++ Printing.parens [] ++ Printing.op "=" ++
    Printing.braces
      (Printing.name "use" ++ Printing.rootPath ["mapto"] ++ Printing.namesOf ["as", "_mapto"] ++
        Printing.op ";" ++ Printing.namesOf ["impl", parts.target] ++
        Printing.braces (parts.methods.flatMap (·.tokens)) ++
        (parts.conversions ++ parts.optionalConversion)) ++
    Printing.op ";"

/-- The code without what the options decide: documentation, visibility and the conversion of an
optional source. -/
def erased (parts : GeneratedParts) : GeneratedParts :=
  { parts with
    extensionTrait := parts.extensionTrait.map (·.erased)
    methods := parts.methods.map (·.erased)
    optionalConversion := [] }

end GeneratedParts

/-- Options under which code has neither documentation nor visibility, and no conversion of an
optional source. -/
def Options.bare : Options := { access := .privateAccess, nullable := false, docs := false }

namespace MappingCode

def withOptions (code : MappingCode) (options : Options) : MappingCode :=
  { code with options := options }

/-- A part of the code that is documented as `text`. -/
def documented (code : MappingCode) (text : String) (rest : List Token) : GeneratedItem :=
  ⟨Printing.doc code.options text, Printing.visibility code.options.access, rest⟩

def parts (code : MappingCode) : GeneratedParts :=
  let bare := code.withOptions .bare
  let target := Printing.inDoc code.targetName
  let source := Printing.inDoc code.sourceName
  { extensionTrait :=
      if code.converts then
        some (code.documented ("Maps a " ++ source ++ " into a " ++ target ++ ".")
          (Printing.extensionTrait bare))
      else none
    target := code.target
    methods :=
      [code.documented
        ("Creates a " ++ target ++ " from a " ++ source ++
          ", reusing values already mapped through " ++ Printing.inDoc "context" ++ ".")
        (Printing.contextConstructor bare)] ++
      (if code.secondary then
        [code.documented ("Creates a " ++ target ++ " from a " ++ source ++ ".")
          (Printing.plainConstructor bare)]
      else []) ++
      (code.update.map fun update =>
        code.documented
          ("Overwrites the writable members of this " ++ target ++ " with the values of a " ++
            source ++ ".")
          (Printing.updateMethod bare update)).toList ++
      (if code.writesJson then
        [code.documented ("Serializes this " ++ target ++ " to a JSON string.")
          (Printing.jsonMethod bare)]
      else [])
    conversions := Printing.conversions bare
    optionalConversion :=
      if code.converts && code.options.nullable then Printing.optionalTraitImpl bare else [] }

lemma parts_extensionTrait (code : MappingCode) :
    (code.parts.extensionTrait.map (·.tokens)).getD [] = Printing.extensionTrait code := by
  cases converts : code.converts with
  | false => simp [parts, Printing.extensionTrait, converts]
  | true =>
    simp only [parts, Printing.extensionTrait, converts, if_true, Option.map_some, Option.getD_some,
      GeneratedItem.tokens, documented, withOptions, List.append_assoc]
    rfl

lemma parts_methods (code : MappingCode) :
    code.parts.methods.flatMap (·.tokens) = Printing.methods code := by
  simp only [parts, Printing.methods, List.flatMap_append]
  congr 1
  · congr 1
    · congr 1
      · simp only [List.flatMap_singleton, GeneratedItem.tokens, documented,
          Printing.contextConstructor, List.append_assoc]
        rfl
      · cases code.secondary with
        | false => rfl
        | true =>
          simp only [if_true, List.flatMap_singleton, GeneratedItem.tokens, documented,
            Printing.plainConstructor, List.append_assoc]
          rfl
    · cases code.update with
      | none => rfl
      | some update =>
        simp only [Option.map_some, Option.toList_some, List.flatMap_singleton, Option.getD_some,
          GeneratedItem.tokens, documented, Printing.updateMethod, List.append_assoc]
        rfl
  · cases code.writesJson with
    | false => rfl
    | true =>
      simp only [if_true, List.flatMap_singleton, GeneratedItem.tokens, documented,
        Printing.jsonMethod, List.append_assoc]
      rfl

lemma parts_conversions (code : MappingCode) :
    code.parts.conversions ++ code.parts.optionalConversion = Printing.conversions code := by
  cases converts : code.converts with
  | false => simp [parts, Printing.conversions, withOptions, converts]
  | true =>
    simp only [parts, Printing.conversions, withOptions, converts, Options.bare, if_true,
      Bool.true_and, Bool.false_eq_true, if_false, List.append_nil]
    rfl

theorem parts_tokens (code : MappingCode) : code.parts.tokens = code.tokens := by
  rw [GeneratedParts.tokens, parts_extensionTrait, parts_methods, parts_conversions, tokens]
  rfl

/-- What is left of the code once its parts are erased does not depend on the options. -/
theorem erased_withOptions (code : MappingCode) (options : Options) :
    (code.withOptions options).parts.erased = code.parts.erased := by
  obtain ⟨_, _, _, _, _, _, _, _, secondary, update, writesJson, converts⟩ := code
  -- which parts there are is decided by these four, and what is left of each part is the same
  cases converts <;> cases secondary <;> cases update <;> cases writesJson <;> rfl

end MappingCode

/-! ## Plans -/

def MappingModel.withOptions (m : MappingModel) (options : Options) : MappingModel :=
  { m with options := options }

namespace Schema

/-- Options are noted in a plan, and take no other part in it or in what is said against it. -/
lemma assemble_withOptions (s : Schema) (a b : Options) (target : TypeDef) :
    assemble s target b = (assemble s target a).map (·.withOptions b) := by
  rw [assemble, assemble]
  cases target.mapFrom?.bind s.typeDef? with
  | none => rfl
  | some source =>
    simp only [assembleFrom_eq]
    by_cases faultless : s.complaints target source = []
    · rw [if_pos faultless, if_pos faultless]
      rfl
    · rw [if_neg faultless, if_neg faultless]
      rfl

lemma ready?_withOptions (s : Schema) (a b : Options) (target : TypeDef) :
    s.ready? b target = (s.ready? a target).map (·.withOptions b) := by
  rw [ready?, ready?, s.assemble_withOptions a b target]
  cases assemble s target a <;> rfl

lemma faultsOf_options (s : Schema) (a b : Options) (target : TypeDef) :
    s.faultsOf b target = s.faultsOf a target := by
  rw [faultsOf, faultsOf, s.assemble_withOptions a b target]
  cases assemble s target a <;> rfl

end Schema

/-- The same types are planned under all options, in the same way, and the same is said about the
others. -/
theorem generate_withOptions (s : Schema) (a b : Options) :
    generate s b = { models := (generate s a).models.map (·.withOptions b)
                     diagnostics := (generate s a).diagnostics } := by
  have plans : s.mappedTypes.filterMap (s.ready? b) =
      (s.mappedTypes.filterMap (s.ready? a)).map (·.withOptions b) := by
    rw [List.map_filterMap]
    exact List.filterMap_congr fun target _ => s.ready?_withOptions a b target
  have complaints : s.mappedTypes.flatMap (s.faultsOf b) = s.mappedTypes.flatMap (s.faultsOf a) :=
    congrArg s.mappedTypes.flatMap (funext fun target => s.faultsOf_options a b target)
  rw [generate_eq, generate_eq, plans, complaints]

/-! ## Code -/

def Pending.withOptions (pending : Pending) (options : Options) : Pending :=
  pending.map fun (scope, code) => (scope, code.withOptions options)

lemma Emission.code_withOptions (inv : Inventory) (model : MappingModel) (options : Options)
    (target source : Decl) :
    (Emission.mk inv (model.withOptions options) target source).code =
      (Emission.mk inv model target source).code.withOptions options := by
  simp only [Emission.code, MappingCode.withOptions]
  congr 1

lemma Inventory.emission?_withOptions (inv : Inventory) (model : MappingModel) (options : Options) :
    (inv.emission? (model.withOptions options)).map (·.code) =
      (inv.emission? model).map (·.code.withOptions options) := by
  have written : (TypePath.plain (model.withOptions options).scope
      (model.withOptions options).typeName).definitionName =
      (TypePath.plain model.scope model.typeName).definitionName := rfl
  rw [emission?, emission?, written]
  cases inv.decls.get? (TypePath.plain model.scope model.typeName).definitionName with
  | none => rfl
  | some target =>
    have source : (model.withOptions options).sourceFullName = model.sourceFullName := rfl
    rw [source]
    cases inv.decls.get? model.sourceFullName with
    | none => rfl
    | some source => exact congrArg some (Emission.code_withOptions inv model options target source)

lemma Inventory.codeOf_withOptions (inv : Inventory) (models : List MappingModel)
    (options : Options) :
    inv.codeOf (models.map (·.withOptions options)) =
      Pending.withOptions (inv.codeOf models) options := by
  rw [codeOf, codeOf, Pending.withOptions, List.filterMap_map, List.map_filterMap]
  apply List.filterMap_congr
  intro model _
  have emitted := congrArg (Option.map fun code => (model.scope, code))
    (inv.emission?_withOptions model options)
  simp only [Option.map_map] at emitted ⊢
  exact emitted

/-- Whether pending code can be printed does not depend on the options. -/
lemma Pending.isPrintable_withOptions (pending : Pending) (options : Options) :
    (pending.withOptions options).all (·.2.isPrintable) = pending.all (·.2.isPrintable) := by
  rw [withOptions, List.all_map]
  rfl

/-! ## Erasing -/

mutual

/-- The item with the generated code in it erased to what the options do not decide. -/
def Item.erased : Item → Item
  | .module attributes front name innerAttributes items =>
    .module attributes front name innerAttributes (Item.erasedAll items)
  | .generated code => .other (Code.ofTokens code.parts.erased.tokens)
  | item => item

@[inherit_doc Item.erased]
def Item.erasedAll : List Item → List Item
  | [] => []
  | item :: rest => item.erased :: Item.erasedAll rest

end

/-- The file with all generated code erased to what the options do not decide. -/
def SourceFile.erased (file : SourceFile) : SourceFile :=
  { file with items := Item.erasedAll file.items }

lemma Item.erasedAll_eq (items : List Item) : Item.erasedAll items = items.map Item.erased := by
  induction items with
  | nil => rfl
  | cons item rest ih => rw [erasedAll, ih, List.map_cons]

namespace Pending

lemma erased_itemsFor (pending : Pending) (options : Options) (scope : Namespace) :
    ((pending.withOptions options).itemsFor scope).map Item.erased =
      (pending.itemsFor scope).map Item.erased := by
  simp only [itemsFor, withOptions, List.filter_map, List.map_map]
  apply List.map_congr_left
  intro entry _
  simp only [Function.comp_apply, Item.erased, MappingCode.erased_withOptions]

lemma withOptions_without (pending : Pending) (options : Options) (scope : Namespace) :
    (pending.withOptions options).without scope = (pending.without scope).withOptions options := by
  simp only [without, withOptions, List.filter_map]
  rfl

end Pending

mutual

lemma Item.place_withOptions (current : Namespace) (pending : Pending) (options : Options)
    (item : Item) :
    (item.place current (pending.withOptions options)).1.erased =
        (item.place current pending).1.erased ∧
      (item.place current (pending.withOptions options)).2 =
        (item.place current pending).2.withOptions options := by
  cases item with
  | module attributes front name innerAttributes items =>
    obtain ⟨within, left⟩ :=
      Item.placeWithin_withOptions (current.join name) pending options items
    simp only [Item.place, Item.erased, Item.erasedAll_eq, List.map_append, left,
      Pending.erased_itemsFor, Pending.withOptions_without, within, and_self]
  | struct item | enum item | union item | trait item | impl item | other code | generated code =>
    exact ⟨rfl, rfl⟩

lemma Item.placeWithin_withOptions (current : Namespace) (pending : Pending) (options : Options)
    (items : List Item) :
    (Item.placeWithin current (pending.withOptions options) items).1.map Item.erased =
        (Item.placeWithin current pending items).1.map Item.erased ∧
      (Item.placeWithin current (pending.withOptions options) items).2 =
        (Item.placeWithin current pending items).2.withOptions options := by
  cases items with
  | nil => exact ⟨rfl, rfl⟩
  | cons item rest =>
    obtain ⟨first, left⟩ := Item.place_withOptions current pending options item
    obtain ⟨others, rest⟩ :=
      Item.placeWithin_withOptions current (item.place current pending).2 options rest
    simp only [Item.placeWithin, List.map_cons, first, left, others, rest, and_self]

end

lemma place_withOptions (root : Namespace) (pending : Pending) (options : Options)
    (items : List Item) :
    (place root (pending.withOptions options) items).1.map Item.erased =
      (place root pending items).1.map Item.erased := by
  obtain ⟨within, left⟩ := Item.placeWithin_withOptions root pending options items
  rw [place_eq, place_eq, left, List.map_append, List.map_append, within, Pending.erased_itemsFor]

/-! ## Expanding -/

/-- Under other options a tree of modules is refused for the same reason or expanded in the same
way. -/
theorem expandItems_options (root : Namespace) (items : List Item) (a b : Options) :
    (∃ fault, expandItems root items a = .error fault ∧ expandItems root items b = .error fault) ∨
      ∃ x y, expandItems root items a = .ok x ∧ expandItems root items b = .ok y ∧
        y.generation.diagnostics = x.generation.diagnostics ∧
        y.generation.models = x.generation.models.map (·.withOptions b) ∧
        x.items.map Item.erased = y.items.map Item.erased := by
  rw [expandItems, expandItems]
  cases declared : Inventory.ofItems root items with
  | error faults => exact Or.inl ⟨_, rfl, rfl⟩
  | ok inv =>
    have generated := generate_withOptions inv.schema a b
    simp only [Except.mapError, bind, Except.bind, generated, Inventory.codeOf_withOptions,
      Pending.isPrintable_withOptions]
    split
    · refine Or.inr ⟨_, _, rfl, rfl, rfl, rfl, ?_⟩
      exact (place_withOptions root _ b _).symm
    · exact Or.inl ⟨_, rfl, rfl⟩

/-- Options never change what is mapped: under any two of them a file is refused for the same
reason, or is expanded with the same diagnostics and the same plans but for the options noted in
them. The expanded files are the same once documentation, visibility and the conversion of an
optional source are erased from the generated code, of which nothing else is taken away. -/
theorem expand_options :
    (∀ code : MappingCode, code.parts.tokens = code.tokens) ∧
    ∀ (file : SourceFile) (a b : Options),
      (∃ fault, file.expand a = .error fault ∧ file.expand b = .error fault) ∨
      ∃ x y, file.expand a = .ok x ∧ file.expand b = .ok y ∧
        y.generation.diagnostics = x.generation.diagnostics ∧
        y.generation.models = x.generation.models.map (·.withOptions b) ∧
        x.file.erased = y.file.erased := by
  refine ⟨MappingCode.parts_tokens, ?_⟩
  intro file a b
  rw [SourceFile.expand, SourceFile.expand]
  rcases expandItems_options ⟨"crate"⟩ file.items a b with
    ⟨fault, first, second⟩ | ⟨x, y, first, second, diagnostics, models, items⟩
  · rw [first, second]
    exact Or.inl ⟨fault, rfl, rfl⟩
  · rw [first, second]
    refine Or.inr ⟨_, _, rfl, rfl, diagnostics, models, ?_⟩
    simp only [SourceFile.erased, Item.erasedAll_eq, items]

end MemberMapping
