import MemberMapping.Proofs.FieldInitialisation

/-!
Extension traits of one module.

Mappings without extra parameters declare a trait next to their target. Its name joins the source
and the target by `To`, each as a row of capitalised words. Neither step can be undone: names that
differ in their letter case or in separators can have the same words, and a name may have a `To` of
its own. So two traits of a module are told apart exactly where no two of its mappings meet in one
of these ways.
-/

namespace MemberMapping

/-! ## Names joined by `To` -/

namespace Text

/-- The first pair of names joins a later place than the second: the source of the first goes on
behind that of the second with `To` and a middle part, with which the target of the second
begins. -/
def JoinsLater (source target source' target' : String) : Prop :=
  ∃ middle, source = source' ++ "To" ++ middle ∧ target' = middle ++ "To" ++ target

/-- Two pairs of names that are the same once they are joined. -/
inductive JoinAlike (source target source' target' : String) : Prop
  | same (sources : source = source') (targets : target = target')
  | later (joins : JoinsLater source target source' target')
  | earlier (joins : JoinsLater source' target' source target)

lemma JoinsLater.joined {source target source' target' : String}
    (joins : JoinsLater source target source' target') :
    source ++ "To" ++ target = source' ++ "To" ++ target' := by
  obtain ⟨middle, rfl, rfl⟩ := joins
  simp only [String.append_assoc]

/-- One character is not enough to move the place of a join, since `To` does not overlap itself. -/
lemma joinsLater_of_append {source target source' target' : String} {rest : List Char}
    (longer : source.toList = source'.toList ++ rest)
    (back : "To".toList ++ target'.toList = rest ++ ("To".toList ++ target.toList)) :
    JoinAlike source target source' target' := by
  rw [show "To".toList = ['T', 'o'] from rfl] at back
  match rest with
  | [] =>
    rw [List.append_nil] at longer
    exact .same (String.toList_inj.mp longer)
      (String.toList_inj.mp (List.append_cancel_left back).symm)
  | [c] => cases back
  | c :: d :: middle =>
    injection back with first back
    injection back with second back
    subst first second
    refine .later ⟨String.ofList middle, String.toList_inj.mp ?_, String.toList_inj.mp ?_⟩
    · simpa using longer
    · simpa using back

lemma joined_eq_iff {source target source' target' : String} :
    source ++ "To" ++ target = source' ++ "To" ++ target' ↔
      JoinAlike source target source' target' := by
  constructor
  · intro joined
    have letters := congrArg String.toList joined
    simp only [String.toList_append, List.append_assoc] at letters
    rcases List.append_eq_append_iff.mp letters with ⟨rest, longer, back⟩ | ⟨rest, longer, back⟩
    · cases joinsLater_of_append longer back with
      | same sources targets => exact .same sources.symm targets.symm
      | later joins => exact .earlier joins
      | earlier joins => exact .later joins
    · exact joinsLater_of_append longer back
  · rintro (⟨rfl, rfl⟩ | joins | joins)
    · rfl
    · exact joins.joined
    · exact joins.joined.symm

end Text

/-! ## Traits of a module -/

def MappingCode.trait? (code : MappingCode) : Option String :=
  if code.converts then some code.traitName else none

def Pending.traits (pending : Pending) (scope : Namespace) : List String :=
  (pending.forScope scope).filterMap fun placed => placed.2.trait?

/-- The plan is for a type of the module, and the source alone is enough to build it. -/
def MappingModel.Extends (model : MappingModel) (scope : Namespace) : Prop :=
  model.scope = scope ∧ model.isInfallibleFromSource = true

instance (model : MappingModel) (scope : Namespace) : Decidable (model.Extends scope) :=
  inferInstanceAs (Decidable (_ ∧ _))

/-- The name of the extension trait that belongs to a plan. -/
def MappingModel.traitName (model : MappingModel) : String :=
  Text.camelCase model.sourceTypeName ++ "To" ++ Text.camelCase model.typeName

/-- Sources and targets of two plans have the same names once they are capitalised and joined. -/
def MappingModel.NamedLike (model other : MappingModel) : Prop :=
  Text.JoinAlike (Text.camelCase model.sourceTypeName) (Text.camelCase model.typeName)
    (Text.camelCase other.sourceTypeName) (Text.camelCase other.typeName)

lemma MappingModel.traitName_eq_iff {model other : MappingModel} :
    model.traitName = other.traitName ↔ model.NamedLike other :=
  Text.joined_eq_iff

lemma Schema.nodup_models {s : Schema} (distinct : (s.types.map (·.fullName)).Nodup)
    (options : Options) : (generate s options).models.Nodup := by
  have sub : (s.mappedTypes.map (·.fullName)).Sublist (s.types.map (·.fullName)) :=
    List.filter_sublist.map _
  exact List.Nodup.of_map _ (distinct.sublist ((s.fullNames_generate options).trans sub))

namespace Inventory

variable {root : Namespace} {items : List Item} {inv : Inventory} {options : Options}

/-- The code of a plan declares the trait of the plan, where it declares one. -/
lemma trait?_of_generated (ready : Inventory.ofItems root items = .ok inv) {model : MappingModel}
    (generated : model ∈ (generate inv.schema options).models) :
    ∃ code, (inv.emission? model).map (fun e => (model.scope, e.code)) = some (model.scope, code) ∧
      code.trait? = if model.isInfallibleFromSource then some model.traitName else none := by
  obtain ⟨_, _, _, _, _, plans⟩ := plans_of_generated ready generated
  refine ⟨_, by rw [plans.emitted]; rfl, rfl⟩

lemma traits_codeOf (ready : Inventory.ofItems root items = .ok inv) (scope : Namespace) :
    Pending.traits (inv.codeOf (generate inv.schema options).models) scope =
      ((generate inv.schema options).models.filter (·.Extends scope)).map (·.traitName) := by
  have each : ∀ model ∈ (generate inv.schema options).models, _ := fun model =>
    trait?_of_generated ready
  rw [Pending.traits, Pending.forScope, codeOf]
  generalize (generate inv.schema options).models = models at each
  induction models with
  | nil => rfl
  | cons model rest ih =>
    obtain ⟨code, emitted, trait⟩ := each model (List.mem_cons_self ..)
    specialize ih fun m listed => each m (List.mem_cons_of_mem _ listed)
    simp only [List.filterMap_cons, emitted, List.filter_cons, beq_iff_eq, decide_eq_true_eq]
    by_cases here : model.scope = scope
    · cases free : model.isInfallibleFromSource with
      | true => simp [here, free, trait, MappingModel.Extends, ih]
      | false => simp [here, free, trait, MappingModel.Extends, ih]
    · simp [here, MappingModel.Extends, ih]

/-- The extension traits of a module have different names if and only if no two plans for its types
have sources and targets whose names are the same once they are capitalised and joined. -/
theorem traits_distinct_iff (ready : Inventory.ofItems root items = .ok inv) (options : Options)
    (scope : Namespace) :
    (Pending.traits (inv.codeOf (generate inv.schema options).models) scope).Nodup ↔
      ∀ model ∈ (generate inv.schema options).models,
        ∀ other ∈ (generate inv.schema options).models,
          model.Extends scope → other.Extends scope → model ≠ other → ¬ model.NamedLike other := by
  have distinct := Schema.nodup_models (distinct_of_ready ready) options
  rw [traits_codeOf ready, List.nodup_map_iff_inj_on (distinct.filter _)]
  simp only [List.mem_filter, decide_eq_true_eq, MappingModel.traitName_eq_iff]
  constructor
  · intro apart model generated other planned here there different alike
    exact different (apart model ⟨generated, here⟩ other ⟨planned, there⟩ alike)
  · intro apart model generated other planned alike
    by_contra different
    exact apart model generated.1 other planned.1 generated.2 planned.2 different alike

end Inventory

/-- Structs with the same field, each with the type that it is mapped from, if there is one. -/
def sourced (structs : List (String × List String)) : List Item :=
  structs.map fun (name, source) =>
    .struct (.mapped (source.map .ident) name [.marked [] "id" "i32"])

def sourcedInventory (structs : List (String × List String)) : Inventory :=
  (Inventory.ofItems ⟨"crate"⟩ (sourced structs)).toOption.getD ⟨⟨{}, []⟩, []⟩

/-- The join of one mapping is a part of a name in the other. -/
def noteTypes : List (String × List String) :=
  [("Note", []), ("NoteToDo", []), ("DoToList", ["Note"]), ("List", ["NoteToDo"])]

/-- Neither the sources nor the targets have a name in common, but the traits have. -/
theorem notes_traits_meet :
    Inventory.ofItems ⟨"crate"⟩ (sourced noteTypes) = .ok (sourcedInventory noteTypes) ∧
    Pending.traits ((sourcedInventory noteTypes).codeOf
      (generate (sourcedInventory noteTypes).schema {}).models) ⟨"crate"⟩ =
        ["NoteToDoToList", "NoteToDoToList"] ∧
    ∃ model ∈ (generate (sourcedInventory noteTypes).schema {}).models,
      ∃ other ∈ (generate (sourcedInventory noteTypes).schema {}).models,
        model.Extends ⟨"crate"⟩ ∧ other.Extends ⟨"crate"⟩ ∧ model ≠ other ∧
          model.NamedLike other := by
  have ready : Inventory.ofItems ⟨"crate"⟩ (sourced noteTypes) = .ok (sourcedInventory noteTypes) :=
    Inventory.of_accepted _ (by decide +kernel)
  have traits : Pending.traits ((sourcedInventory noteTypes).codeOf
      (generate (sourcedInventory noteTypes).schema {}).models) ⟨"crate"⟩ =
        ["NoteToDoToList", "NoteToDoToList"] := by decide +kernel
  refine ⟨ready, traits, ?_⟩
  by_contra none
  have distinct := (Inventory.traits_distinct_iff ready {} ⟨"crate"⟩).mpr
    fun model generated other planned here there different alike =>
      none ⟨model, generated, other, planned, here, there, different, alike⟩
  rw [traits] at distinct
  exact absurd distinct (by decide)

/-- The names of the targets differ in their letter case. -/
def linkTypes : List (String × List String) :=
  [("Link", []), ("Url", ["Link"]), ("URL", ["Link"])]

/-- Two types are mapped from the same one, and both get the same trait in the same module. -/
theorem links_traits_clash :
    Inventory.ofItems ⟨"crate"⟩ (sourced linkTypes) = .ok (sourcedInventory linkTypes) ∧
    (generate (sourcedInventory linkTypes).schema {}).models.map (·.fullName) =
      ["crate::Url", "crate::URL"] ∧
    (∀ model ∈ (generate (sourcedInventory linkTypes).schema {}).models, model.Extends ⟨"crate"⟩) ∧
    Pending.traits ((sourcedInventory linkTypes).codeOf
      (generate (sourcedInventory linkTypes).schema {}).models) ⟨"crate"⟩ =
        ["LinkToUrl", "LinkToUrl"] :=
  ⟨Inventory.of_accepted _ (by decide +kernel), by decide +kernel, by decide +kernel,
    by decide +kernel⟩

end MemberMapping
