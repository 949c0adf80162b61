import MemberMapping.Expansion
import MemberMapping.Proofs.DeclarationOrder
import MemberMapping.Proofs.Lists
import MemberMapping.Proofs.ModuleWalk
import MemberMapping.Proofs.SourceAccess

/-!
Expansion adds code and does nothing else: no generated code is lost, put twice or put elsewhere.

The relation between a tree of modules and the expanded one says what was added where. Along the
tree the code that was pending is split into what is added and what is left; as the namespaces of
the tree include those of all targets, nothing is left at its root.
-/

namespace MemberMapping

/-! ## Trees with added code -/

mutual

/-- `item.Grown current item' added`: in the place of `item`, which stands in `current`, is `item'`.
It is the item without helper attributes, with the code `added` in the modules within, each by the
namespace of its module. -/
inductive Item.Grown : Namespace → Item → Item → Pending → Prop
  | leaf {current : Namespace} {item : Item} (leaf : item.isModule = false) :
    Grown current item item.stripped []
  | module {current : Namespace} {name : String} {items items' : List Item} {added : Pending}
      (attributes : List Attribute) (front : List Code) (innerAttributes : List Attribute)
      (body : Item.BodyGrown (current.join name) items items' added) :
    Grown current (.module attributes front name innerAttributes items)
      (.module (Attribute.strippedAll attributes) (Code.strippedAll front) name
        (Attribute.strippedAll innerAttributes) items') added

/-- Each of several items has grown in its place. -/
inductive Item.EachGrown : Namespace → List Item → List Item → Pending → Prop
  | nil {current : Namespace} : EachGrown current [] [] []
  | cons {current : Namespace} {item item' : Item} {rest rest' : List Item} {first others : Pending}
      (head : Item.Grown current item item' first)
      (tail : Item.EachGrown current rest rest' others) :
    EachGrown current (item :: rest) (item' :: rest') (first ++ others)

/-- The items of a module have grown, with code for the module itself behind them. -/
inductive Item.BodyGrown : Namespace → List Item → List Item → Pending → Prop
  | intro {current : Namespace} {items items' : List Item} {added : Pending}
      (each : Item.EachGrown current items items' added) (codes : List MappingCode) :
    BodyGrown current items (items' ++ codes.map .generated)
      (added ++ codes.map fun code => (current, code))

end

/-! ## Pending code -/

namespace Pending

def forScope (pending : Pending) (scope : Namespace) : Pending :=
  pending.filter (·.1 == scope)

lemma forScope_append (first second : Pending) (scope : Namespace) :
    forScope (first ++ second) scope = first.forScope scope ++ second.forScope scope :=
  List.filter_append ..

lemma forScope_forScope (pending : Pending) (scope : Namespace) :
    (pending.forScope scope).forScope scope = pending.forScope scope := by
  simp [forScope]

lemma forScope_without (pending : Pending) (scope : Namespace) :
    (pending.without scope).forScope scope = [] := by
  simp [forScope, without]

lemma forScope_forScope_of_ne {scope other : Namespace} (apart : other ≠ scope)
    (pending : Pending) : (pending.forScope scope).forScope other = [] := by
  simp only [forScope, List.filter_filter, List.filter_eq_nil_iff]
  intro entry _ both
  simp only [Bool.and_eq_true, beq_iff_eq] at both
  exact apart (both.1.symm.trans both.2)

lemma forScope_without_of_ne {scope other : Namespace} (apart : other ≠ scope)
    (pending : Pending) : (pending.without scope).forScope other = pending.forScope other := by
  simp only [forScope, without, List.filter_filter]
  apply List.filter_congr
  intro entry _
  by_cases same : entry.1 = other
  · simp [same, apart]
  · simp [same]

/-- Code that was pending is added or left, in its order for every module, and none is left for the
modules that were served. -/
structure Served (pending added left : Pending) (scopes : List Namespace) : Prop where
  split : ∀ scope, added.forScope scope ++ left.forScope scope = pending.forScope scope
  none_left : ∀ scope ∈ scopes, left.forScope scope = []

lemma Served.nil (pending : Pending) : Served pending [] pending [] :=
  ⟨fun _ => rfl, by simp⟩

lemma Served.append {pending first left others rest : Pending} {scopes more : List Namespace}
    (served : Served pending first left scopes) (later : Served left others rest more) :
    Served pending (first ++ others) rest (scopes ++ more) := by
  refine ⟨?_, ?_⟩
  · intro scope
    rw [forScope_append, List.append_assoc, later.split, served.split]
  · intro scope listed
    rcases List.mem_append.mp listed with before | after
    · have split := later.split scope
      rw [served.none_left scope before] at split
      exact (List.append_eq_nil_iff.mp split).2
    · exact later.none_left scope after

lemma Served.take {pending added left : Pending} {scopes : List Namespace}
    (served : Served pending added left scopes) (scope : Namespace) :
    Served pending (added ++ left.forScope scope) (left.without scope) (scope :: scopes) := by
  refine ⟨?_, ?_⟩
  · intro other
    rw [forScope_append, List.append_assoc, ← served.split other]
    by_cases same : other = scope
    · rw [same, forScope_forScope, forScope_without, List.append_nil]
    · rw [forScope_forScope_of_ne same, forScope_without_of_ne same, List.nil_append]
  · intro other listed
    by_cases same : other = scope
    · rw [same, forScope_without]
    · rw [forScope_without_of_ne same]
      exact served.none_left other ((List.mem_cons.mp listed).resolve_left same)

lemma Served.left_nil {pending added left : Pending} {scopes : List Namespace}
    (served : Served pending added left scopes) (known : ∀ entry ∈ pending, entry.1 ∈ scopes) :
    left = [] := by
  rw [List.eq_nil_iff_forall_not_mem]
  intro entry remains
  have here : entry ∈ left.forScope entry.1 := List.mem_filter.mpr ⟨remains, by simp⟩
  have before : entry ∈ pending.forScope entry.1 := by
    rw [← served.split]
    exact List.mem_append_right _ here
  have none := served.none_left entry.1 (known entry (List.mem_filter.mp before).1)
  rw [none] at here
  cases here

lemma exists_codes (pending : Pending) (scope : Namespace) :
    ∃ codes : List MappingCode, pending.itemsFor scope = codes.map .generated ∧
      pending.forScope scope = codes.map fun code => (scope, code) := by
  refine ⟨(pending.forScope scope).map (·.2), ?_, ?_⟩
  · rw [itemsFor, forScope, List.map_map]
    rfl
  · rw [List.map_map]
    conv_lhs => rw [← List.map_id (pending.forScope scope)]
    apply List.map_congr_left
    intro entry listed
    have same : entry.1 = scope := by simpa using (List.mem_filter.mp listed).2
    simp [← same]

end Pending

/-! ## Placing -/

lemma place_eq (root : Namespace) (pending : Pending) (items : List Item) :
    place root pending items =
      ((Item.placeWithin root pending items).1 ++
          (Item.placeWithin root pending items).2.itemsFor root,
        (Item.placeWithin root pending items).2.without root) := rfl

lemma place_grown_of_each {scope : Namespace} {pending added : Pending} {items : List Item}
    (each : Item.EachGrown scope items
      (Item.placeWithin scope pending (Item.strippedAll items)).1 added)
    (served : Pending.Served pending added
      (Item.placeWithin scope pending (Item.strippedAll items)).2
      (Item.namespacesIn scope items)) :
    ∃ added, Item.BodyGrown scope items (place scope pending (Item.strippedAll items)).1 added ∧
      Pending.Served pending added (place scope pending (Item.strippedAll items)).2
        (namespaces scope items) := by
  rw [place_eq, namespaces]
  obtain ⟨codes, behind, taken⟩ := Pending.exists_codes
    (Item.placeWithin scope pending (Item.strippedAll items)).2 scope
  refine ⟨added ++ codes.map fun code => (scope, code), ?_, ?_⟩
  · rw [behind]
    exact .intro each codes
  · rw [← taken]
    exact served.take scope

mutual

/-- Code is placed in the modules within an item. -/
lemma Item.place_grown (current : Namespace) (pending : Pending) (item : Item) :
    ∃ added, item.Grown current (item.stripped.place current pending).1 added ∧
      Pending.Served pending added (item.stripped.place current pending).2
        (item.namespaces current) := by
  cases item with
  | module attributes front name innerAttributes items =>
    obtain ⟨added, each, served⟩ := Item.placeWithin_grown (current.join name) pending items
    obtain ⟨added, body, served⟩ := place_grown_of_each each served
    exact ⟨added, .module attributes front innerAttributes body, served⟩
  | struct item | enum item | union item | trait item | impl item | other code | generated code =>
    exact ⟨[], .leaf rfl, .nil pending⟩

@[inherit_doc Item.place_grown]
lemma Item.placeWithin_grown (current : Namespace) (pending : Pending) (items : List Item) :
    ∃ added, Item.EachGrown current items
        (Item.placeWithin current pending (Item.strippedAll items)).1 added ∧
      Pending.Served pending added
        (Item.placeWithin current pending (Item.strippedAll items)).2
        (Item.namespacesIn current items) := by
  cases items with
  | nil => exact ⟨[], .nil, .nil pending⟩
  | cons item rest =>
    obtain ⟨first, head, served⟩ := Item.place_grown current pending item
    obtain ⟨others, tail, later⟩ := Item.placeWithin_grown current
      (item.stripped.place current pending).2 rest
    exact ⟨first ++ others, .cons head tail, served.append later⟩

end

theorem place_grown (root : Namespace) (pending : Pending) (items : List Item) :
    ∃ added, Item.BodyGrown root items (place root pending (Item.strippedAll items)).1 added ∧
      Pending.Served pending added (place root pending (Item.strippedAll items)).2
        (namespaces root items) := by
  obtain ⟨added, each, served⟩ := Item.placeWithin_grown root pending items
  exact place_grown_of_each each served

/-! ## Expanding -/

def Inventory.Emits (inv : Inventory) (options : Options) (model : MappingModel)
    (code : Namespace × MappingCode) : Prop :=
  ∃ target ∈ inv.schema.types, ∃ e, assemble inv.schema target options = .ok model ∧
    inv.emission? model = some e ∧ code = (target.scope, e.code)

def MappingModel.fullName (model : MappingModel) : String :=
  (TypePath.plain model.scope model.typeName).definitionName

/-- No plan is passed over: each has the declarations of its target and its source. -/
lemma Inventory.Listed.emits {inv : Inventory} {items : ScopedItems} (listed : inv.Listed items)
    {options : Options} {model : MappingModel}
    (generated : model ∈ (generate inv.schema options).models) :
    ∃ code, (inv.emission? model).map (fun e => (model.scope, e.code)) = some code ∧
      inv.Emits options model code := by
  obtain ⟨target, known, _, ready⟩ := assemble_of_mem_generate generated
  obtain ⟨source, mapped, _, rfl⟩ := plan_of_assemble ready
  obtain ⟨path, _, found⟩ := Option.bind_eq_some_iff.mp mapped
  obtain ⟨written, declared⟩ := listed.written target known
  obtain ⟨form, present⟩ := listed.written source (Schema.mem_of_find? found).1
  have emitted := emission?_plan declared present options
  refine ⟨_, ?_, target, known, _, ready, emitted, rfl⟩
  rw [emitted]
  rfl

lemma Schema.fullNames_generate (s : Schema) (options : Options) :
    ((generate s options).models.map (·.fullName)).Sublist (s.mappedTypes.map (·.fullName)) := by
  rw [generate_eq]
  induction s.mappedTypes with
  | nil => exact List.Sublist.refl _
  | cons target rest ih =>
    cases ready : s.ready? options target with
    | none =>
      rw [List.filterMap_cons_none ready]
      exact ih.cons _
    | some model =>
      rw [List.filterMap_cons_some ready]
      obtain ⟨source, _, _, rfl⟩ := plan_of_assemble (Schema.ready?_eq_some_iff.mp ready)
      exact ih.cons_cons _

/-- An expansion adds the code of every plan to a tree of modules, and changes nothing else: `codes`
is that code with the modules of the targets, and `added` what was put where. -/
structure Expansion.Adds (expansion : Expansion) (root : Namespace) (items : List Item)
    (options : Options) (inv : Inventory) (codes added : Pending) : Prop where
  declared : Inventory.ofItems root items = .ok inv
  resolved : expansion.generation = generate inv.schema options
  /-- No plan is passed over. -/
  emitted : List.Forall₂ (inv.Emits options) expansion.generation.models codes
  /-- Plans stand in the order in which their targets are declared. -/
  ordered : (expansion.generation.models.map (·.fullName)).Sublist
    (scopedItems root items).structNames
  /-- Nothing is left over. -/
  placed : place root codes (Item.strippedAll items) = (expansion.items, [])
  grown : Item.BodyGrown root items expansion.items added
  /-- The code for the modules of a path is put there, once and in its order. -/
  once : ∀ scope, added.forScope scope = codes.forScope scope

theorem Expansion.exists_adds {root : Namespace} {items : List Item} {options : Options}
    {expansion : Expansion} (expanded : expandItems root items options = .ok expansion) :
    ∃ inv codes added, expansion.Adds root items options inv codes added := by
  rw [expandItems] at expanded
  cases ready : Inventory.ofItems root items with
  | error faults => rw [ready] at expanded; cases expanded
  | ok inv =>
    simp only [ready, Except.mapError, bind, Except.bind] at expanded
    split at expanded
    · cases expanded
      have listed := Inventory.listed_of_ofItems ready
      set models := (generate inv.schema options).models
      obtain ⟨added, body, served⟩ := place_grown root (inv.codeOf models) items
      have emits : List.Forall₂ (inv.Emits options) models (inv.codeOf models) :=
        forall₂_filterMap fun model generated => listed.emits generated
      -- the namespaces of all targets are those of modules, so placing meets every one of them
      have known : ∀ entry ∈ inv.codeOf models, entry.1 ∈ namespaces root items := by
        intro entry pending
        obtain ⟨model, generated, emitted⟩ := List.mem_filterMap.mp pending
        obtain ⟨code, same, target, present, _, _, _, rfl⟩ := listed.emits generated
        cases Option.some.inj (emitted.symm.trans same)
        exact Survey.scope_mem_namespaces (listed.declared target present)
      have nothing := served.left_nil known
      have once : ∀ scope, added.forScope scope = Pending.forScope (inv.codeOf models) scope := by
        intro scope
        rw [← served.split scope, nothing]
        exact (List.append_nil _).symm
      exact ⟨inv, inv.codeOf models, added, ready, rfl, emits,
        (inv.schema.fullNames_generate options).trans listed.ordered, Prod.ext rfl nothing, body,
        once⟩
    · cases expanded

/-- A source file whose expansion succeeds keeps its own attributes, and the code of every plan is
added to the modules within. -/
theorem SourceFile.exists_expansion_adds {file : SourceFile} {options : Options}
    {expanded : ExpandedFile} (success : file.expand options = .ok expanded) :
    expanded.file.innerAttributes = file.innerAttributes ∧
      ∃ inv codes added, Expansion.Adds ⟨expanded.file.items, expanded.generation⟩ ⟨"crate"⟩
        file.items options inv codes added := by
  rw [SourceFile.expand] at success
  cases outcome : expandItems ⟨"crate"⟩ file.items options with
  | error fault => rw [outcome] at success; cases success
  | ok expansion =>
    rw [outcome] at success
    cases success
    exact ⟨rfl, Expansion.exists_adds outcome⟩

/-- Views of things: one at the root, and the others in two modules of the same path, of which the
first has an empty module before its struct. -/
def shop : SourceFile where
  innerAttributes := []
  items :=
    [.struct (.mapped [] "Thing" [.marked [] "id" "i32"]),
      .module [] (Code.ofTokens [.ident "mod"]) "views" []
        [.module [] (Code.ofTokens [.ident "mod"]) "empty" [] [],
          .struct (.mapped [.ident "Thing"] "Row" [.marked [] "id" "i32"])],
      .struct (.mapped [.ident "Thing"] "Card" [.marked [] "id" "i32"]),
      .module [] (Code.ofTokens [.ident "mod"]) "views" []
        [.struct (.mapped [.ident "Thing"] "Cell" [.marked [] "id" "i32"])]]

/-- The code of three views is added to the shop. -/
theorem shop_views_added :
    ∃ expanded, shop.expand {} = .ok expanded ∧
      expanded.generation.models.map (·.fullName) =
        ["crate::views::Row", "crate::Card", "crate::views::Cell"] ∧
      ∃ inv codes added, codes.length = 3 ∧
        Expansion.Adds ⟨expanded.file.items, expanded.generation⟩ ⟨"crate"⟩ shop.items {} inv codes
          added := by
  have planned : (shop.expand {}).toOption.map (·.generation.models.map (·.fullName)) =
      some ["crate::views::Row", "crate::Card", "crate::views::Cell"] := by decide +kernel
  cases success : shop.expand {} with
  | error fault => rw [success] at planned; cases planned
  | ok expanded =>
    rw [success] at planned
    have names : expanded.generation.models.map (·.fullName) =
        ["crate::views::Row", "crate::Card", "crate::views::Cell"] := Option.some.inj planned
    have count := congrArg List.length names
    rw [List.length_map] at count
    obtain ⟨_, inv, codes, added, adds⟩ := SourceFile.exists_expansion_adds success
    exact ⟨expanded, rfl, names, inv, codes, added, adds.emitted.length_eq.symm.trans count, adds⟩

end MemberMapping
