import MemberMapping.Proofs.Inventory
import MemberMapping.Proofs.Respelling
import MemberMapping.Proofs.Stripping

/-!
What is seen of declarations.

A declaration goes by its plain name, whether it is written raw or not. So declarations are compared
with their own names written raw throughout, and without the names of the parameters that take their
members. Reduced items are seen as the items themselves, at every step of the survey and in the
inventory that comes of it.
-/

namespace MemberMapping

/-! ## Attributes and items -/

lemma Marked.ofAttributes_filter {α : Type} {add : α → Attribute → Except AttributeFault α}
    {keep : Attribute → Bool} (ignored : ∀ a, keep a = false → ∀ marks, add marks a = .ok marks)
    (start : α) (attributes : List Attribute) :
    Marked.ofAttributes add start (attributes.filter keep) =
      Marked.ofAttributes add start attributes := by
  have same : ∀ m : Marked α,
      (attributes.filter keep).foldl (step add) m = attributes.foldl (step add) m := by
    induction attributes with
    | nil => exact fun m => rfl
    | cons a rest ih =>
      intro m
      cases left : keep a with
      | true => rw [List.filter_cons_of_pos left, List.foldl_cons, List.foldl_cons, ih]
      | false =>
        rw [List.filter_cons_of_neg (by simp [left]), List.foldl_cons,
          step_of_ignored (ignored a left m.marks), ih]
  rw [ofAttributes, ofAttributes, same]

lemma TypeMarks.ofAttributes_helpers (attributes : List Attribute) :
    TypeMarks.ofAttributes (Attribute.helpers attributes) = TypeMarks.ofAttributes attributes :=
  Marked.ofAttributes_filter (fun _ other marks => marks.add_of_not_helper other) _ attributes

lemma MemberMarks.ofAttributes_helpers (attributes : List Attribute) :
    MemberMarks.ofAttributes (Attribute.helpers attributes) =
      MemberMarks.ofAttributes attributes :=
  Marked.ofAttributes_filter (fun _ other marks => marks.add_of_not_helper other) _ attributes

def ScopedItems.reduced : ScopedItems → ScopedItems :=
  ScopedItems.map StructItem.reduced EnumItem.reduced TraitItem.reduced ImplItem.reduced

mutual

lemma Item.scoped_reduced (current : Namespace) (item : Item) :
    item.reduced.scoped current = (item.scoped current).reduced := by
  cases item with
  | module attributes front name innerAttributes items =>
    exact Item.scopedIn_reducedAll (current.join name) items
  | struct item | enum item | union item | trait item | impl item | other code | generated code =>
    rfl

lemma Item.scopedIn_reducedAll (current : Namespace) (items : List Item) :
    Item.scopedIn current (reducedAll items) = (Item.scopedIn current items).reduced := by
  cases items with
  | nil => rfl
  | cons item rest =>
    rw [reducedAll, Item.scopedIn, Item.scoped_reduced current item,
      Item.scopedIn_reducedAll current rest, Item.scopedIn, ScopedItems.reduced,
      ScopedItems.map_append]

end

lemma Survey.declaredNames_reduced (items : ScopedItems) :
    declaredNames items.reduced = declaredNames items := by
  simp only [declaredNames, ScopedItems.reduced, ScopedItems.map, List.map_map]
  simp only [Function.comp_def, Scoped.map, StructItem.reduced, EnumItem.reduced,
    TraitItem.reduced, Token.plainName_rawName]

/-! ## What is seen of declarations -/

def FieldName.seen : FieldName → FieldName
  | named name => named (Token.rawName name)
  | position index => position index

/-- What is seen of a member: not the name of the parameter that takes it. -/
def MemberDecl.seen (m : MemberDecl) : MemberDecl :=
  { m with binding := "", access := m.access.seen }

def BasePart.seen (part : BasePart) : BasePart :=
  { part with field := Token.rawName part.field }

/-- What is seen of a declaration: its names written raw. -/
def Decl.seen (decl : Decl) : Decl :=
  { decl with
    name := Token.rawName decl.name
    base := decl.base.map (·.seen)
    members := decl.members.map fun entry => (entry.1, entry.2.seen)
    constructor := decl.constructor.map Token.rawName }

def Entry.seen (entry : Entry) : Entry :=
  { entry with decl := entry.decl.seen }

def DeclaredMember.seen (m : DeclaredMember) : DeclaredMember :=
  { m with decl := m.decl.seen }

def WrittenConstructor.seen (c : WrittenConstructor) : WrittenConstructor :=
  ⟨c.name.map Token.rawName, c.members.map (·.seen)⟩

namespace Draft

def seen (d : Draft) : Draft :=
  { d with entry := d.entry.seen }

variable {names : DeclaredNames} {scope : Namespace}

lemma seen_addMember (d : Draft) (m : DeclaredMember) :
    (d.addMember m).seen = d.seen.addMember m.seen := by
  simp only [seen, addMember, Entry.seen, Decl.seen, DeclaredMember.seen, Table.map_set]

lemma seen_addBase (d : Draft) (field : String) (ty : TypeExpr) :
    (d.addBase names scope field ty).seen =
      d.seen.addBase names scope (Token.rawName field) ty := by
  have first : d.seen.entry.decl.base.isSome = d.entry.decl.base.isSome := Option.isSome_map ..
  rw [addBase, addBase, first]
  split
  · rfl
  · cases ty.ty names scope <;> rfl

lemma seen_settleBase (d : Draft) : d.settleBase.seen = d.seen.settleBase := by
  rw [settleBase, settleBase]
  have part : d.seen.entry.decl.base = d.entry.decl.base.map (·.seen) := rfl
  rw [part]
  cases d.entry.decl.base <;> rfl

lemma addField_seen {d d' : Draft} (same : d.seen = d'.seen) (field : Field) :
    (addField names scope d field.reduced).seen = (addField names scope d' field).seen := by
  have marks : MemberMarks.ofAttributes field.reduced.attributes =
      MemberMarks.ofAttributes field.attributes := MemberMarks.ofAttributes_helpers _
  have name : field.reduced.name = field.name.map Token.rawName := rfl
  rw [addField, addField, marks, name]
  cases field.name with
  | none => exact same
  | some written =>
    cases MemberMarks.ofAttributes field.attributes with
    | error faults => exact congrArg (·.blame (faults.map .inAttribute)) same
    | ok marks =>
      simp only [Option.map_some]
      split
      · rw [seen_addBase, seen_addBase, same, Token.rawName_rawName]
        rfl
      · rw [seen_addMember, seen_addMember, same]
        simp only [DeclaredMember.seen, MemberDecl.seen, FieldName.seen, Token.rawName_rawName,
          Token.plainName_rawName]
        rfl

lemma addFields_seen {d d' : Draft} (same : d.seen = d'.seen) (fields : List Field) :
    ((fields.map Field.reduced).foldl (addField names scope) d).settleBase.seen =
      (fields.foldl (addField names scope) d').settleBase.seen := by
  have read : ((fields.map Field.reduced).foldl (addField names scope) d).seen =
      (fields.foldl (addField names scope) d').seen := by
    induction fields generalizing d d' with
    | nil => exact same
    | cons field rest ih => exact ih (addField_seen same field)
  rw [seen_settleBase, seen_settleBase, read]

end Draft

/-! ## Elements, parameters and constructors -/

lemma elementsFrom_reduced (names : DeclaredNames) (scope : Namespace) (start : Nat)
    (fields : List Field) :
    elementsFrom names scope start (fields.map (·.reduced)) =
      elementsFrom names scope start fields := by
  rw [elementsFrom, List.zipIdx_map, List.map_map, elementsFrom]
  refine List.map_congr_left fun entry _ => ?_
  simp only [Function.comp_apply, Prod.map, Field.element, Field.reduced,
    MemberMarks.ofAttributes_helpers, id]

lemma failures_map {ε α β : Type} (f : α → β) (outcomes : List (Except (List ε) α)) :
    failures (outcomes.map (·.map f)) = failures outcomes := by
  rw [failures, failures, List.flatMap_map]
  refine congrArg (fun g => List.flatMap g outcomes) (funext fun outcome => ?_)
  cases outcome <;> rfl

lemma successes_map {ε α β : Type} (f : α → β) (outcomes : List (Except ε α)) :
    successes (outcomes.map (·.map f)) = (successes outcomes).map f := by
  rw [successes, successes, List.filterMap_map, List.map_filterMap]
  apply List.filterMap_congr
  intro outcome _
  cases outcome <;> rfl

lemma Parameter.declared?_seen (names : DeclaredNames) (scope : Namespace) (position : Nat)
    (parameter : Parameter) :
    (parameter.reduced.declared? names scope position).map (·.map DeclaredMember.seen) =
      (parameter.declared? names scope position).map (·.map DeclaredMember.seen) := by
  cases parameter with
  | receiver code => rfl
  | variadic code => rfl
  | typed attributes pattern name ty =>
    simp only [reduced, declared?, MemberMarks.ofAttributes_helpers]
    cases MemberMarks.ofAttributes attributes with
    | error faults => rfl
    | ok marks =>
      cases name with
      | none => rfl
      | some written =>
        simp only [Option.map_some, Option.getD_some, Token.plainName_rawName]
        rfl

namespace Function

variable (function : Function) (names : DeclaredNames) (scope : Namespace)

lemma declaredParameters_seen :
    (function.reduced.declaredParameters names scope).map (·.map DeclaredMember.seen) =
      (function.declaredParameters names scope).map (·.map DeclaredMember.seen) := by
  simp only [declaredParameters, reduced, List.zipIdx_map, List.filterMap_map, List.map_filterMap]
  apply List.filterMap_congr
  rintro ⟨parameter, position⟩ _
  exact Parameter.declared?_seen names scope position parameter

lemma parameters_seen :
    failures (function.reduced.declaredParameters names scope) =
        failures (function.declaredParameters names scope) ∧
      (successes (function.reduced.declaredParameters names scope)).map DeclaredMember.seen =
        (successes (function.declaredParameters names scope)).map DeclaredMember.seen := by
  have seen := function.declaredParameters_seen names scope
  constructor
  · rw [← failures_map DeclaredMember.seen, seen, failures_map]
  · rw [← successes_map, seen, successes_map]

variable {function}

lemma isConstructor_reduced (typeName : String) :
    function.reduced.isConstructor typeName = function.isConstructor typeName := by
  have method : function.reduced.isMethod = function.isMethod := by
    simp only [isMethod, reduced, List.head?_map]
    cases function.parameters.head? with
    | none => rfl
    | some parameter => cases parameter <;> rfl
  have result : function.reduced.result = function.result := rfl
  rw [isConstructor, isConstructor, method, result]

lemma constructor_seen (known : WellKnown) (typeName : String)
    {parameters parameters' : List DeclaredMember}
    (same : parameters.map DeclaredMember.seen = parameters'.map DeclaredMember.seen) :
    function.reduced.constructor known typeName parameters =
      function.constructor known typeName parameters' := by
  have members : parameters.map (·.member) = parameters'.map (·.member) := by
    have projected := congrArg (List.map (·.member)) same
    rwa [List.map_map, List.map_map] at projected
  have ending : function.reduced.ending = function.ending := rfl
  rw [constructor, constructor, members, ending]

end Function

/-! ## The survey -/

namespace Survey

def seen (s : Survey) : Survey :=
  { entries := s.entries.map fun entry => (entry.1, entry.2.seen)
    constructors := s.constructors.map fun entry => (entry.1, entry.2.map WrittenConstructor.seen)
    faults := s.faults }

variable {names : DeclaredNames}

lemma seen_blame (s : Survey) (faults : List DeclarationFault) :
    (s.blame faults).seen = s.seen.blame faults := rfl

lemma seen_enter (s : Survey) (entry : Entry) : (s.enter entry).seen = s.seen.enter entry.seen := by
  simp only [seen, enter, Table.map_set]
  rfl

lemma seen_addConstructor (s : Survey) (key : String) (c : WrittenConstructor) :
    (s.addConstructor key c).seen = s.seen.addConstructor key c.seen := by
  have earlier : s.seen.constructors.get? key =
      (s.constructors.get? key).map (·.map WrittenConstructor.seen) :=
    Table.get?_map s.constructors (fun _ => List.map WrittenConstructor.seen) key
  rw [addConstructor, addConstructor, earlier]
  simp only [seen, Table.map_set]
  congr 2
  cases s.constructors.get? key <;> simp

/-- A change of definitions alone. -/
lemma seen_amend (s : Survey) (key : String) {change : Entry → Entry}
    (comm : ∀ entry, (change entry).seen = change entry.seen) :
    seen { s with entries := s.entries.update key change } =
      { s.seen with entries := s.seen.entries.update key change } := by
  simp only [seen, Table.map_update_comm comm]

lemma enter_draft_seen (s : Survey) {d d' : Draft} (same : d.seen = d'.seen) :
    (s.blame d.faults).enter d.entry.seen = (s.blame d'.faults).enter d'.entry.seen := by
  have faults : d.seen.faults = d'.seen.faults := by rw [same]
  have entries : d.seen.entry = d'.seen.entry := by rw [same]
  simp only [Draft.seen] at faults entries
  rw [faults, entries]

lemma addStruct_seen {s t : Survey} (same : s.seen = t.seen) (placed : Scoped StructItem) :
    (addStruct names s (placed.map StructItem.reduced)).seen = (addStruct names t placed).seen := by
  have marks : TypeMarks.ofAttributes (placed.map StructItem.reduced).item.attributes =
      TypeMarks.ofAttributes placed.item.attributes := TypeMarks.ofAttributes_helpers _
  have fields : (placed.map StructItem.reduced).item.fields = placed.item.fields.reduced := rfl
  have scope : (placed.map StructItem.reduced).scope = placed.scope := rfl
  have name : (placed.map StructItem.reduced).item.name = Token.rawName placed.item.name := rfl
  have generics : (placed.map StructItem.reduced).item.generics.isEmpty =
      placed.item.generics.isEmpty := by
    simp only [Scoped.map, StructItem.reduced]
    cases placed.item.generics <;> rfl
  rw [addStruct, addStruct]
  simp only [marks, fields, generics, scope, name]
  cases placed.item.fields with
  | unit =>
    simp only [Fields.reduced, seen_enter, seen_blame, same]
    simp only [emptyEntry, Entry.seen, Decl.seen, Token.plainName_rawName, Token.rawName_rawName]
  | named fields trailing =>
    simp only [Fields.reduced, seen_enter, seen_blame, same]
    refine enter_draft_seen _ (Draft.addFields_seen ?_ fields)
    simp only [emptyEntry, Draft.seen, Entry.seen, Decl.seen, Token.plainName_rawName,
      Token.rawName_rawName]
  | positional fields trailing =>
    have elements := elementsFrom_reduced names placed.scope 0 fields
    simp only [Fields.reduced, elements, seen_enter, seen_blame, seen_addConstructor, same]
    simp only [emptyEntry, Entry.seen, Decl.seen, Token.plainName_rawName, Token.rawName_rawName]

lemma addEnum_seen {s t : Survey} (same : s.seen = t.seen) (placed : Scoped EnumItem) :
    (s.addEnum (placed.map EnumItem.reduced)).seen = (t.addEnum placed).seen := by
  have marks : TypeMarks.ofAttributes (placed.map EnumItem.reduced).item.attributes =
      TypeMarks.ofAttributes placed.item.attributes := TypeMarks.ofAttributes_helpers _
  rw [addEnum, addEnum, marks, seen_enter, seen_enter, seen_blame, seen_blame, same]
  simp only [Scoped.map, EnumItem.reduced, emptyEntry, Entry.seen, Decl.seen,
    Token.plainName_rawName, Token.rawName_rawName]

lemma addTrait_seen {s t : Survey} (same : s.seen = t.seen) (placed : Scoped TraitItem) :
    (s.addTrait (placed.map TraitItem.reduced)).seen = (t.addTrait placed).seen := by
  rw [addTrait, addTrait, seen_enter, seen_enter, same]
  simp only [Scoped.map, TraitItem.reduced, emptyEntry, Entry.seen, Decl.seen,
    Token.plainName_rawName, Token.rawName_rawName]

lemma addFunction_seen {s t : Survey} (same : s.seen = t.seen) (scope : Namespace)
    (key typeName : String) (member : ImplMember) :
    (addFunction names scope key typeName s member.reduced).seen =
      (addFunction names scope key typeName t member).seen := by
  cases member with
  | other code => exact same
  | function function =>
    rw [ImplMember.reduced]
    by_cases method : function.isMethod = true
    · have passed : function.isConstructor typeName = false := by
        rw [Function.isConstructor, method, Bool.not_true, Bool.false_and]
      simp only [if_pos method, addFunction, passed, Bool.false_eq_true, if_false, same]
    · rw [if_neg method, addFunction, addFunction, Function.isConstructor_reduced]
      split
      · obtain ⟨faults, parameters⟩ := function.parameters_seen names scope
        have name : function.reduced.name = Token.rawName function.name := rfl
        simp only [faults, Function.constructor_seen {} typeName parameters, name]
        rw [seen_addConstructor, seen_addConstructor, seen_blame, seen_blame, seen_amend,
          seen_amend, same]
        · simp only [WrittenConstructor.seen, Option.map_some, parameters, Token.rawName_rawName]
        · exact fun entry => rfl
        · exact fun entry => rfl
      · exact same

/-- Surveys that are seen alike have the same entries, up to what is not seen. -/
lemma get?_entries_seen {s t : Survey} (same : s.seen = t.seen) (key : String) :
    (s.entries.get? key = none ∧ t.entries.get? key = none) ∨
      ∃ entry entry', s.entries.get? key = some entry ∧ t.entries.get? key = some entry' ∧
        entry.definition = entry'.definition := by
  have entries : (s.entries.get? key).map Entry.seen = (t.entries.get? key).map Entry.seen := by
    rw [← Table.get?_map s.entries (fun _ => Entry.seen), ← Table.get?_map t.entries
      (fun _ => Entry.seen)]
    exact congrArg (fun u : Survey => u.entries.get? key) same
  cases found : s.entries.get? key with
  | none =>
    rw [found, Option.map_none, eq_comm, Option.map_eq_none_iff] at entries
    exact Or.inl ⟨rfl, entries⟩
  | some entry =>
    rw [found, Option.map_some, eq_comm, Option.map_eq_some_iff] at entries
    obtain ⟨entry', found', alike⟩ := entries
    have definition : entry'.seen.definition = entry.seen.definition := by rw [alike]
    exact Or.inr ⟨entry, entry', rfl, found', definition.symm⟩

lemma foldl_seen {α : Type} {reduce : α → α} {step : Survey → α → Survey}
    (sees : ∀ {s t : Survey}, s.seen = t.seen → ∀ x, (step s (reduce x)).seen = (step t x).seen)
    {s t : Survey} (same : s.seen = t.seen) (entered : List α) :
    ((entered.map reduce).foldl step s).seen = (entered.foldl step t).seen := by
  induction entered generalizing s t with
  | nil => exact same
  | cons x rest ih => exact ih (sees same x)

lemma addImpl_seen {s t : Survey} (same : s.seen = t.seen) (placed : Scoped ImplItem) :
    (addImpl names s (placed.map ImplItem.reduced)).seen = (addImpl names t placed).seen := by
  have self : (placed.map ImplItem.reduced).item.self = placed.item.self := rfl
  have interface : (placed.map ImplItem.reduced).item.interface = placed.item.interface := rfl
  have scope : (placed.map ImplItem.reduced).scope = placed.scope := rfl
  have members : (placed.map ImplItem.reduced).item.members =
      placed.item.members.map ImplMember.reduced := rfl
  rw [addImpl, addImpl, self, interface, scope, members]
  split
  · rename_i path _
    simp only
    rcases get?_entries_seen same (path.typePath names placed.scope).definitionName with
      ⟨missing, missing'⟩ | ⟨entry, entry', found, found', alike⟩
    · rw [missing, missing']
      exact same
    · rw [found, found']
      cases placed.item.interface with
      | some implemented =>
        simp only
        split
        · exact same
        · rw [seen_amend, seen_amend, same]
          · exact fun entry => rfl
          · exact fun entry => rfl
      | none =>
        have name : entry.definition.name = entry'.definition.name := by rw [alike]
        simp only [name]
        exact foldl_seen (addFunction_seen · placed.scope _ _) same placed.item.members
  · exact same

lemma ofItems_seen (items : ScopedItems) : (ofItems items.reduced).seen = (ofItems items).seen := by
  rw [ofItems, ofItems, declaredNames_reduced]
  refine foldl_seen addImpl_seen ?_ items.impls
  refine foldl_seen addTrait_seen ?_ items.traits
  refine foldl_seen addEnum_seen ?_ items.enums
  exact foldl_seen addStruct_seen rfl items.structs

end Survey

/-! ## The inventory -/

namespace WrittenConstructor

lemma widest?_seen (constructors : List WrittenConstructor) :
    widest? (constructors.map seen) = (widest? constructors).map seen := by
  have wider_seen : ∀ first second : WrittenConstructor,
      wider first.seen second.seen = (wider first second).seen := by
    intro first second
    simp only [wider, seen, List.length_map]
    split <;> rfl
  cases constructors with
  | nil => rfl
  | cons first rest =>
    simp only [List.map_cons, widest?, Option.map_some]
    induction rest generalizing first with
    | nil => rfl
    | cons second rest ih => rw [List.map_cons, List.foldl_cons, wider_seen, ih, List.foldl_cons]

lemma table_seen (c : WrittenConstructor) :
    c.seen.table = c.table.map fun entry => (entry.1, entry.2.seen) := by
  have zipped : c.seen.members.zipIdx = c.members.zipIdx.map (Prod.map DeclaredMember.seen id) :=
    List.zipIdx_map ..
  rw [table, zipped, List.foldl_map, table]
  exact (Table.map_foldl_set MemberDecl.seen (fun entry => entry.1.member.name)
    (fun entry => { entry.1.decl with access := .position entry.2 }) c.members.zipIdx []).symm

end WrittenConstructor

def Inventory.seen (inv : Inventory) : Inventory :=
  { inv with decls := inv.decls.map fun entry => (entry.1, entry.2.seen) }

namespace Survey

lemma settledDecl_seen (s : Survey) (key : String) (decl : Decl) :
    s.seen.settledDecl key decl.seen = (s.settledDecl key decl).seen := by
  have listed : s.seen.constructors.get? key =
      (s.constructors.get? key).map (·.map WrittenConstructor.seen) :=
    Table.get?_map s.constructors (fun _ => List.map WrittenConstructor.seen) key
  have widest : (s.seen.constructors.get? key).bind WrittenConstructor.widest? =
      ((s.constructors.get? key).bind WrittenConstructor.widest?).map WrittenConstructor.seen := by
    rw [listed]
    cases s.constructors.get? key with
    | none => rfl
    | some constructors => exact WrittenConstructor.widest?_seen constructors
  have shape : decl.seen.shape = decl.shape := rfl
  rw [settledDecl, settledDecl, widest, shape]
  cases decl.shape with
  | tuple =>
    cases (s.constructors.get? key).bind WrittenConstructor.widest? with
    | none => rfl
    | some c =>
      simp only [Option.map_some, Decl.seen, WrittenConstructor.table_seen]
      rfl
  | named | unit | enumeration | interface => rfl

lemma baseFault?_seen (s : Survey) (entry : Entry) :
    s.seen.baseFault? entry.seen = s.baseFault? entry := by
  have part : entry.seen.decl.base = entry.decl.base.map (·.seen) := rfl
  rw [baseFault?, baseFault?, part]
  cases entry.decl.base with
  | none => rfl
  | some part =>
    have declared : s.seen.entries.get? part.seen.path.definitionName =
        (s.entries.get? part.path.definitionName).map Entry.seen :=
      Table.get?_map s.entries (fun _ => Entry.seen) _
    simp only [Option.map_some, declared]
    cases s.entries.get? part.path.definitionName <;> rfl

lemma seen_inventory (s : Survey) : s.seen.inventory = s.inventory.map Inventory.seen := by
  have links : s.seen.entries.values.filterMap s.seen.baseFault? =
      s.entries.values.filterMap s.baseFault? := by
    simp only [seen, Table.values, List.map_map, List.filterMap_map]
    exact List.filterMap_congr fun entry _ => s.baseFault?_seen entry.2
  have faults : s.seen.allFaults = s.allFaults := by
    rw [allFaults, allFaults, links]
    rfl
  have definitions : s.seen.entries.values.map (·.definition) =
      s.entries.values.map (·.definition) := by
    simp only [seen, Table.values, List.map_map]
    rfl
  have decls : (s.seen.entries.map fun entry =>
      (entry.1, s.seen.settledDecl entry.1 entry.2.decl)) =
      (s.entries.map fun entry => (entry.1, s.settledDecl entry.1 entry.2.decl)).map
        fun entry => (entry.1, entry.2.seen) := by
    simp only [seen, List.map_map]
    exact List.map_congr_left fun entry _ => Prod.ext rfl (s.settledDecl_seen entry.1 entry.2.decl)
  rw [inventory, inventory, faults, definitions]
  split
  · simp only
    cases Builder.build { types := s.entries.values.map (·.definition) } with
    | error fault => rfl
    | ok schema => exact congrArg (fun decls => Except.ok (Inventory.mk schema decls)) decls
  · rfl

end Survey

/-- The inventory of reduced items is seen as that of the items themselves, and is refused for the
same faults. -/
lemma Inventory.ofItems_seen (root : Namespace) (items : List Item) :
    (Inventory.ofItems root (Item.reducedAll items)).map Inventory.seen =
      (Inventory.ofItems root items).map Inventory.seen := by
  rw [ofItems, ofItems, scopedItems_eq, scopedItems_eq, Item.scopedIn_reducedAll,
    ← Survey.seen_inventory, ← Survey.seen_inventory, Survey.ofItems_seen]

end MemberMapping
