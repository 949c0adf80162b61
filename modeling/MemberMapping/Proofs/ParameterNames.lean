import MemberMapping.Proofs.NameCharacters
import MemberMapping.Proofs.PrintedFunctions
import MemberMapping.Proofs.RecordConstruction
import MemberMapping.Proofs.Respelling

/-!
The names that a generated constructor binds.

The context comes first, then the source, then a parameter for each member that the source has
nothing for. The source goes by the name of its type in snake case, unless a parameter is written
like that. A raw name is written in another way and is the same name. So where names are distinct in
the program, those of the constructor are distinct unless the source has a raw namesake among the
parameters, or a name that was made up for a parameter is that of another one.
-/

namespace MemberMapping

/-! ## Names in a program -/

/-- Names that begin like this are kept for generated code. -/
def IsReserved (name : String) : Prop := "__mapto_".toList <+: name.toList

instance (name : String) : Decidable (IsReserved name) :=
  inferInstanceAs (Decidable (_ <+: _))

def Parameter.name? : Parameter → Option String
  | .typed _ _ name _ => name.map Token.plainName
  | _ => none

def Function.parameterNames (function : Function) : List String :=
  function.parameters.filterMap (·.name?)

/-- Every parameter is given a name. -/
def Function.NamesParameters (function : Function) : Prop :=
  ∀ attributes pattern ty, .typed attributes pattern none ty ∉ function.parameters

namespace ScopedItems

/-- The fields of a struct have distinct names, and so have the parameters of a function. None of
the names is reserved. -/
structure NamesApart (items : ScopedItems) : Prop where
  fields : ∀ placed ∈ items.structs, ∀ fields trailing,
    placed.item.fields = .named fields trailing → Field.Distinct fields ∧
      ∀ field ∈ fields, ∀ name ∈ field.name, ¬ IsReserved (Token.plainName name)
  parameters : ∀ placed ∈ items.impls, ∀ function, .function function ∈ placed.item.members →
    function.parameterNames.Nodup ∧ ∀ name ∈ function.parameterNames, ¬ IsReserved name

/-- Every parameter of a function is given a name. -/
def NamesParameters (items : ScopedItems) : Prop :=
  ∀ placed ∈ items.impls, ∀ function, .function function ∈ placed.item.members →
    function.NamesParameters

end ScopedItems

/-! ## Bindings of declared members -/

/-- Members that are bound to one identifier go by one name, and no binding is reserved. -/
structure LabelsApart (labels : List (String × String)) : Prop where
  apart : ∀ one ∈ labels, ∀ other ∈ labels,
    Token.plainName one.2 = Token.plainName other.2 → one.1 = other.1
  free : ∀ label ∈ labels, ¬ IsReserved (Token.plainName label.2)

lemma LabelsApart.of_plain {labels : List (String × String)}
    (plain : ∀ label ∈ labels, label.1 = Token.plainName label.2)
    (free : ∀ label ∈ labels, ¬ IsReserved label.1) : LabelsApart labels := by
  refine ⟨?_, ?_⟩
  · intro one listed other known same
    rw [plain one listed, plain other known, same]
  · intro label listed
    rw [← plain label listed]
    exact free label listed

lemma not_isReserved_of_head {name : String} {first : Char} {rest : List Char}
    (begins : name.toList = first :: rest) (other : first ≠ '_') : ¬ IsReserved name := by
  intro reserved
  rw [IsReserved, begins] at reserved
  exact other (List.cons_prefix_cons.mp reserved).1.symm

/-- The mark of a raw name is not in a name that begins in another way. -/
lemma Token.plainName_of_head {name : String} {first : Char} {rest : List Char}
    (begins : name.toList = first :: rest) (other : first ≠ 'r') : plainName name = name := by
  rw [plainName, if_neg]
  intro marked
  have front := (String.startsWith_string_iff (s := name)).mp marked
  rw [begins] at front
  exact other (List.cons_prefix_cons.mp front).1.symm

lemma Token.eq_or_raw_of_plainName {written name : String} (plain : plainName written = name) :
    written = name ∨ written = "r#" ++ name := by
  rw [plainName] at plain
  split at plain
  · rename_i marked
    obtain ⟨rest, letters⟩ := (String.startsWith_string_iff (s := written)).mp marked
    have unmarked : name.toList = rest := by
      rw [← plain, ← letters, String.toList_ofList]
      rfl
    right
    rw [← String.toList_inj, String.toList_append, unmarked]
    exact letters.symm
  · exact .inl plain

lemma elementLabels_apart (count : Nat) : LabelsApart (elementLabels 0 count) := by
  have letters : ∀ position : Nat, ("field_" ++ toString position).toList =
      'f' :: "ield_".toList ++ (toString position).toList :=
    fun position => String.toList_append ..
  have plain : ∀ position : Nat, Token.plainName ("field_" ++ toString position) =
      "field_" ++ toString position :=
    fun position => Token.plainName_of_head (letters position) (by decide)
  refine ⟨?_, ?_⟩
  · intro one listed other known same
    obtain ⟨m, _, rfl⟩ := List.mem_map.mp listed
    obtain ⟨n, _, rfl⟩ := List.mem_map.mp known
    rw [plain, plain] at same
    exact String.append_right_inj "field_" |>.mp same
  · intro label listed
    obtain ⟨n, _, rfl⟩ := List.mem_map.mp listed
    rw [plain]
    exact not_isReserved_of_head (letters n) (by decide)

lemma Function.labels_apart {function : Function} {names : DeclaredNames} {scope : Namespace}
    (free : ∀ name ∈ function.parameterNames, ¬ IsReserved name) (label : Option String) :
    LabelsApart (WrittenConstructor.mk label
      (successes (function.declaredParameters names scope))).labels := by
  refine .of_plain ?_ ?_
  · intro entry listed
    obtain ⟨m, present, rfl⟩ := List.mem_map.mp listed
    obtain ⟨_, _, _, _, _, _, _, called⟩ := Function.parameter_of_declared present
    exact called
  · intro entry listed
    obtain ⟨m, present, rfl⟩ := List.mem_map.mp listed
    obtain ⟨attributes, pattern, name, ty, position, written, bound, called⟩ :=
      Function.parameter_of_declared present
    rw [called, bound]
    cases name with
    | some name => exact free _ (List.mem_filterMap.mpr ⟨_, written, rfl⟩)
    | none =>
      have letters : ("arg_" ++ toString position).toList =
          'a' :: "rg_".toList ++ (toString position).toList := String.toList_append ..
      rw [Option.getD_none, Token.plainName_of_head letters (by decide)]
      exact not_isReserved_of_head letters (by decide)

lemma Function.names_nodup {function : Function} (named : function.NamesParameters)
    (distinct : function.parameterNames.Nodup) (names : DeclaredNames) (scope : Namespace)
    (label : Option String) :
    (WrittenConstructor.mk label
      (successes (function.declaredParameters names scope))).names.Nodup := by
  have unplaced : function.parameterNames =
      function.parameters.zipIdx.filterMap fun placed => placed.1.name? := by
    have parameters := List.zipIdx_map_fst 0 function.parameters
    rw [parameterNames, ← parameters, List.filterMap_map, parameters]
    rfl
  rw [unplaced] at distinct
  rw [WrittenConstructor.names, successes, declaredParameters, List.filterMap_filterMap,
    List.map_filterMap]
  refine distinct.sublist (filterMap_sublist_of_imp ?_)
  rintro ⟨parameter, position⟩ listed called read
  have written : parameter ∈ function.parameters :=
    (List.mem_zipIdx' listed).2 ▸ List.getElem_mem _
  obtain ⟨m, found, rfl⟩ := Option.map_eq_some_iff.mp read
  obtain ⟨outcome, declared, succeeded⟩ := Option.bind_eq_some_iff.mp found
  cases outcome with
  | error faults => cases succeeded
  | ok other =>
    cases succeeded
    obtain ⟨attributes, pattern, name, ty, rfl, bound, called⟩ :=
      Parameter.name_of_declared declared
    cases name with
    | none => exact absurd written (named attributes pattern ty)
    | some name => rw [called, bound]; rfl

lemma ScopedItems.function_of_functionsOf {items : ScopedItems} {key typeName : String}
    {pair : Constructor × WrittenConstructor} (listed : pair ∈ items.functionsOf key typeName) :
    ∃ placed ∈ items.impls, ∃ function, .function function ∈ placed.item.members ∧
      pair.2 = ⟨some function.name, successes (function.declaredParameters
        (Survey.declaredNames items) placed.scope)⟩ := by
  obtain ⟨placed, among, added⟩ := List.mem_flatMap.mp listed
  rw [ImplItem.constructors] at added
  split at added
  · split at added
    · obtain ⟨member, known, found⟩ := List.mem_filterMap.mp added
      cases member with
      | other code => cases found
      | function declared =>
        rw [ImplMember.constructor?] at found
        split at found
        · cases found
          exact ⟨placed, among, declared, known, rfl⟩
        · cases found
    · cases added
  · cases added

/-! ## Targets -/

def Decl.Binds (decl : Decl) (name identifier : String) : Prop :=
  ∃ member, decl.members.get? name = some member ∧ Token.plainName member.binding = identifier

/-- Each member of a declaration is bound to an identifier of its own, which is not reserved. -/
structure Decl.BindsApart (decl : Decl) : Prop where
  unique : Relator.BiUnique decl.Binds
  free : ∀ name identifier, decl.Binds name identifier → ¬ IsReserved identifier

lemma Decl.bindsApart_of_labels {decl : Decl} {labels : List (String × String)}
    (apart : LabelsApart labels)
    (labelled : ∀ name member, decl.members.get? name = some member →
      (name, member.binding) ∈ labels) : decl.BindsApart := by
  refine ⟨⟨?_, ?_⟩, ?_⟩
  · intro one other identifier bound bound'
    obtain ⟨member, found, same⟩ := bound
    obtain ⟨member', found', same'⟩ := bound'
    exact apart.apart _ (labelled one member found) _ (labelled other member' found')
      (same.trans same'.symm)
  · intro name one other bound bound'
    obtain ⟨member, found, rfl⟩ := bound
    obtain ⟨member', found', rfl⟩ := bound'
    rw [Option.some.inj (found.symm.trans found')]
  · rintro name identifier ⟨member, found, rfl⟩
    exact apart.free (name, member.binding) (labelled name member found)

namespace Inventory

variable {root : Namespace} {items : List Item} {inv : Inventory}

lemma Named.bindsApart {names : DeclaredNames} {scope : Namespace} {fields : List Field}
    {target : TypeDef} {decl : Decl} (named : inv.Named names scope fields target decl)
    (free : ∀ field ∈ fields, ∀ name ∈ field.name, ¬ IsReserved (Token.plainName name)) :
    decl.BindsApart := by
  have labels : LabelsApart ((fields.filterMap (Field.member? names scope)).map
      fun m => (m.member.name, m.decl.binding)) := by
    refine .of_plain ?_ ?_
    · intro label listed
      obtain ⟨m, known, rfl⟩ := List.mem_map.mp listed
      obtain ⟨field, _, read⟩ := List.mem_filterMap.mp known
      exact (Field.declares_of_member? names scope read).name
    · intro label listed
      obtain ⟨m, known, rfl⟩ := List.mem_map.mp listed
      obtain ⟨field, present, read⟩ := List.mem_filterMap.mp known
      have declares := Field.declares_of_member? names scope read
      rw [declares.name]
      exact free field present _ declares.called
  refine Decl.bindsApart_of_labels labels fun name member found => ?_
  have listed := Table.mem_of_get? found
  rw [named.members] at listed
  obtain ⟨m, known, same⟩ := List.mem_map.mp listed
  cases same
  exact List.mem_map.mpr ⟨m, known, rfl⟩

lemma Tuple.bindsApart (ready : Inventory.ofItems root items = .ok inv) {target : TypeDef}
    {decl : Decl} {own used : WrittenConstructor}
    (tuple : inv.Tuple (scopedItems root items) own target decl used)
    (apart : (scopedItems root items).NamesApart) : decl.BindsApart := by
  have labels : LabelsApart used.labels := by
    rcases List.mem_append.mp (WrittenConstructor.mem_of_widest? tuple.widest) with itself | listed
    · rw [(labels_of_tuplesOf ready itself).2]
      exact elementLabels_apart _
    · obtain ⟨pair, known, rfl⟩ := List.mem_map.mp listed
      obtain ⟨placed, among, function, declared, written⟩ :=
        ScopedItems.function_of_functionsOf known
      rw [written]
      exact Function.labels_apart (apart.parameters placed among function declared).2 _
  refine Decl.bindsApart_of_labels labels fun name member found => ?_
  rw [tuple.members] at found
  rcases Table.get?_foldl_set found with none | ⟨⟨m, position⟩, listed, rfl, rfl⟩
  · cases none
  · exact List.mem_map.mpr ⟨m, List.fst_mem_of_mem_zipIdx listed, rfl⟩

lemma Targets.listed {items : ScopedItems} {placed : Scoped StructItem} {target : TypeDef}
    {decl : Decl} (targets : inv.Targets items placed target decl) : placed ∈ items.structs := by
  have among := items.mem_of_get?_kept (items.mem_lastItems_iff.mp targets.held)
  simpa [ScopedItems.typeItems] using among

lemma Targets.unit {items : ScopedItems} {placed : Scoped StructItem} {target : TypeDef}
    {decl : Decl} (targets : inv.Targets items placed target decl)
    (form : placed.item.fields = .unit) :
    decl.members = [] ∧ inv.schema.targetMembers target = [] := by
  have written : decl = (placed.item.entry (Survey.declaredNames items) placed.scope).decl := by
    refine Decl.eq_of_ownPart targets.item.written ?_
    simp [StructItem.entry, form, emptyEntry]
  have members : target.ownPart.members = _ := congrArg TypeDef.members targets.item.definition
  have kind : target.ownPart.kind = _ := congrArg TypeDef.kind targets.item.definition
  simp only [TypeItem.entry, StructItem.entry, form, emptyEntry, TypeDef.ownPart, TypeDef.stamped]
    at members kind
  refine ⟨?_, ?_⟩
  · simp [written, StructItem.entry, form, emptyEntry]
  · rw [Schema.targetMembers, Schema.kindMembers, kind, members]
    rfl

lemma Targets.bindsApart (ready : Inventory.ofItems root items = .ok inv)
    {placed : Scoped StructItem} {target : TypeDef} {decl : Decl}
    (known : target ∈ inv.schema.types)
    (targets : inv.Targets (scopedItems root items) placed target decl)
    (apart : (scopedItems root items).NamesApart) : decl.BindsApart := by
  have listed := targets.listed
  cases form : placed.item.fields with
  | named fields trailing =>
    obtain ⟨distinct, free⟩ := apart.fields placed listed fields trailing form
    exact (targets.named form distinct).bindsApart free
  | positional fields trailing =>
    have itself : placed.item.tuple? (Survey.declaredNames (scopedItems root items)) placed.scope =
        some ⟨none, successes (elementsFrom (Survey.declaredNames (scopedItems root items))
          placed.scope 0 fields)⟩ := by
      rw [StructItem.tuple?, form]
    obtain ⟨used, tuple⟩ := targets.tuple ready known itself
    exact tuple.bindsApart ready apart
  | unit =>
    obtain ⟨none, _⟩ := targets.unit form
    have labels : LabelsApart [] := .of_plain (by simp) (by simp)
    refine Decl.bindsApart_of_labels labels fun name member found => ?_
    rw [none] at found
    cases found

end Inventory

/-! ## Further parameters -/

/-- The names of the members that are taken as parameters. -/
def MappingModel.extraNames (model : MappingModel) : List String :=
  model.extraParameters.map (·.name)

lemma Schema.extraNames_plan (s : Schema) (target source : TypeDef) (options : Options) :
    (s.plan target source options).extraNames.Sublist
      ((s.targetMembers target).map (·.name)) := by
  have extras : (s.plan target source options).extraNames =
      (s.targetMembers target).filterMap fun member =>
        (extraParameter? (s.sourceCandidates source) member).map (·.name) :=
    List.map_filterMap
  rw [extras, ← List.filterMap_eq_map]
  refine filterMap_sublist_of_imp ?_
  intro member _ name taken
  obtain ⟨extra, found, rfl⟩ := Option.map_eq_some_iff.mp taken
  rw [name_of_extraParameter? found]
  rfl

/-- Each member that is taken has a name of its own and is declared at the target. -/
structure MappingModel.ExtrasKnown (model : MappingModel) (decl : Decl) : Prop where
  distinct : model.extraNames.Nodup
  declared : ∀ name ∈ model.extraNames, name ∈ decl.members.keys

namespace Inventory

variable {root : Namespace} {items : List Item} {inv : Inventory} {placed : Scoped StructItem}
  {target source : TypeDef} {decl : Decl}

lemma Targets.extrasKnown {items : ScopedItems} (targets : inv.Targets items placed target decl)
    (apart : items.NamesApart)
    (untupled : placed.item.tuple? (Survey.declaredNames items) placed.scope = none)
    (options : Options) : (inv.schema.plan target source options).ExtrasKnown decl := by
  have some := inv.schema.extraNames_plan target source options
  cases form : placed.item.fields with
  | positional fields trailing =>
    rw [StructItem.tuple?, form] at untupled
    cases untupled
  | unit =>
    rw [(targets.unit form).2, List.map_nil, List.sublist_nil] at some
    refine ⟨some ▸ List.nodup_nil, ?_⟩
    rw [some]
    exact fun name none => absurd none List.not_mem_nil
  | named fields trailing =>
    obtain ⟨distinct, _⟩ := apart.fields placed targets.listed fields trailing form
    have named := targets.named form distinct
    refine ⟨(named.targets_distinct distinct).sublist some, fun name taken => ?_⟩
    obtain ⟨member, present, rfl⟩ := List.mem_map.mp (some.subset taken)
    rw [named.targets] at present
    obtain ⟨m, known, rfl⟩ := List.mem_map.mp (List.mem_filter.mp present).1
    rw [Table.keys, named.members, List.map_map]
    exact List.mem_map_of_mem known

lemma Tuple.extraNames_sublist {own used w : WrittenConstructor} {c : Constructor}
    (tuple : inv.Tuple (scopedItems root items) own target decl used)
    (chosen : target.widestConstructor? = some c) (stands : c.Stands w) (options : Options) :
    (inv.schema.plan target source options).extraNames.Sublist w.names := by
  rw [← names_of_stands stands.params]
  refine (inv.schema.extraNames_plan target source options).trans ?_
  rw [tuple.targetMembers chosen]
  exact List.filter_sublist.map _

/-- The constructors of a tuple struct have distinct names of parameters if these are all given. -/
lemma Tuple.names_nodup (ready : Inventory.ofItems root items = .ok inv)
    {own used w : WrittenConstructor}
    (tuple : inv.Tuple (scopedItems root items) own target decl used)
    (widest : WrittenConstructor.widest?
      (own :: ((scopedItems root items).functionsOf target.fullName target.name).map (·.2)) =
        some w)
    (apart : (scopedItems root items).NamesApart)
    (given : (scopedItems root items).NamesParameters) : w.names.Nodup := by
  rcases List.mem_cons.mp (WrittenConstructor.mem_of_widest? widest) with rfl | listed
  · exact nodup_names_of_tuplesOf ready (List.mem_of_getLast? tuple.last)
  · obtain ⟨pair, known, rfl⟩ := List.mem_map.mp listed
    obtain ⟨placed, among, function, declared, written⟩ :=
      ScopedItems.function_of_functionsOf known
    rw [written]
    exact Function.names_nodup (given placed among function declared)
      (apart.parameters placed among function declared).1 _ _ _

end Inventory

/-! ## Bindings of a generated constructor -/

namespace Emission

variable {e : Emission}

/-- A member is taken by the parameter that is bound to it, with the type that is written for it. -/
def TakenBy (e : Emission) (extra : ExtraParameter) (parameter : String × TypeExpr) : Prop :=
  ∃ member, e.target.members.get? extra.name = some member ∧
    parameter = (member.binding, member.ty)

/-- There is one parameter for each member that is taken, and the names that are bound are distinct,
also with the mark of a raw name taken off. -/
structure BindsProperly (e : Emission) : Prop where
  one_each : List.Forall₂ e.TakenBy e.model.extraParameters e.code.parameters
  distinct : (e.code.bindings.map Token.plainName).Nodup

/-- There is a parameter for each member that is taken if they all are declared. -/
lemma one_each_iff :
    List.Forall₂ e.TakenBy e.model.extraParameters e.code.parameters ↔
      ∀ name ∈ e.model.extraNames, name ∈ e.target.members.keys := by
  constructor
  · intro each name taken
    obtain ⟨extra, listed, rfl⟩ := List.mem_map.mp taken
    obtain ⟨parameter, _, member, found, _⟩ := exists_beside each listed
    exact List.mem_map.mpr ⟨_, Table.mem_of_get? found, rfl⟩
  · intro declared
    rw [code, List.forall₂_map_right_iff]
    refine forall₂_filterMap fun extra listed => ?_
    have known := declared extra.name (List.mem_map_of_mem listed)
    obtain ⟨member, found⟩ := Table.exists_get?_of_mem_keys known
    exact ⟨member, found, member, found, rfl⟩

lemma binds_of_parameter {parameter : String × TypeExpr} (listed : parameter ∈ e.code.parameters) :
    ∃ name, e.target.Binds name (Token.plainName parameter.1) := by
  obtain ⟨member, known, rfl⟩ := List.mem_map.mp listed
  obtain ⟨extra, _, found⟩ := List.mem_filterMap.mp known
  exact ⟨extra.name, member, found, rfl⟩

/-- Where all members that are taken are declared, each one is bound by its parameter. -/
lemma binds_beside (declared : ∀ name ∈ e.model.extraNames, name ∈ e.target.members.keys) :
    List.Forall₂ e.target.Binds e.model.extraNames
      (e.code.parameters.map fun parameter => Token.plainName parameter.1) := by
  rw [MappingModel.extraNames, List.forall₂_map_left_iff, List.forall₂_map_right_iff]
  refine (one_each_iff.mpr declared).imp fun extra parameter known => ?_
  obtain ⟨member, found, rfl⟩ := known
  exact ⟨member, found, rfl⟩

/-- The source goes by a word in snake case that is no parameter, or else by a reserved name. -/
lemma source_cases (e : Emission) :
    e.code.source = MappingCode.anonymousSource ∨
      Token.plainName e.code.source = e.code.source ∧ ¬ IsReserved e.code.source ∧
        e.code.source ∉ e.code.parameters.map (·.1) := by
  have source : e.code.source = e.sourceBinding := rfl
  rw [source, sourceBinding]
  split
  · rename_i word
    rw [Bool.and_eq_true, Bool.not_eq_true'] at word
    obtain ⟨isName, unbound⟩ := word
    have identifier := (Bool.and_eq_true_iff.mp isName).1
    refine .inr ⟨Token.plainName_of_parts (Text.Parts.of_identifier identifier), ?_, ?_⟩
    · intro reserved
      obtain ⟨rest, letters⟩ := reserved
      apply Text.head?_snakeCase e.model.sourceTypeName
      rw [← letters]
      rfl
    · intro bound
      obtain ⟨parameter, listed, same⟩ := List.mem_map.mp bound
      obtain ⟨member, known, rfl⟩ := List.mem_map.mp listed
      exact List.any_eq_false.mp unbound member known (beq_iff_eq.mpr same)
  · exact .inl rfl

lemma plainName_source (e : Emission) : Token.plainName e.code.source = e.code.source := by
  rcases e.source_cases with anonymous | ⟨plain, _⟩
  · have letters : MappingCode.anonymousSource.toList = '_' :: "_mapto_source".toList := rfl
    rw [anonymous]
    exact Token.plainName_of_head letters (by decide)
  · exact plain

/-- A parameter is the source under another spelling if it is the raw name of the source. -/
lemma source_bound_iff (apart : e.target.BindsApart) :
    e.code.source ∈ (e.code.parameters.map fun parameter => Token.plainName parameter.1) ↔
      "r#" ++ e.code.source ∈ e.code.parameters.map (·.1) := by
  constructor
  · intro bound
    obtain ⟨parameter, listed, same⟩ := List.mem_map.mp bound
    obtain ⟨name, binds⟩ := binds_of_parameter listed
    rcases e.source_cases with anonymous | ⟨_, _, unbound⟩
    · have reserved : IsReserved (Token.plainName parameter.1) := by
        rw [same, anonymous]
        decide
      exact absurd reserved (apart.free name _ binds)
    · -- Only the name as it stands was looked for among the parameters.
      rcases Token.eq_or_raw_of_plainName same with plain | raw
      · exact absurd (List.mem_map.mpr ⟨parameter, listed, plain⟩) unbound
      · exact List.mem_map.mpr ⟨parameter, listed, raw⟩
  · intro bound
    obtain ⟨parameter, listed, raw⟩ := List.mem_map.mp bound
    exact List.mem_map.mpr ⟨parameter, listed, by rw [raw, Token.plainName_raw]⟩

lemma context_unbound (apart : e.target.BindsApart) :
    MappingCode.context ∉
      e.code.source :: e.code.parameters.map fun parameter => Token.plainName parameter.1 := by
  have reserved : IsReserved MappingCode.context := by decide
  intro bound
  rcases List.mem_cons.mp bound with same | bound
  · rcases e.source_cases with anonymous | ⟨_, free, _⟩
    · rw [anonymous] at same
      revert same
      decide
    · exact free (same ▸ reserved)
  · obtain ⟨parameter, listed, same⟩ := List.mem_map.mp bound
    obtain ⟨name, binds⟩ := binds_of_parameter listed
    exact apart.free name _ binds (same ▸ reserved)

/-- A constructor binds one name for each member that is taken, all of them distinct, exactly if
these members are declared and have distinct names, and no parameter has the raw name of the
source. -/
lemma bindsProperly_iff (apart : e.target.BindsApart) :
    e.BindsProperly ↔ e.model.ExtrasKnown e.target ∧
      "r#" ++ e.code.source ∉ e.code.parameters.map (·.1) := by
  have bindings : e.code.bindings.map Token.plainName = MappingCode.context :: e.code.source ::
      e.code.parameters.map fun parameter => Token.plainName parameter.1 := by
    have letters : MappingCode.context.toList = '_' :: "_mapto_context".toList := rfl
    rw [MappingCode.bindings, List.map_cons, List.map_cons, List.map_map, plainName_source,
      Token.plainName_of_head letters (by decide)]
    rfl
  have alike : (∀ name ∈ e.model.extraNames, name ∈ e.target.members.keys) →
      (e.model.extraNames.Nodup ↔
        (e.code.parameters.map fun parameter => Token.plainName parameter.1).Nodup) :=
    fun declared => List.rel_nodup apart.unique (binds_beside declared)
  constructor
  · intro proper
    have declared := one_each_iff.mp proper.one_each
    have distinct := proper.distinct
    rw [bindings] at distinct
    obtain ⟨unbound, parameters⟩ := List.nodup_cons.mp (List.nodup_cons.mp distinct).2
    refine ⟨⟨(alike declared).mpr parameters, declared⟩, ?_⟩
    rwa [source_bound_iff apart] at unbound
  · rintro ⟨known, unbound⟩
    rw [← source_bound_iff apart] at unbound
    refine ⟨one_each_iff.mpr known.declared, ?_⟩
    rw [bindings]
    exact List.nodup_cons.mpr ⟨context_unbound apart,
      List.nodup_cons.mpr ⟨unbound, (alike known.declared).mp known.distinct⟩⟩

end Emission

/-- In a program of distinct names that are not reserved, a generated constructor has one parameter
for each member that is taken, and binds distinct names, exactly if these members have distinct
names and are declared, and no parameter has the raw name of the source. The members of a struct
that is no tuple are such. Those of a tuple struct have distinct names if the parameters of its
widest constructor do, and so if each parameter is given a name; they are declared if no other
tuple is declared under the name of the struct. The names are bound where the constructors are
printed, all of them by the one that takes a context, and all but the context by the other. -/
theorem bindings_distinct_iff {root : Namespace} {items : List Item} {inv : Inventory}
    {options : Options} {model : MappingModel} (ready : Inventory.ofItems root items = .ok inv)
    (apart : (scopedItems root items).NamesApart)
    (generated : model ∈ (generate inv.schema options).models) :
    ∃ placed e, .struct placed ∈ (scopedItems root items).lastItems ∧
      (TypeItem.struct placed).fullName = model.fullName ∧ inv.emission? model = some e ∧
      e.model = model ∧
      (∃ f, e.code.Constructs f) ∧ (e.code.secondary = true → ∃ f, e.code.Delegates f) ∧
      (e.BindsProperly ↔ model.ExtrasKnown e.target ∧
        "r#" ++ e.code.source ∉ e.code.parameters.map (·.1)) ∧
      (placed.item.tuple? (Survey.declaredNames (scopedItems root items)) placed.scope = none →
        model.ExtrasKnown e.target) ∧
      ∀ own, placed.item.tuple? (Survey.declaredNames (scopedItems root items)) placed.scope =
          some own →
        ∃ w, WrittenConstructor.widest? (own :: ((scopedItems root items).functionsOf
            model.fullName model.typeName).map (·.2)) = some w ∧
          (w.names.Nodup → model.extraNames.Nodup) ∧
          ((scopedItems root items).NamesParameters → w.names.Nodup) ∧
          (((scopedItems root items).tuplesOf model.fullName).length = 1 →
            ∀ name ∈ model.extraNames, name ∈ e.target.members.keys) := by
  obtain ⟨placed, target, source, decl, form, plans⟩ := Inventory.plans_of_generated ready generated
  obtain rfl := plans.plan
  have targets := plans.targets
  refine ⟨placed, _, targets.held, plans.fullName, plans.emitted, rfl,
    ⟨_, Printing.constructs _⟩, fun secondary => ⟨_, Printing.delegates _ secondary⟩,
    Emission.bindsProperly_iff (targets.bindsApart ready plans.known apart),
    fun untupled => targets.extrasKnown apart untupled options, ?_⟩
  intro own itself
  obtain ⟨used, tuple⟩ := targets.tuple ready plans.known itself
  obtain ⟨w, widest⟩ := WrittenConstructor.exists_widest? (List.cons_ne_nil own
    (((scopedItems root items).functionsOf target.fullName target.name).map (·.2)))
  obtain ⟨c, chosen, stands⟩ := TypeDef.widestConstructor?_stands tuple.constructors widest
  have taken : (inv.schema.plan target source options).extraNames.Sublist w.names :=
    tuple.extraNames_sublist chosen stands options
  refine ⟨w, widest, fun distinct => distinct.sublist taken, tuple.names_nodup ready widest apart,
    fun single name listed => ?_⟩
  rw [tuple.members, tuple.used_of_single widest single, WrittenConstructor.keys_table,
    List.mem_eraseDups]
  exact taken.subset listed

def leases (member : String) : List Item :=
  [.struct (.mapped [] "Lease" [.marked [] "id" "i32"]),
    .struct (.mapped [.ident "Lease"] "Rental" [.marked [] "id" "i32", .marked [] member "i32"])]

def leasesInventory (member : String) : Inventory :=
  (Inventory.ofItems ⟨"crate"⟩ (leases member)).toOption.getD ⟨⟨{}, []⟩, []⟩

def leaseNames : List String := ["lease", "r#lease"]

lemma leases_declared {member : String} (listed : member ∈ leaseNames) :
    Inventory.ofItems ⟨"crate"⟩ (leases member) = .ok (leasesInventory member) := by
  have accepted : ∀ member ∈ leaseNames,
      (Inventory.ofItems ⟨"crate"⟩ (leases member)).toOption.isSome = true := by decide +kernel
  exact Inventory.of_accepted _ (accepted member listed)

lemma leases_namesApart {member : String} (listed : member ∈ leaseNames) :
    (scopedItems ⟨"crate"⟩ (leases member)).NamesApart := by
  have structs : (scopedItems ⟨"crate"⟩ (leases member)).structs =
      [⟨⟨"crate"⟩, .mapped [] "Lease" [.marked [] "id" "i32"]⟩,
        ⟨⟨"crate"⟩, .mapped [.ident "Lease"] "Rental"
          [.marked [] "id" "i32", .marked [] member "i32"]⟩] := rfl
  have names : ∀ member ∈ leaseNames, [Token.plainName "id", Token.plainName member].Nodup ∧
      ¬ IsReserved (Token.plainName "id") ∧ ¬ IsReserved (Token.plainName member) := by
    decide +kernel
  obtain ⟨distinct, id, free⟩ := names member listed
  refine ⟨?_, fun placed none => absurd none List.not_mem_nil⟩
  intro placed among fields trailing form
  rw [structs] at among
  rcases List.mem_pair.mp among with rfl | rfl
  · cases form
    refine ⟨⟨by simp [Field.marked], by simp [Field.marked]⟩, ?_⟩
    simpa [Field.marked] using id
  · cases form
    refine ⟨⟨by simp [Field.marked], ?_⟩, ?_⟩
    · exact distinct
    · simpa [Field.marked] using ⟨id, free⟩

/-- A further member that is called like the source is written like it. So the source takes another
name. -/
theorem rental_bindings_distinct :
    Inventory.ofItems ⟨"crate"⟩ (leases "lease") = .ok (leasesInventory "lease") ∧
    (scopedItems ⟨"crate"⟩ (leases "lease")).NamesApart ∧
    ∃ model ∈ (generate (leasesInventory "lease").schema {}).models, ∃ e,
      (leasesInventory "lease").emission? model = some e ∧
      e.code.bindings = [MappingCode.context, MappingCode.anonymousSource, "lease"] ∧
      e.BindsProperly ∧ ∃ f, e.code.Constructs f ∧
        Token.Binds [MappingCode.context, MappingCode.anonymousSource, "lease"] f.parameters := by
  have planned : (generate (leasesInventory "lease").schema {}).models.isEmpty = false := by
    decide +kernel
  have rentals : ∀ model ∈ (generate (leasesInventory "lease").schema {}).models,
      model.fullName = "crate::Rental" := by decide +kernel
  have bound : ∀ model ∈ (generate (leasesInventory "lease").schema {}).models,
      ∀ e ∈ (leasesInventory "lease").emission? model,
        e.code.bindings = [MappingCode.context, MappingCode.anonymousSource, "lease"] ∧
        "r#" ++ e.code.source ∉ e.code.parameters.map (·.1) := by decide +kernel
  have listed : "lease" ∈ leaseNames := by decide
  have ready := leases_declared listed
  have apart := leases_namesApart listed
  obtain ⟨model, generated⟩ := List.isEmpty_eq_false_iff_exists_mem.mp planned
  obtain ⟨placed, e, held, same, emitted, _, ⟨f, constructs⟩, _, properly, untupled, _⟩ :=
    bindings_distinct_iff ready apart generated
  obtain ⟨bindings, unmarked⟩ := bound model generated e emitted
  have kept : (scopedItems ⟨"crate"⟩ (leases "lease")).kept.get? "crate::Rental" =
      some (.struct ⟨⟨"crate"⟩, .mapped [.ident "Lease"] "Rental"
        [.marked [] "id" "i32", .marked [] "lease" "i32"]⟩) := by
    with_unfolding_all rfl
  cases ScopedItems.eq_of_held _ held (same.trans (rentals model generated)) kept
  exact ⟨ready, apart, model, generated, e, emitted, bindings,
    properly.mpr ⟨untupled rfl, unmarked⟩, f, constructs, bindings ▸ constructs.bound⟩

/-- A further member with the raw name of the source is written in another way. So the source keeps
its name, and the constructor binds it twice. -/
theorem rental_lease_bound_twice :
    Inventory.ofItems ⟨"crate"⟩ (leases "r#lease") = .ok (leasesInventory "r#lease") ∧
    (scopedItems ⟨"crate"⟩ (leases "r#lease")).NamesApart ∧
    ∃ model ∈ (generate (leasesInventory "r#lease").schema {}).models, ∃ e,
      (leasesInventory "r#lease").emission? model = some e ∧
      e.code.bindings = [MappingCode.context, "lease", "r#lease"] ∧
      ¬ (e.code.bindings.map Token.plainName).Nodup := by
  have planned : (generate (leasesInventory "r#lease").schema {}).models.isEmpty = false := by
    decide +kernel
  have bound : ∀ model ∈ (generate (leasesInventory "r#lease").schema {}).models,
      ((leasesInventory "r#lease").emission? model).isSome = true ∧
      ∀ e ∈ (leasesInventory "r#lease").emission? model,
        e.code.bindings = [MappingCode.context, "lease", "r#lease"] := by decide +kernel
  have twice : ¬ ([MappingCode.context, "lease", "r#lease"].map Token.plainName).Nodup := by
    decide +kernel
  obtain ⟨model, generated⟩ := List.isEmpty_eq_false_iff_exists_mem.mp planned
  obtain ⟨some, each⟩ := bound model generated
  obtain ⟨e, emitted⟩ := Option.isSome_iff_exists.mp some
  have bindings := each e emitted
  refine ⟨leases_declared (by decide), leases_namesApart (by decide), model, generated, e, emitted,
    bindings, ?_⟩
  rw [bindings]
  exact twice

end MemberMapping
