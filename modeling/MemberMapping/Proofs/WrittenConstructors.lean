import MemberMapping.Proofs.FieldInitialisation

/-!
The constructors of a type, in the schema and as they are written.

A survey notes both one after another: the constructor that a tuple is by itself, and every function
of an implementation that returns the type. An item that takes the place of another drops what the
schema has of it, but not the tuples that were noted for the name before. The widest constructor is
chosen on either side.
-/

namespace MemberMapping

/-! ## Pairs of constructors -/

structure Member.Stands (p : Member) (m : DeclaredMember) : Prop where
  name : p.name = m.member.name
  ty : p.ty = m.member.ty
  markers : p.markers = m.member.markers

/-- A constructor in the schema is the written one: its parameters are those that are written, and
it is implicit exactly if it is the tuple itself. -/
structure Constructor.Stands (c : Constructor) (w : WrittenConstructor) : Prop where
  params : List.Forall₂ Member.Stands c.params w.members
  implicit : c.implicit = w.name.isNone

/-- The constructor that a struct is by itself, where it is a tuple. -/
def StructItem.tuple? (names : DeclaredNames) (scope : Namespace) (item : StructItem) :
    Option WrittenConstructor :=
  match item.fields with
  | .positional fields _ => some ⟨none, successes (elementsFrom names scope 0 fields)⟩
  | _ => none

/-- A struct that is a tuple is declared as one, with itself for its only constructor. -/
lemma StructItem.entry_tuple {names : DeclaredNames} {scope : Namespace} {item : StructItem}
    {own : WrittenConstructor} (itself : item.tuple? names scope = some own) :
    (item.entry names scope).decl.shape = .tuple ∧
      (item.entry names scope).definition.kind = .recordType ∧
      (item.entry names scope).definition.constructors = [tupleConstructor own.members] ∧
      own.name = none ∧ ∃ fields, item.fields.faults names scope =
        failures (elementsFrom names scope 0 fields) ∧
        own.members = successes (elementsFrom names scope 0 fields) := by
  rw [tuple?] at itself
  cases form : item.fields with
  | named fields trailing => rw [form] at itself; cases itself
  | unit => rw [form] at itself; cases itself
  | positional fields trailing =>
    rw [form] at itself
    cases itself
    rw [entry, form]
    exact ⟨rfl, rfl, rfl, rfl, fields, rfl, rfl⟩

def TypeItem.tuple? (names : DeclaredNames) : TypeItem → Option WrittenConstructor
  | struct placed => placed.item.tuple? names placed.scope
  | _ => none

/-- A constructor of the type `typeName`, in the schema and as it is written. -/
def ImplMember.constructor? (names : DeclaredNames) (scope : Namespace) (typeName : String) :
    ImplMember → Option (Constructor × WrittenConstructor)
  | .other _ => none
  | .function declared =>
    if declared.isConstructor typeName then
      let parameters := successes (declared.declaredParameters names scope)
      some (declared.constructor {} typeName parameters, ⟨some declared.name, parameters⟩)
    else none

/-- The constructors that an implementation adds to the type `typeName`, whose full name is `key`.
-/
def ImplItem.constructors (names : DeclaredNames) (key typeName : String)
    (placed : Scoped ImplItem) : List (Constructor × WrittenConstructor) :=
  match placed.item.self, placed.item.interface with
  | .path path, none =>
    if (path.typePath names placed.scope).definitionName = key then
      placed.item.members.filterMap (·.constructor? names placed.scope typeName)
    else []
  | _, _ => []

namespace ScopedItems

def tuplesOf (items : ScopedItems) (key : String) : List WrittenConstructor :=
  (items.typeItems.filter (·.fullName == key)).filterMap (·.tuple? (Survey.declaredNames items))

/-- The functions that construct the type `typeName`, whose full name is `key`. -/
def functionsOf (items : ScopedItems) (key typeName : String) :
    List (Constructor × WrittenConstructor) :=
  items.impls.flatMap (ImplItem.constructors (Survey.declaredNames items) key typeName)

end ScopedItems

lemma ImplMember.stands_of_constructor? {names : DeclaredNames} {scope : Namespace}
    {typeName : String} {member : ImplMember} {pair : Constructor × WrittenConstructor}
    (found : member.constructor? names scope typeName = some pair) :
    pair.1.Stands pair.2 ∧ pair.2.name.isSome = true := by
  cases member with
  | other code => cases found
  | function declared =>
    rw [constructor?] at found
    split at found
    · cases found
      refine ⟨⟨?_, rfl⟩, rfl⟩
      rw [Function.constructor, List.forall₂_map_left_iff]
      exact List.forall₂_same.mpr fun m _ => ⟨rfl, rfl, rfl⟩
    · cases found

lemma tupleConstructor_stands (elements : List DeclaredMember) :
    (tupleConstructor elements).Stands ⟨none, elements⟩ := by
  refine ⟨?_, rfl⟩
  rw [tupleConstructor, List.forall₂_map_left_iff]
  exact List.forall₂_same.mpr fun m _ => ⟨rfl, rfl, rfl⟩

lemma ScopedItems.stands_of_functionsOf {items : ScopedItems} {key typeName : String}
    {pair : Constructor × WrittenConstructor} (listed : pair ∈ items.functionsOf key typeName) :
    pair.1.Stands pair.2 ∧ pair.2.name.isSome = true := by
  obtain ⟨placed, _, added⟩ := List.mem_flatMap.mp listed
  rw [ImplItem.constructors] at added
  split at added
  · split at added
    · obtain ⟨member, _, found⟩ := List.mem_filterMap.mp added
      exact ImplMember.stands_of_constructor? found
    · cases added
  · cases added

/-! ## What a survey notes -/

namespace Survey

variable {names : DeclaredNames} {s : Survey} {key typeName : String} {listed : List Constructor}
  {written : List WrittenConstructor}

/-- The constructors that were noted as written for the type of a full name. -/
def noted (s : Survey) (key : String) : List WrittenConstructor :=
  (s.constructors.get? key).getD []

lemma noted_addConstructor (s : Survey) (at' key : String) (c : WrittenConstructor) :
    (s.addConstructor at' c).noted key = s.noted key ++ if at' = key then [c] else [] := by
  rw [noted, addConstructor]
  by_cases same : at' = key
  · rw [if_pos same, ← same, Table.get?_set_self]
    rfl
  · rw [if_neg same, List.append_nil, Table.get?_set_of_ne (Ne.symm same)]
    rfl

lemma noted_addType (s : Survey) (item : TypeItem) (key : String) :
    (addType names s item).noted key =
      s.noted key ++ if item.fullName = key then (item.tuple? names).toList else [] := by
  cases item with
  | enum placed => simp [addType, addEnum, TypeItem.tuple?, noted, enter, blame]
  | trait placed => simp [addType, addTrait, TypeItem.tuple?, noted, enter]
  | struct placed =>
    simp only [addType, addStruct, TypeItem.tuple?, StructItem.tuple?]
    cases placed.item.fields with
    | named fields trailing => simp [noted, enter, blame]
    | unit => simp [noted, enter, blame]
    | positional fields trailing => exact noted_addConstructor _ _ key _

lemma noted_foldl_addType (s : Survey) (items : List TypeItem) (key : String) :
    (items.foldl (addType names) s).noted key =
      s.noted key ++ (items.filter (·.fullName == key)).filterMap (·.tuple? names) := by
  induction items generalizing s with
  | nil => simp
  | cons item rest ih =>
    rw [List.foldl_cons, ih, noted_addType, List.append_assoc, List.filter_cons]
    by_cases same : item.fullName = key
    · rw [if_pos same, if_pos (beq_iff_eq.mpr same), List.filterMap_cons]
      cases item.tuple? names <;> rfl
    · rw [if_neg same, if_neg (by simpa using same), List.nil_append]

/-- The type of a full name has this name and these constructors in the schema, and these were noted
for it as they are written. -/
structure Collects (s : Survey) (key typeName : String) (listed : List Constructor)
    (written : List WrittenConstructor) : Prop where
  entered : ∃ entry, s.entries.get? key = some entry ∧ entry.definition.name = typeName ∧
    entry.definition.constructors = listed
  noted : s.noted key = written

lemma blame_collects (collects : s.Collects key typeName listed written)
    (faults : List DeclarationFault) : (s.blame faults).Collects key typeName listed written :=
  ⟨collects.entered, collects.noted⟩

lemma addConstructor_collects (collects : s.Collects key typeName listed written) (owner : String)
    (c : WrittenConstructor) :
    (s.addConstructor owner c).Collects key typeName listed
      (written ++ if owner = key then [c] else []) :=
  ⟨collects.entered, (noted_addConstructor s owner key c).trans (by rw [collects.noted])⟩

lemma update_collects (collects : s.Collects key typeName listed written) (owner : String)
    (change : Entry → Entry) {added : List Constructor}
    (named : ∀ entry, (change entry).definition.name = entry.definition.name)
    (adds : ∀ entry, (change entry).definition.constructors =
      entry.definition.constructors ++ added) :
    Survey.Collects { s with entries := s.entries.update owner change } key typeName
      (listed ++ if owner = key then added else []) written := by
  obtain ⟨⟨entry, found, called, constructors⟩, noted⟩ := collects
  have changed := Table.get?_update s.entries owner change key
  rw [found, Option.map_some] at changed
  by_cases here : owner = key
  · rw [if_pos here.symm] at changed
    rw [if_pos here]
    exact ⟨⟨_, changed, (named entry).trans called, constructors ▸ adds entry⟩, noted⟩
  · rw [if_neg (Ne.symm here)] at changed
    rw [if_neg here, List.append_nil]
    exact ⟨⟨entry, changed, called, constructors⟩, noted⟩

lemma addFunction_collects (names : DeclaredNames)
    (collects : s.Collects key typeName listed written) (scope : Namespace) (owner name : String)
    (member : ImplMember) :
    (addFunction names scope owner name s member).Collects key typeName
      (listed ++ if owner = key then
        (member.constructor? names scope name).toList.map (·.1) else [])
      (written ++ if owner = key then
        (member.constructor? names scope name).toList.map (·.2) else []) := by
  have alone : s.Collects key typeName (listed ++ if owner = key then [] else [])
      (written ++ if owner = key then [] else []) := by
    rw [ite_self, ite_self, List.append_nil, List.append_nil]
    exact collects
  cases member with
  | other code => exact alone
  | function declared =>
    rw [addFunction, ImplMember.constructor?]
    split
    · have amended := update_collects collects owner
        (fun entry =>
          { entry with
            definition.constructors := entry.definition.constructors ++
              [declared.constructor {} name
                (successes (declared.declaredParameters names scope))] })
        (fun entry => rfl) fun entry => rfl
      have blamed := blame_collects amended
        ((failures (declared.declaredParameters names scope)).map .inAttribute)
      exact addConstructor_collects blamed owner
        ⟨some declared.name, successes (declared.declaredParameters names scope)⟩
    · exact alone

lemma foldl_addFunction_collects (names : DeclaredNames)
    (collects : s.Collects key typeName listed written) (scope : Namespace) (owner name : String)
    (members : List ImplMember) :
    (members.foldl (addFunction names scope owner name) s).Collects key typeName
      (listed ++ if owner = key then
        (members.filterMap (·.constructor? names scope name)).map (·.1) else [])
      (written ++ if owner = key then
        (members.filterMap (·.constructor? names scope name)).map (·.2) else []) := by
  induction members generalizing s listed written with
  | nil =>
    rw [List.filterMap_nil, List.map_nil, List.map_nil, ite_self, ite_self, List.append_nil,
      List.append_nil]
    exact collects
  | cons member rest ih =>
    have both := ih (addFunction_collects names collects scope owner name member)
    have added : (member :: rest).filterMap (·.constructor? names scope name) =
        (member.constructor? names scope name).toList ++
          rest.filterMap (·.constructor? names scope name) := by
      rw [List.filterMap_cons]
      cases member.constructor? names scope name <;> rfl
    rw [added, List.map_append, List.map_append]
    by_cases here : owner = key
    · simp only [if_pos here, List.append_assoc] at both ⊢
      exact both
    · simp only [if_neg here, List.append_nil] at both ⊢
      exact both

lemma addImpl_collects (names : DeclaredNames)
    (collects : s.Collects key typeName listed written) (placed : Scoped ImplItem) :
    (addImpl names s placed).Collects key typeName
      (listed ++ (ImplItem.constructors names key typeName placed).map (·.1))
      (written ++ (ImplItem.constructors names key typeName placed).map (·.2)) := by
  have alone : s.Collects key typeName (listed ++ ([] : List (Constructor × WrittenConstructor)).map
      (·.1)) (written ++ ([] : List (Constructor × WrittenConstructor)).map (·.2)) := by
    rw [List.map_nil, List.map_nil, List.append_nil, List.append_nil]
    exact collects
  rw [addImpl, ImplItem.constructors]
  cases placed.item.self with
  | reference _ _ => exact alone
  | paren _ => exact alone
  | traitObject _ _ _ => exact alone
  | other _ => exact alone
  | path path =>
    simp only
    cases placed.item.interface with
    | some interface =>
      -- The entry found gets an interface, so it is updated with no constructor added.
      cases s.entries.get? (path.typePath names placed.scope).definitionName with
      | none => exact alone
      | some owner =>
        simp only
        split
        · exact alone
        · have amended := update_collects collects
            (path.typePath names placed.scope).definitionName
            (fun entry =>
              { entry with
                definition.interfaces := entry.definition.interfaces ++
                  [interface.path.typePath names placed.scope] })
            (fun entry => rfl) fun entry => (List.append_nil _).symm
          rw [ite_self] at amended
          exact ⟨amended.entered, amended.noted.trans (List.append_nil _).symm⟩
    | none =>
      have added := fun name => foldl_addFunction_collects names collects placed.scope
        (path.typePath names placed.scope).definitionName name placed.item.members
      by_cases here : (path.typePath names placed.scope).definitionName = key
      · obtain ⟨entry, found, called, _⟩ := collects.entered
        simp only [if_pos here] at added ⊢
        rw [here] at added ⊢
        simp only [found]
        rw [called]
        exact called ▸ added entry.definition.name
      · simp only [if_neg here] at added ⊢
        cases s.entries.get? (path.typePath names placed.scope).definitionName with
        | none => exact alone
        | some owner => exact added owner.definition.name

lemma foldl_addImpl_collects (names : DeclaredNames)
    (collects : s.Collects key typeName listed written) (impls : List (Scoped ImplItem)) :
    (impls.foldl (addImpl names) s).Collects key typeName
      (listed ++ (impls.flatMap (ImplItem.constructors names key typeName)).map (·.1))
      (written ++ (impls.flatMap (ImplItem.constructors names key typeName)).map (·.2)) := by
  induction impls generalizing s listed written with
  | nil =>
    rw [List.flatMap_nil, List.map_nil, List.map_nil, List.append_nil, List.append_nil]
    exact collects
  | cons placed rest ih =>
    have both := ih (addImpl_collects names collects placed)
    rw [List.flatMap_cons, List.map_append, List.map_append, ← List.append_assoc,
      ← List.append_assoc]
    exact both

/-- The type of a name has the constructor that the kept item is by itself and the functions of its
implementations. What was noted as written has every tuple that was declared under the name before
these functions. -/
theorem ofItems_collects (items : ScopedItems) {item : TypeItem}
    (kept : items.kept.get? key = some item) :
    (ofItems items).Collects key item.path.name
      ((item.entry (declaredNames items)).definition.constructors ++
        (items.functionsOf key item.path.name).map (·.1))
      (items.tuplesOf key ++ (items.functionsOf key item.path.name).map (·.2)) := by
  have types : (items.typeItems.foldl (addType (declaredNames items)) {}).Collects key
      item.path.name (item.entry (declaredNames items)).definition.constructors
      (items.tuplesOf key) := by
    have entered := Table.get?_foldl_set_last TypeItem.fullName
      (fun item => item.entry (declaredNames items)) (t := []) items.typeItems key
    rw [← items.get?_kept, kept] at entered
    refine ⟨⟨_, ?_, congrArg TypePath.name item.entry_path, rfl⟩, ?_⟩
    · rw [(foldl_addType _ _ _).1]
      exact entered
    · exact noted_foldl_addType {} items.typeItems key
  rw [ofItems_eq]
  exact foldl_addImpl_collects _ types items.impls

end Survey

/-! ## The widest constructor -/

namespace WrittenConstructor

/-- The first of the widest constructors does not depend on the order of comparison. -/
instance : Std.Associative wider where
  assoc one two three := by
    simp only [wider]
    split_ifs <;> first | rfl | omega

/-- The widest constructor of two lists is that of the second, or one of the first. -/
lemma widest?_append {earlier constructors : List WrittenConstructor} {c used : WrittenConstructor}
    (widest : widest? constructors = some c)
    (overall : widest? (earlier ++ constructors) = some used) : used = c ∨ used ∈ earlier := by
  cases earlier with
  | nil => exact Or.inl (Option.some.inj (overall.symm.trans widest))
  | cons one rest =>
    cases constructors with
    | nil => cases widest
    | cons first others =>
      -- The widest of all is the wider one of the widest of either list.
      rw [List.cons_append, widest?, List.foldl_append, List.foldl_cons, List.foldl_assoc,
        Option.some.injEq] at overall
      rw [widest?, Option.some.injEq] at widest
      have among : rest.foldl wider one ∈ one :: rest := mem_of_widest? rfl
      rw [widest, wider] at overall
      split at overall
      · exact Or.inl overall.symm
      · exact Or.inr (overall ▸ among)

end WrittenConstructor

lemma Constructor.Stands.width {c : Constructor} {w : WrittenConstructor} (stands : c.Stands w) :
    c.params.length = w.members.length :=
  stands.params.length_eq

lemma TypeDef.widestConstructor?_stands {d : TypeDef} {constructors : List WrittenConstructor}
    (beside : List.Forall₂ Constructor.Stands d.constructors constructors) {w : WrittenConstructor}
    (widest : WrittenConstructor.widest? constructors = some w) :
    ∃ c, d.widestConstructor? = some c ∧ c.Stands w := by
  rw [widestConstructor?]
  generalize d.constructors = declared at beside
  cases beside with
  | nil => cases widest
  | cons first rest =>
    cases widest
    refine ⟨_, rfl, ?_⟩
    refine List.rel_foldl ?_ first rest
    intro one one' stands other other' stands'
    rw [TypeDef.wider, WrittenConstructor.wider, stands.width, stands'.width]
    split
    · exact stands'
    · exact stands

lemma TypeDef.stamped_stands {d : TypeDef} {constructors : List WrittenConstructor}
    (beside : List.Forall₂ Constructor.Stands d.constructors constructors) :
    List.Forall₂ Constructor.Stands d.stamped.constructors constructors := by
  rw [TypeDef.stamped, List.forall₂_map_left_iff]
  refine beside.imp fun c w stands => ⟨?_, stands.implicit⟩
  rw [List.forall₂_map_left_iff]
  exact stands.params.imp fun p m known => ⟨known.name, known.ty, known.markers⟩

end MemberMapping
