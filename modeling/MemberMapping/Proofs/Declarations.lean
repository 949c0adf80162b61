import Mathlib.Data.List.Basic
import MemberMapping.Inventory.Survey
import MemberMapping.Proofs.FieldNames
import MemberMapping.Proofs.Table

/-!
What a survey finds: declarations whose written form agrees with the schema.

A type inherits from the type of its inherited part. A member of a type with named fields is a field
that is written in it, and an element of a tuple is known by its position. Every step of the survey
keeps this.
-/

namespace MemberMapping

def Decl.Writes (decl : Decl) (name : String) : Prop :=
  ∃ written, decl.members.get? name = some written ∧ written.access.plain = name

/-- What the members of a declared type are, by the form of the declaration. -/
def Entry.MembersKnown (e : Entry) : Prop :=
  match e.decl.shape with
  | .named => ∀ member ∈ e.definition.members, e.decl.Writes member.name
  | .tuple => e.decl.members = [] ∧
      ∀ member ∈ e.definition.members, ∃ position : Nat, member.name = toString position
  | .unit | .enumeration | .interface => e.definition.members = []

structure Entry.Sound (e : Entry) : Prop where
  base : e.definition.base = e.decl.base.map (·.path)
  kind : e.decl.shape = .named →
    e.definition.kind = .classType ∨ (e.definition.kind = .structType ∧ e.definition.base = none)
  members : e.MembersKnown

/-- A member with a number for a name stands in that position. -/
def WrittenConstructor.Numbered (c : WrittenConstructor) : Prop :=
  ∀ position member, c.members[position]? = some member →
    ∀ n : Nat, member.member.name = toString n → position = n

/-- Types are entered by full name and agree with how they are written. Unless there are faults,
the constructors count the elements of tuples. -/
structure Survey.Sound (s : Survey) : Prop where
  keyed : ∀ entry ∈ s.entries, entry.1 = entry.2.definition.fullName
  entries : ∀ entry ∈ s.entries, entry.2.Sound
  constructors : s.faults = [] → ∀ entry ∈ s.constructors, ∀ c ∈ entry.2, c.Numbered

/-- The parameters of a function are named by identifiers, as every name in source code is one. -/
def Function.BindsIdentifiers (function : Function) : Prop :=
  ∀ attributes pattern name ty,
    Parameter.typed attributes pattern (some name) ty ∈ function.parameters →
      Text.isIdentifierText (Token.plainName name).toList = true

/-- So are those of all functions in implementations. -/
def ScopedItems.BindIdentifiers (items : ScopedItems) : Prop :=
  ∀ placed ∈ items.impls, ∀ function, .function function ∈ placed.item.members →
    function.BindsIdentifiers

/-! ## Structs with named fields -/

structure Draft.Open (d : Draft) : Prop where
  shape : d.entry.decl.shape = .named
  kind : d.entry.definition.kind = .structType
  base : d.entry.definition.base = none
  members : ∀ member ∈ d.entry.definition.members, d.entry.decl.Writes member.name

namespace Draft

variable {d : Draft} {names : DeclaredNames} {scope : Namespace}

lemma addBase_open (isOpen : d.Open) (field : String) (ty : TypeExpr) :
    (d.addBase names scope field ty).Open := by
  rw [addBase]
  split
  · exact ⟨isOpen.shape, isOpen.kind, isOpen.base, isOpen.members⟩
  · split
    · exact ⟨isOpen.shape, isOpen.kind, isOpen.base, isOpen.members⟩
    · exact ⟨isOpen.shape, isOpen.kind, isOpen.base, isOpen.members⟩

/-- A member is written under its name, and those of other names stay where they are. -/
lemma addMember_open (isOpen : d.Open) {m : DeclaredMember}
    (called : m.decl.access.plain = m.member.name) : (d.addMember m).Open := by
  refine ⟨isOpen.shape, isOpen.kind, isOpen.base, ?_⟩
  intro member present
  by_cases same : member.name = m.member.name
  · rw [same]
    exact ⟨m.decl, Table.get?_set_self d.entry.decl.members m.member.name m.decl, called⟩
  · rcases List.mem_append.mp present with old | new
    · obtain ⟨written, found, known⟩ := isOpen.members member old
      refine ⟨written, ?_, known⟩
      exact (Table.get?_set_of_ne same).trans found
    · rw [List.mem_singleton.mp new] at same
      exact absurd rfl same

lemma addField_open (isOpen : d.Open) (field : Field) : (addField names scope d field).Open := by
  rw [addField]
  split
  · exact isOpen
  · exact ⟨isOpen.shape, isOpen.kind, isOpen.base, isOpen.members⟩
  · split
    · exact addBase_open isOpen _ _
    · exact addMember_open isOpen rfl

lemma addFields_open (isOpen : d.Open) (fields : List Field) :
    (fields.foldl (addField names scope) d).Open := by
  induction fields generalizing d with
  | nil => exact isOpen
  | cons field rest ih => exact ih (addField_open isOpen field)

/-- The entry of a struct agrees with how it is written once its base is settled. -/
lemma settleBase_sound (isOpen : d.Open) : d.settleBase.entry.Sound := by
  rw [settleBase]
  cases inherited : d.entry.decl.base with
  | none =>
    refine ⟨?_, fun _ => Or.inr ⟨isOpen.kind, isOpen.base⟩, ?_⟩
    · simpa [inherited] using isOpen.base
    · simpa only [Entry.MembersKnown, isOpen.shape] using isOpen.members
  | some base =>
    refine ⟨?_, fun _ => Or.inl rfl, ?_⟩
    · simp [inherited]
    · simpa only [Entry.MembersKnown, isOpen.shape, Decl.Writes] using isOpen.members

end Draft

/-! ## Tuples -/

lemma Marked.result_error {α : Type} {m : Marked α} {faults : List AttributeFault}
    (failed : m.result = .error faults) : faults ≠ [] := by
  rw [result] at failed
  split at failed
  · cases failed
  · rename_i some
    cases failed
    simpa using some

namespace Field

variable {names : DeclaredNames} {scope : Namespace} {position : Nat} {field : Field}

lemma element_name {element : DeclaredMember}
    (read : field.element names scope position = .ok element) :
    element.member.name = toString position := by
  rw [Field.element] at read
  split at read
  · cases read
  · split at read
    · cases read
    · cases read
      rfl

lemma element_error {faults : List DeclarationFault}
    (failed : field.element names scope position = .error faults) : faults ≠ [] := by
  rw [Field.element] at failed
  split at failed
  · rename_i refused
    cases failed
    simpa using Marked.result_error refused
  · split at failed
    · cases failed
      exact List.cons_ne_nil _ _
    · cases failed

end Field

/-- The outcomes of reading the elements of a tuple, the first of which stands at `start`. -/
abbrev elementsFrom (names : DeclaredNames) (scope : Namespace) (start : Nat)
    (fields : List Field) : List (Except (List DeclarationFault) DeclaredMember) :=
  (fields.zipIdx start).map fun (field, position) => field.element names scope position

/-- Where no element of a tuple is at fault, each is named by its position. -/
lemma elementsFrom_named {names : DeclaredNames} {scope : Namespace} {fields : List Field}
    {start : Nat} (faultless : failures (elementsFrom names scope start fields) = [])
    {position : Nat} {element : DeclaredMember}
    (present : (successes (elementsFrom names scope start fields))[position]? = some element) :
    element.member.name = toString (start + position) := by
  induction fields generalizing start position with
  | nil => simp [elementsFrom, successes] at present
  | cons field rest ih =>
    simp only [elementsFrom, failures, successes, List.zipIdx_cons, List.map_cons,
      List.flatMap_cons, List.append_eq_nil_iff] at faultless present
    cases read : field.element names scope start with
    | error faults =>
      rw [read] at faultless
      exact absurd faultless.1 (Field.element_error read)
    | ok first =>
      simp only [read, Except.toOption, List.filterMap_cons] at present
      cases position with
      | zero =>
        cases present
        exact Field.element_name read
      | succ position =>
        have later := ih faultless.2 present
        rw [later]
        congr 1
        omega

lemma mem_successes_name {names : DeclaredNames} {scope : Namespace} {fields : List Field}
    {element : DeclaredMember} (present : element ∈ successes (elementsFrom names scope 0 fields)) :
    ∃ position < fields.length, element.member.name = toString position := by
  obtain ⟨outcome, known, succeeded⟩ := List.mem_filterMap.mp present
  obtain ⟨⟨field, position⟩, listed, rfl⟩ := List.mem_map.mp known
  have read : (field.element names scope position).toOption = some element := succeeded
  cases outcome : field.element names scope position with
  | error faults => rw [outcome] at read; cases read
  | ok other =>
    rw [outcome] at read
    cases read
    exact ⟨position, (List.mem_zipIdx' listed).1, Field.element_name outcome⟩

/-! ## Constructors -/

lemma Parameter.name_of_declared {names : DeclaredNames} {scope : Namespace} {position : Nat}
    {parameter : Parameter} {declared : DeclaredMember}
    (read : parameter.declared? names scope position = some (.ok declared)) :
    ∃ attributes pattern name ty, parameter = .typed attributes pattern name ty ∧
      declared.decl.binding = name.getD ("arg_" ++ toString position) ∧
      declared.member.name = Token.plainName declared.decl.binding := by
  cases parameter with
  | receiver code => cases read
  | variadic code => cases read
  | typed attributes pattern name ty =>
    rw [Parameter.declared?] at read
    cases marks : MemberMarks.ofAttributes attributes with
    | error faults => rw [marks] at read; cases read
    | ok marks' =>
      rw [marks] at read
      cases read
      exact ⟨attributes, pattern, name, ty, rfl, rfl, rfl⟩

lemma Function.parameter_of_declared {function : Function} {names : DeclaredNames}
    {scope : Namespace} {declared : DeclaredMember}
    (present : declared ∈ successes (function.declaredParameters names scope)) :
    ∃ attributes pattern name ty, ∃ position : Nat,
      .typed attributes pattern name ty ∈ function.parameters ∧
      declared.decl.binding = name.getD ("arg_" ++ toString position) ∧
      declared.member.name = Token.plainName declared.decl.binding := by
  obtain ⟨outcome, known, succeeded⟩ := List.mem_filterMap.mp present
  obtain ⟨⟨parameter, position⟩, listed, read⟩ := List.mem_filterMap.mp known
  have written : parameter ∈ function.parameters :=
    (List.mem_zipIdx' listed).2 ▸ List.getElem_mem _
  cases outcome with
  | error faults => cases succeeded
  | ok other =>
    cases succeeded
    obtain ⟨attributes, pattern, name, ty, rfl, bound, called⟩ := Parameter.name_of_declared read
    exact ⟨attributes, pattern, name, ty, position, written, bound, called⟩

lemma Function.name_of_declared {function : Function} {names : DeclaredNames} {scope : Namespace}
    (identifiers : function.BindsIdentifiers) {declared : DeclaredMember}
    (present : declared ∈ successes (function.declaredParameters names scope)) :
    Text.isIdentifierText declared.member.name.toList = true ∨
      ∃ position : Nat, declared.member.name = Token.plainName ("arg_" ++ toString position) := by
  obtain ⟨attributes, pattern, name, ty, position, written, bound, called⟩ :=
    Function.parameter_of_declared present
  rw [called, bound]
  cases name with
  | some name => exact Or.inl (identifiers attributes pattern name ty written)
  | none => exact Or.inr ⟨position, rfl⟩

/-- No member of a constructor that is a function is named by a number. -/
lemma Function.numbered {function : Function} {names : DeclaredNames} {scope : Namespace}
    (identifiers : function.BindsIdentifiers) (label : Option String) :
    (WrittenConstructor.mk label
      (successes (function.declaredParameters names scope))).Numbered := by
  intro position member found n same
  rcases Function.name_of_declared identifiers (List.mem_of_getElem? found) with
    identifier | ⟨place, called⟩
  · exact absurd same (identifier_ne_toString identifier n)
  · exact absurd (called ▸ same) (plainName_argument_ne_toString place n)

/-! ## The survey -/

namespace Survey

variable {s : Survey} {names : DeclaredNames}

lemma empty_sound : Survey.Sound {} :=
  ⟨by simp, by simp, by simp⟩

lemma blame_sound (sound : s.Sound) (faults : List DeclarationFault) : (s.blame faults).Sound :=
  ⟨sound.keyed, sound.entries,
    fun faultless => sound.constructors (List.append_eq_nil_iff.mp faultless).1⟩

lemma enter_sound (sound : s.Sound) {entry : Entry} (agrees : entry.Sound) :
    (s.enter entry).Sound := by
  refine ⟨?_, ?_, sound.constructors⟩
  · intro known present
    rcases Table.mem_set present with rfl | old
    · rfl
    · exact sound.keyed known old
  · intro known present
    rcases Table.mem_set present with rfl | old
    · exact agrees
    · exact sound.entries known old

/-- A change that leaves names, bases, kinds, members and written forms alone. -/
lemma amend_sound (sound : s.Sound) (key : String) {change : Entry → Entry}
    (named : ∀ entry, (change entry).definition.fullName = entry.definition.fullName)
    (kept : ∀ entry, entry.Sound → (change entry).Sound) :
    Survey.Sound { s with entries := s.entries.update key change } := by
  refine ⟨?_, ?_, sound.constructors⟩
  · intro known present
    rcases Table.mem_update present with old | ⟨before, old, rfl⟩
    · exact sound.keyed known old
    · exact (sound.keyed _ old).trans (named before).symm
  · intro known present
    rcases Table.mem_update present with old | ⟨before, old, rfl⟩
    · exact sound.entries known old
    · exact kept before (sound.entries _ old)

lemma addConstructor_sound (sound : s.Sound) (key : String) {c : WrittenConstructor}
    (numbered : s.faults = [] → c.Numbered) : (s.addConstructor key c).Sound := by
  refine ⟨sound.keyed, sound.entries, ?_⟩
  intro faultless known present other listed
  rcases Table.mem_set present with rfl | old
  · rcases List.mem_append.mp listed with before | new
    · cases found : s.constructors.get? key with
      | none => rw [found] at before; cases before
      | some earlier =>
        rw [found] at before
        exact sound.constructors faultless _ (Table.mem_of_get? found) other before
    · rw [List.mem_singleton.mp new]
      exact numbered faultless
  · exact sound.constructors faultless known old other listed

lemma addStruct_sound (sound : s.Sound) (placed : Scoped StructItem) :
    (addStruct names s placed).Sound := by
  rw [addStruct]
  have blamed := blame_sound (blame_sound sound
      ((failures [TypeMarks.ofAttributes placed.item.attributes]).map .inAttribute))
    (if ((TypeMarks.ofAttributes placed.item.attributes).toOption.getD {}).source.isSome &&
      !placed.item.generics.isEmpty then [.genericTarget] else [])
  cases form : placed.item.fields with
  | unit => exact enter_sound blamed ⟨rfl, fun other => (by cases other), rfl⟩
  | named fields trailing =>
    refine enter_sound (blame_sound blamed _) (Draft.settleBase_sound (Draft.addFields_open ?_ _))
    exact ⟨rfl, rfl, rfl, by simp [emptyEntry]⟩
  | positional fields trailing =>
    refine enter_sound (addConstructor_sound (blame_sound blamed _) _ ?_) ?_
    · intro faultless position element present n same
      have unblamed := (List.append_eq_nil_iff.mp faultless).2
      have called := elementsFrom_named unblamed present
      rw [called, Nat.zero_add] at same
      exact toString_injective same
    · refine ⟨rfl, fun other => (by cases other), rfl, ?_⟩
      intro member present
      obtain ⟨element, known, rfl⟩ := List.mem_map.mp present
      obtain ⟨position, _, named⟩ := mem_successes_name known
      exact ⟨position, named⟩

lemma addEnum_sound (sound : s.Sound) (placed : Scoped EnumItem) : (s.addEnum placed).Sound :=
  enter_sound (blame_sound sound _) ⟨rfl, fun other => (by cases other), rfl⟩

lemma addTrait_sound (sound : s.Sound) (placed : Scoped TraitItem) : (s.addTrait placed).Sound :=
  enter_sound sound ⟨rfl, fun other => (by cases other), rfl⟩

lemma foldl_sound {α : Type} {step : Survey → α → Survey} {items : List α}
    (kept : ∀ s : Survey, ∀ item ∈ items, s.Sound → (step s item).Sound) (sound : s.Sound) :
    (items.foldl step s).Sound := by
  induction items generalizing s with
  | nil => exact sound
  | cons item rest ih =>
    refine ih ?_ (kept s item List.mem_cons_self sound)
    exact fun s later listed => kept s later (List.mem_cons_of_mem item listed)

lemma addFunction_sound (sound : s.Sound) (scope : Namespace) (key typeName : String)
    {member : ImplMember}
    (identifiers : ∀ function, member = .function function → function.BindsIdentifiers) :
    (addFunction names scope key typeName s member).Sound := by
  cases member with
  | other code => exact sound
  | function function =>
    rw [addFunction]
    split
    · refine addConstructor_sound (blame_sound (amend_sound sound key ?_ ?_) _) key ?_
      · exact fun entry => rfl
      · exact fun entry agrees => ⟨agrees.base, agrees.kind, agrees.members⟩
      · exact fun _ => Function.numbered (identifiers function rfl) _
    · exact sound

lemma addImpl_sound (sound : s.Sound) (placed : Scoped ImplItem)
    (identifiers : ∀ function, .function function ∈ placed.item.members →
      function.BindsIdentifiers) :
    (addImpl names s placed).Sound := by
  rw [addImpl]
  split
  · simp only
    split
    · exact sound
    · split
      · exact sound
      · refine amend_sound sound _ (fun entry => rfl) ?_
        exact fun entry agrees => ⟨agrees.base, agrees.kind, agrees.members⟩
    · refine foldl_sound (fun s member listed sound => ?_) sound
      refine addFunction_sound sound _ _ _ ?_
      rintro function rfl
      exact identifiers function listed
  · exact sound

theorem ofItems_sound {items : ScopedItems} (identifiers : items.BindIdentifiers) :
    (ofItems items).Sound := by
  have structs : (items.structs.foldl (addStruct (declaredNames items)) {}).Sound :=
    foldl_sound (fun _ item _ sound => addStruct_sound sound item) empty_sound
  have enums := foldl_sound (fun _ item (_ : item ∈ items.enums) sound =>
    addEnum_sound sound item) structs
  have traits := foldl_sound (fun _ item (_ : item ∈ items.traits) sound =>
    addTrait_sound sound item) enums
  exact foldl_sound (fun _ item listed sound =>
    addImpl_sound sound item (identifiers item listed)) traits

end Survey

end MemberMapping
