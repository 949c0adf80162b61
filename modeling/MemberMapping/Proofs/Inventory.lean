import MemberMapping.Proofs.BuiltSchema
import MemberMapping.Proofs.Declarations
import MemberMapping.Proofs.Lists

/-!
The inventory of a program: how each type of its schema is written.

The declarations of a survey are settled and its definitions are stamped. What was known of both
holds of every type of the schema and of its written form.
-/

namespace MemberMapping

/-- The field that a name stands for in a type: the one written for it, or the one it spells. -/
def Decl.fieldOf (decl : Decl) (name : String) : FieldName :=
  match decl.members.get? name with
  | some member => member.access
  | none => .ofText name

/-- A field of a type goes by a name. Among named fields it is one that is written in the type. -/
structure Decl.HasField (decl : Decl) (field : FieldName) (name : String) : Prop where
  called : field.plain = name
  written : decl.shape = .named →
    ∃ member, decl.members.get? name = some member ∧ member.access = field

/-- The written form of a type in a schema. -/
structure Decl.Describes (decl : Decl) (d : TypeDef) : Prop where
  base : d.base = decl.base.map (·.path)
  kind : decl.shape = .named → d.kind = .classType ∨ (d.kind = .structType ∧ d.base = none)
  fields : ∀ member ∈ d.members, decl.HasField (decl.fieldOf member.name) member.name

/-- Every type of the schema has its written form, and every member notes its type. -/
structure Inventory.Sound (inv : Inventory) : Prop where
  distinct : (inv.schema.types.map (·.fullName)).Nodup
  stamped : ∀ d ∈ inv.schema.types, ∀ member ∈ d.members, member.declaredIn = d.fullName
  described : ∀ d ∈ inv.schema.types,
    ∃ decl, inv.decls.get? d.fullName = some decl ∧ decl.Describes d
  count : inv.decls.length = inv.schema.types.length

/-! ## Settled declarations -/

namespace WrittenConstructor

lemma mem_of_widest? {constructors : List WrittenConstructor} {c : WrittenConstructor}
    (widest : widest? constructors = some c) : c ∈ constructors := by
  cases constructors with
  | nil => cases widest
  | cons first rest =>
    cases widest
    refine foldl_mem_of_choice (fun one other => ?_) first rest
    rw [wider]
    split
    · exact Or.inr rfl
    · exact Or.inl rfl

lemma position_of_table {c : WrittenConstructor} {name : String} {written : MemberDecl}
    (found : c.table.get? name = some written) :
    ∃ position member, c.members[position]? = some member ∧ member.member.name = name ∧
      written.access = .position position := by
  rcases Table.get?_foldl_set found with none | ⟨⟨member, position⟩, listed, named, rfl⟩
  · cases none
  · exact ⟨position, member, List.mem_zipIdx_iff_getElem?.mp listed, named, rfl⟩

end WrittenConstructor

namespace Survey

variable {s : Survey} {key : String}

lemma settledDecl_shape (decl : Decl) :
    (s.settledDecl key decl).shape = decl.shape ∧ (s.settledDecl key decl).base = decl.base := by
  rw [settledDecl]
  split
  · exact ⟨rfl, rfl⟩
  · exact ⟨rfl, rfl⟩

lemma settledDecl_of_not_tuple {decl : Decl} (other : decl.shape ≠ .tuple) :
    s.settledDecl key decl = decl := by
  rw [settledDecl]
  split
  · rename_i tuple _
    exact absurd tuple other
  · rfl

lemma settledDecl_fieldOf_tuple (sound : s.Sound) (faultless : s.faults = []) {decl : Decl}
    (tuple : decl.shape = .tuple) (blank : decl.members = []) (n : Nat) :
    ((s.settledDecl key decl).fieldOf (toString n)).plain = toString n := by
  rw [settledDecl, tuple]
  cases widest : (s.constructors.get? key).bind WrittenConstructor.widest? with
  | none =>
    simp only [Decl.fieldOf, blank]
    exact plain_ofText_toString n
  | some c =>
    obtain ⟨constructors, listed, first⟩ := Option.bind_eq_some_iff.mp widest
    have numbered := sound.constructors faultless _ (Table.mem_of_get? listed) c
      (WrittenConstructor.mem_of_widest? first)
    simp only [Decl.fieldOf]
    cases found : c.table.get? (toString n) with
    | none => exact plain_ofText_toString n
    | some written =>
      obtain ⟨position, member, present, named, access⟩ :=
        WrittenConstructor.position_of_table found
      simp only [access]
      rw [numbered position member present n named]
      rfl

lemma settledDecl_describes (sound : s.Sound) (faultless : s.faults = []) {entry : Entry}
    (agrees : entry.Sound) : (s.settledDecl key entry.decl).Describes entry.definition.stamped := by
  obtain ⟨shape, base⟩ : (s.settledDecl key entry.decl).shape = entry.decl.shape ∧
      (s.settledDecl key entry.decl).base = entry.decl.base := settledDecl_shape entry.decl
  refine ⟨?_, ?_, ?_⟩
  · rw [base]
    exact agrees.base
  · rw [shape]
    exact agrees.kind
  · intro member present
    obtain ⟨_, declared, known, same⟩ := TypeDef.mem_stamped present
    have members := agrees.members
    rw [← same]
    cases form : entry.decl.shape with
    | named =>
      simp only [Entry.MembersKnown, form] at members
      rw [settledDecl_of_not_tuple (by simp [form])]
      obtain ⟨written, found, called⟩ := members declared known
      have access : entry.decl.fieldOf declared.name = written.access := by
        simp only [Decl.fieldOf, found]
      rw [access]
      exact ⟨called, fun _ => ⟨written, found, rfl⟩⟩
    | tuple =>
      simp only [Entry.MembersKnown, form] at members
      obtain ⟨n, number⟩ := members.2 declared known
      refine ⟨?_, fun named => ?_⟩
      · rw [number]
        exact settledDecl_fieldOf_tuple sound faultless form members.1 n
      · rw [shape, form] at named
        cases named
    | unit | enumeration | interface =>
      simp only [Entry.MembersKnown, form] at members
      rw [members] at known
      cases known

lemma inventory_ok {inv : Inventory} (ready : s.inventory = .ok inv) :
    s.faults = [] ∧
      Builder.build { types := s.entries.values.map (·.definition) } = .ok inv.schema ∧
      inv.decls = s.entries.map fun entry => (entry.1, s.settledDecl entry.1 entry.2.decl) := by
  rw [inventory] at ready
  split at ready
  · rename_i faultless
    have unblamed := (List.append_eq_nil_iff.mp (List.isEmpty_iff.mp faultless)).1
    simp only at ready
    split at ready
    · rename_i schema built
      cases ready
      exact ⟨unblamed, built, rfl⟩
    · cases ready
  · cases ready

/-- The types of the schema are the stamped definitions of the entries. Where entries go by full
name, each is found with its settled declaration. -/
lemma inventory_entries {inv : Inventory}
    (keyed : ∀ entry ∈ s.entries, entry.1 = entry.2.definition.fullName)
    (ready : s.inventory = .ok inv) :
    inv.schema.types = s.entries.map (fun entry => entry.2.definition.stamped) ∧
      (inv.schema.types.map (·.fullName)).Nodup ∧
      ∀ entry ∈ s.entries, inv.decls.get? entry.2.definition.fullName =
        some (s.settledDecl entry.1 entry.2.decl) := by
  obtain ⟨_, built, settled⟩ := inventory_ok ready
  obtain ⟨stamped, distinct, _⟩ := Builder.build_ok built
  have types : inv.schema.types = s.entries.map fun entry => entry.2.definition.stamped := by
    rw [stamped, Table.values, List.map_map, List.map_map]
    rfl
  have keys : s.entries.keys = inv.schema.types.map (·.fullName) := by
    simp only [types, Table.keys, List.map_map]
    exact List.map_congr_left fun entry listed => keyed entry listed
  refine ⟨types, distinct, ?_⟩
  intro entry listed
  have found : s.entries.get? entry.1 = some entry.2 := Table.get?_of_mem (keys ▸ distinct) listed
  rw [settled, Table.get?_map s.entries fun key entry => s.settledDecl key entry.decl,
    ← keyed entry listed, found]
  rfl

theorem inventory_sound {inv : Inventory} (sound : s.Sound) (ready : s.inventory = .ok inv) :
    inv.Sound := by
  obtain ⟨faultless, _, settled⟩ := inventory_ok ready
  obtain ⟨types, distinct, written⟩ := inventory_entries sound.keyed ready
  have typeOf : ∀ d ∈ inv.schema.types, ∃ entry ∈ s.entries, entry.2.definition.stamped = d := by
    intro d present
    rw [types] at present
    exact List.mem_map.mp present
  refine ⟨distinct, ?_, ?_, ?_⟩
  · intro d present member listed
    obtain ⟨entry, _, rfl⟩ := typeOf d present
    exact (TypeDef.mem_stamped listed).1
  · intro d present
    obtain ⟨entry, listed, rfl⟩ := typeOf d present
    exact ⟨s.settledDecl entry.1 entry.2.decl, written entry listed,
      settledDecl_describes sound faultless (sound.entries entry listed)⟩
  · simp [settled, types]

end Survey

lemma Inventory.of_accepted {root : Namespace} {items : List Item} (other : Inventory)
    (accepted : (Inventory.ofItems root items).toOption.isSome = true) :
    Inventory.ofItems root items = .ok ((Inventory.ofItems root items).toOption.getD other) := by
  cases outcome : Inventory.ofItems root items with
  | error faults => rw [outcome] at accepted; cases accepted
  | ok inv => rfl

theorem Inventory.sound_of_ofItems {root : Namespace} {items : List Item} {inv : Inventory}
    (declared : Inventory.ofItems root items = .ok inv)
    (identifiers : (scopedItems root items).BindIdentifiers) : inv.Sound :=
  Survey.inventory_sound (Survey.ofItems_sound identifiers) declared

end MemberMapping
