import MemberMapping.Proofs.Inventory
import MemberMapping.Proofs.NameCharacters
import MemberMapping.Proofs.TypeItems

/-!
The names that declarations take over from source code.

In source code types, fields and parameters are named by identifiers, and elements of a tuple stand
in positions of 32 bits. So types of a schema go by identifiers, and members by identifiers or by
such positions.
-/

namespace MemberMapping

/-! ## Names of members -/

/-- An identifier, or a position of 32 bits. -/
def IsMemberName (name : String) : Prop :=
  Text.isIdentifierText name.toList = true ∨ ∃ n < UInt32.size, name = toString n

lemma isMemberName_of_printable {name : String} (printable : isPrintableName name = true) :
    IsMemberName (Token.plainName name) :=
  Or.inl printable

lemma isMemberName_argument (position : Nat) :
    IsMemberName (Token.plainName ("arg_" ++ toString position)) := by
  refine isMemberName_of_printable (isPrintableName_append rfl ?_)
  intro c present
  have digit : c.isDigit = true := by
    rw [Nat.toString_eq_repr, Nat.toList_repr] at present
    exact Nat.isDigit_of_mem_toDigits (b := 10) (by omega) (by omega) present
  obtain ⟨_, high⟩ := Char.isDigit_iff_toNat.mp digit
  have ascii : c.toNat < 128 := Nat.lt_of_le_of_lt high (by decide)
  rw [Text.isIdentifierPart, if_pos ascii, Char.isAlphanum, digit, Bool.or_true, Bool.true_or]

lemma FieldName.ofText_printable {name : String} (known : IsMemberName name) :
    (FieldName.ofText name).isPrintable = true := by
  rcases known with identifier | ⟨n, small, rfl⟩
  · have parts := Text.Parts.of_identifier identifier
    have printable : isPrintableName name = true := by
      rw [isPrintableName, Token.plainName_of_parts parts]
      exact identifier
    cases letters : name.toList with
    | nil => rw [letters] at identifier; cases identifier
    | cons first rest =>
      rw [letters, Text.isIdentifierText, Bool.and_eq_true] at identifier
      simp only [ofText, letters, List.all_cons, isDigit_of_isIdentifierStart identifier.1,
        Bool.false_and, Bool.and_false, Bool.false_eq_true, if_false]
      exact printable
  · have digits : (toString n).toList = Nat.toDigits 10 n := by
      rw [Nat.toString_eq_repr, Nat.toList_repr]
    have numeric : (Nat.toDigits 10 n).all Char.isDigit = true :=
      List.all_eq_true.mpr fun c present =>
        Nat.isDigit_of_mem_toDigits (b := 10) (by omega) (by omega) present
    have value : Decimal.digitsValue 0 (Nat.toDigits 10 n) = n := Nat.ofDigitChars_ten_toDigits
    have filled : (Nat.toDigits 10 n).isEmpty = false :=
      List.isEmpty_eq_false_iff.mpr Nat.toDigits_ne_nil
    simp only [ofText, digits, numeric, value, filled, small, Bool.not_false, decide_true,
      Bool.and_true, if_true]
    rfl

/-! ## Source code -/

/-- Fields are named by identifiers, or stand in positions of 32 bits. -/
def Fields.WellNamed : Fields → Prop
  | named fields _ => ∀ field ∈ fields, ∀ name ∈ field.name, isPrintableName name = true
  | positional fields _ => fields.length ≤ UInt32.size
  | unit => True

instance : DecidablePred Fields.WellNamed
  | .named fields _ =>
    inferInstanceAs (Decidable (∀ field ∈ fields, ∀ name ∈ field.name, isPrintableName name = true))
  | .positional fields _ => inferInstanceAs (Decidable (fields.length ≤ UInt32.size))
  | .unit => inferInstanceAs (Decidable True)

def TypeItem.written : TypeItem → String
  | struct placed => placed.item.name
  | enum placed => placed.item.name
  | trait placed => placed.item.name

/-- The names that are written in items, as every parser leaves them. -/
structure ScopedItems.WellNamed (items : ScopedItems) : Prop where
  types : ∀ item ∈ items.typeItems, isPrintableName item.written = true
  fields : ∀ placed ∈ items.structs, placed.item.fields.WellNamed
  parameters : items.BindIdentifiers

/-! ## Declarations -/

structure TypeDef.WellNamed (d : TypeDef) : Prop where
  name : Text.isIdentifierText d.name.toList = true
  members : ∀ member ∈ d.members, IsMemberName member.name
  params : ∀ c ∈ d.constructors, ∀ param ∈ c.params, IsMemberName param.name

/-- The fields of a declaration can be printed, that for the inherited part among them. -/
structure Decl.WellNamed (decl : Decl) : Prop where
  base : ∀ part ∈ decl.base, isPrintableName part.field = true
  fields : ∀ name written, decl.members.get? name = some written →
    written.access.isPrintable = true

structure Entry.WellNamed (e : Entry) : Prop where
  definition : e.definition.WellNamed
  decl : e.decl.WellNamed

structure Inventory.WellNamed (inv : Inventory) : Prop where
  types : ∀ d ∈ inv.schema.types, d.WellNamed
  decls : ∀ entry ∈ inv.decls, entry.2.WellNamed

/-! ## The survey -/

namespace TypeItem

variable {names : DeclaredNames}

lemma emptyEntry_wellNamed {scope : Namespace} {name : String} {kind : TypeKind} {shape : Shape}
    (printable : isPrintableName name = true) : (emptyEntry scope name kind shape).WellNamed := by
  refine ⟨⟨printable, ?_, ?_⟩, ⟨?_, ?_⟩⟩
  · intro member present; cases present
  · intro c present; cases present
  · intro part present; cases present
  · intro name written found; cases found

lemma struct_wellNamed {scope : Namespace} {item : StructItem}
    (printable : isPrintableName item.name = true) (named : item.fields.WellNamed) :
    (item.entry names scope).WellNamed := by
  have path := @entry_path names (.struct ⟨scope, item⟩)
  have name : Text.isIdentifierText (item.entry names scope).definition.name.toList = true := by
    have same : (item.entry names scope).definition.name = Token.plainName item.name :=
      congrArg TypePath.name path
    rw [same]
    exact printable
  cases form : item.fields with
  | unit =>
    refine ⟨⟨name, ?_, ?_⟩, ⟨?_, ?_⟩⟩
    · simp [StructItem.entry, form, emptyEntry]
    · simp [StructItem.entry, form, emptyEntry]
    · simp [StructItem.entry, form, emptyEntry]
    · simp [StructItem.entry, form, emptyEntry, Table.get?]
  | positional fields trailing =>
    rw [form] at named
    have counted : ∀ element ∈ successes (elementsFrom names scope 0 fields),
        IsMemberName element.member.name := by
      intro element present
      obtain ⟨position, bound, called⟩ := mem_successes_name present
      exact Or.inr ⟨position, Nat.lt_of_lt_of_le bound named, called⟩
    refine ⟨⟨name, ?_, ?_⟩, ⟨?_, ?_⟩⟩
    · simpa [StructItem.entry, form] using counted
    · simpa [StructItem.entry, form, tupleConstructor] using counted
    · simp [StructItem.entry, form, emptyEntry]
    · simp [StructItem.entry, form, emptyEntry, Table.get?]
  | named fields trailing =>
    rw [form] at named
    obtain ⟨_, base, written, members, _, _⟩ := StructItem.entry_named names scope form
    refine ⟨⟨name, ?_, ?_⟩, ⟨?_, ?_⟩⟩
    · intro member present
      rw [members] at present
      obtain ⟨m, known, rfl⟩ := List.mem_map.mp present
      obtain ⟨field, listed, read⟩ := List.mem_filterMap.mp known
      have declares := Field.declares_of_member? names scope read
      rw [declares.name]
      exact isMemberName_of_printable (named field listed _ declares.called)
    · simp only [StructItem.entry, form, Draft.settleBase]
      split <;> simp [Draft.reading, emptyEntry]
    · intro part held
      rw [base] at held
      obtain ⟨field, listed, read⟩ := List.exists_of_findSome?_eq_some held
      exact named field listed _ (Field.written_of_part? names scope read).1
    · intro key decl found
      rw [written] at found
      rcases Table.get?_foldl_set found with none | ⟨m, known, _, rfl⟩
      · cases none
      · obtain ⟨field, listed, read⟩ := List.mem_filterMap.mp known
        have declares := Field.declares_of_member? names scope read
        rw [declares.access]
        exact named field listed _ declares.called

lemma entry_wellNamed {items : ScopedItems} (named : items.WellNamed) {item : TypeItem}
    (listed : item ∈ items.typeItems) : (item.entry names).WellNamed := by
  have printable := named.types item listed
  cases item with
  | enum placed => exact emptyEntry_wellNamed printable
  | trait placed => exact emptyEntry_wellNamed printable
  | struct placed =>
    have known : placed ∈ items.structs := by
      simpa [ScopedItems.typeItems] using listed
    exact struct_wellNamed printable (named.fields placed known)

end TypeItem

lemma Function.isMemberName_parameters {function : Function} {names : DeclaredNames}
    {scope : Namespace} (identifiers : function.BindsIdentifiers) {declared : DeclaredMember}
    (present : declared ∈ successes (function.declaredParameters names scope)) :
    IsMemberName declared.member.name := by
  rcases Function.name_of_declared identifiers present with identifier | ⟨position, called⟩
  · exact Or.inl identifier
  · rw [called]
    exact isMemberName_argument position

namespace Survey

def ForallEntries (P : Entry → Prop) (s : Survey) : Prop := ∀ entry ∈ s.entries, P entry.2

section ForallEntries

variable {P : Entry → Prop} {s : Survey} {names : DeclaredNames}

lemma forallEntries_update (known : s.ForallEntries P) (key : String) {change : Entry → Entry}
    (kept : ∀ entry, P entry → P (change entry)) :
    ForallEntries P { s with entries := s.entries.update key change } := by
  intro entry present
  rcases Table.mem_update present with old | ⟨before, old, rfl⟩
  · exact known entry old
  · exact kept before (known _ old)

/-- What holds of the entries of all items, and is kept where an implementation adds an interface or
a constructor, holds of all entries that a survey finds. -/
theorem forallEntries_ofItems {items : ScopedItems}
    (types : ∀ item ∈ items.typeItems, P (item.entry (declaredNames items)))
    (interfaces : ∀ entry interface, P entry →
      P { entry with
        definition.interfaces := entry.definition.interfaces ++ [interface] })
    (constructors : ∀ placed ∈ items.impls, ∀ function,
      .function function ∈ placed.item.members → ∀ typeName entry, P entry →
        P { entry with
          definition.constructors := entry.definition.constructors ++
            [function.constructor {} typeName
              (successes (function.declaredParameters (declaredNames items) placed.scope))] }) :
    (ofItems items).ForallEntries P := by
  rw [ofItems_eq]
  refine List.foldlRecOn _ _ ?_ ?_
  · refine List.foldlRecOn _ _ (fun entry none => (by cases none)) ?_
    intro s known item listed entry present
    rw [(addType_eq _ s item).1] at present
    rcases Table.mem_set present with rfl | old
    · exact types item listed
    · exact known entry old
  · intro s known placed listed
    rw [addImpl]
    split
    · simp only
      split
      · exact known
      · split
        · exact known
        · exact forallEntries_update known _ fun entry => interfaces entry _
      · refine List.foldlRecOn _ _ known ?_
        intro s known member present
        cases member with
        | other code => exact known
        | function function =>
          rw [addFunction]
          split
          · exact forallEntries_update known _
              fun entry => constructors placed listed function present _ entry
          · exact known
    · exact known

end ForallEntries

theorem ofItems_wellNamed {items : ScopedItems} (named : items.WellNamed) :
    (ofItems items).ForallEntries Entry.WellNamed := by
  refine forallEntries_ofItems (fun item listed => TypeItem.entry_wellNamed named listed) ?_ ?_
  · exact fun entry _ known =>
      ⟨⟨known.definition.name, known.definition.members, known.definition.params⟩, known.decl⟩
  · intro placed listed function present typeName entry known
    refine ⟨⟨known.definition.name, known.definition.members, ?_⟩, known.decl⟩
    intro c added param held
    rcases List.mem_append.mp added with old | new
    · exact known.definition.params c old param held
    · rw [List.mem_singleton.mp new] at held
      obtain ⟨declared, among, rfl⟩ := List.mem_map.mp held
      exact Function.isMemberName_parameters (named.parameters placed listed function present) among

lemma settledDecl_wellNamed {s : Survey} {key : String} {decl : Decl} (named : decl.WellNamed) :
    (s.settledDecl key decl).WellNamed := by
  refine ⟨?_, ?_⟩
  · rw [(settledDecl_shape decl).2]
    exact named.base
  · rw [settledDecl]
    split
    · intro name written found
      obtain ⟨position, _, _, _, access⟩ := WrittenConstructor.position_of_table found
      rw [access]
      rfl
    · exact named.fields

end Survey

lemma TypeDef.stamped_wellNamed {d : TypeDef} (named : d.WellNamed) : d.stamped.WellNamed := by
  refine ⟨named.name, ?_, ?_⟩
  · intro member present
    obtain ⟨_, declared, known, same⟩ := TypeDef.mem_stamped present
    rw [← same]
    exact named.members declared known
  · intro c present param held
    obtain ⟨c, known, rfl⟩ := List.mem_map.mp present
    obtain ⟨declared, among, rfl⟩ := List.mem_map.mp held
    exact named.params c known declared among

theorem Inventory.wellNamed_of_ofItems {root : Namespace} {items : List Item} {inv : Inventory}
    (declared : Inventory.ofItems root items = .ok inv)
    (named : (scopedItems root items).WellNamed) : inv.WellNamed := by
  have entries := Survey.ofItems_wellNamed named
  have sound := Survey.ofItems_sound named.parameters
  obtain ⟨_, _, settled⟩ := Survey.inventory_ok declared
  obtain ⟨types, _, _⟩ := Survey.inventory_entries sound.keyed declared
  refine ⟨?_, ?_⟩
  · intro d present
    rw [types] at present
    obtain ⟨entry, listed, rfl⟩ := List.mem_map.mp present
    exact TypeDef.stamped_wellNamed (entries entry listed).definition
  · intro entry present
    rw [settled] at present
    obtain ⟨entry, listed, rfl⟩ := List.mem_map.mp present
    exact Survey.settledDecl_wellNamed (entries entry listed).decl

end MemberMapping
