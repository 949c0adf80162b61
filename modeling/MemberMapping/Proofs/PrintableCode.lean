import MemberMapping.Expansion
import MemberMapping.Proofs.ModuleWalk
import MemberMapping.Proofs.References
import MemberMapping.Proofs.SourceAccess
import MemberMapping.Proofs.WrittenNames

/-!
Which generated code can be printed.

The fields that are read, the names of functions and methods and what the two walks over the modules
need are always there. Only two things have no written form: a number that is not finite among the
parameters of a converter, and the name of an extension trait that begins with a character which no
identifier begins with.
-/

namespace MemberMapping

/-! ## Places -/

lemma Part.mem_of_upTo {typeName : String} {part : Part} {parts : List Part}
    (among : part ∈ Part.upTo typeName parts) : part ∈ parts := by
  induction parts with
  | nil => cases among
  | cons first rest ih =>
    rw [upTo] at among
    split at among
    · rw [List.mem_singleton.mp among]
      exact List.mem_cons_self
    · rcases List.mem_cons.mp among with rfl | later
      · exact List.mem_cons_self
      · exact List.mem_cons_of_mem first (ih later)

namespace Inventory

variable {inv : Inventory} (named : inv.WellNamed)

include named

lemma part_printable {limit : Nat} {decl : Decl} (own : decl.WellNamed) {part : Part}
    (among : part ∈ inv.partsWithin limit decl) : isPrintableName part.field = true := by
  induction limit generalizing decl with
  | zero => cases among
  | succ limit ih =>
    rw [partsWithin] at among
    cases inherited : decl.base with
    | none => rw [inherited] at among; cases among
    | some base =>
      simp only [inherited] at among
      rcases List.mem_cons.mp among with rfl | later
      · exact own.base base inherited
      · cases next : inv.decls.get? base.path.definitionName with
        | none => rw [next] at later; cases later
        | some decl' =>
          rw [next] at later
          exact ih (named.decls _ (Table.mem_of_get? next)) later

lemma isMemberName_candidate (sound : inv.Sound) {source : TypeDef} {decl : Decl}
    (known : source ∈ inv.schema.types) (describes : decl.Describes source) {member : Member}
    (present : member ∈ inv.schema.sourceCandidates source) : IsMemberName member.name := by
  have own := named.types source known
  have held := (List.mem_filter.mp present).1
  rw [Schema.kindMembers] at held
  split at held
  · obtain ⟨owner, listed, among, _, _⟩ := declared_of_mem_allMembers sound known describes held
    exact (named.types owner listed).members member among
  · rw [TypeDef.constructionMembers] at held
    split at held
    · rename_i widest found
      exact own.params widest (TypeDef.mem_of_widestConstructor? found) member held
    · exact own.members member held
  · exact own.members member held
  · exact own.members member held

end Inventory

namespace Emission

variable {e : Emission}

lemma sourcePlace_printable (named : e.inventory.WellNamed) (own : e.source.WellNamed)
    {name : String} (known : IsMemberName name) :
    (e.sourcePlace name).fields.all (·.isPrintable) = true := by
  have parts : ∀ part ∈ e.partsTo name, isPrintableName part.field = true := by
    intro part among
    rw [partsTo] at among
    split at among
    · cases among
    · exact Inventory.part_printable named own (Part.mem_of_upTo among)
  have owner : (e.owner name).WellNamed := by
    rw [Emission.owner]
    cases found : (e.partsTo name).getLast?.bind
        fun part => e.inventory.decls.get? part.typeName with
    | none => exact own
    | some decl =>
      obtain ⟨part, _, declared⟩ := Option.bind_eq_some_iff.mp found
      exact named.decls _ (Table.mem_of_get? declared)
  rw [sourcePlace, List.all_append, Bool.and_eq_true, List.all_eq_true]
  refine ⟨?_, ?_⟩
  · intro field among
    obtain ⟨part, listed, rfl⟩ := List.mem_map.mp among
    exact parts part listed
  · rw [List.all_cons, List.all_nil, Bool.and_true]
    cases written : (e.owner name).members.get? name with
    | none => exact FieldName.ofText_printable known
    | some member => exact owner.fields name member written

lemma place_of_value {value : MemberValue} (set : value ∈ e.code.values) {place : FieldPath}
    (read : value.place? = some place) :
    ∃ entry ∈ e.model.sourceMembers ++ e.model.typeMembers,
      place = e.sourcePlace entry.sourceName := by
  have ofEntry : ∀ entry ∈ e.model.sourceMembers ++ e.model.typeMembers,
      value = e.mappedValue entry → ∃ entry ∈ e.model.sourceMembers ++ e.model.typeMembers,
        place = e.sourcePlace entry.sourceName := by
    rintro entry listed rfl
    rw [mappedValue_place?] at read
    exact ⟨entry, listed, (Option.some.inj read).symm⟩
  -- A value stands in the construction or in an assignment, and either kind is made of entries.
  rcases List.mem_append.mp set with built | assigned
  · have member : ∃ declared ∈ e.target.members, value = e.memberValue declared.1 declared.2 := by
      rw [code, construction] at built
      cases form : e.target.shape <;> simp only [form, Construction.values, List.map_map] at built
      case named | tuple =>
        obtain ⟨declared, listed, rfl⟩ := List.mem_map.mp built
        exact ⟨declared, listed, rfl⟩
      all_goals cases built
    obtain ⟨⟨name, decl⟩, _, rfl⟩ := member
    rw [memberValue] at read ofEntry
    split at read
    · rename_i entry found
      rw [found] at ofEntry
      exact ofEntry entry (List.mem_append_left _ (List.mem_of_find?_eq_some found)) rfl
    · split at read <;> cases read
  · rw [code, update?] at assigned
    split at assigned
    · simp only [Option.map_some, Option.getD_some] at assigned
      obtain ⟨assignment, listed, rfl⟩ := List.mem_map.mp assigned
      obtain ⟨entry, writable, formed⟩ := List.mem_filterMap.mp listed
      obtain ⟨decl, _, rfl⟩ := Option.map_eq_some_iff.mp formed
      exact ofEntry entry (List.mem_append_right _ (List.mem_filter.mp writable).1) rfl
    · cases assigned

end Emission

/-! ## Code -/

def MemberValue.literals : MemberValue → List Literal
  | converted _ _ parameters => parameters
  | _ => []

/-- A value that is read where it can be is printed if the parameters of its converter can be. -/
lemma MemberValue.isPrintable_eq {value : MemberValue}
    (read : ∀ place ∈ value.place?, place.fields.all (·.isPrintable) = true) :
    value.isPrintable = value.literals.all (·.isPrintable) := by
  cases value with
  | converted converter place parameters =>
    have fields : place.fields.all (·.isPrintable) = true := read place rfl
    rw [isPrintable, fields, Bool.true_and]
    rfl
  | cloned place | boxed place | lifted place | mapped place | mappedEach place =>
    exact read place rfl
  | parameter name | unset => rfl

lemma Literal.isPrintable_eq_false {literal : Literal} :
    literal.isPrintable = false ↔ ∃ x, literal = .float x ∧ x.isFinite = false := by
  cases literal with
  | float x =>
    constructor
    · exact fun infinite => ⟨x, rfl, infinite⟩
    · rintro ⟨_, same, infinite⟩
      cases same
      exact infinite
  | bool _ | int _ | string _ | char _ =>
    constructor
    · exact fun other => (by cases other)
    · rintro ⟨_, same, _⟩
      cases same

namespace MappingCode

/-- A converter is handed a number that is not finite. -/
def HandsInfinity (code : MappingCode) : Prop :=
  ∃ value ∈ code.values, ∃ x, .float x ∈ value.literals ∧ x.isFinite = false

/-- Code that is read where it can be, for types that go by identifiers, cannot be printed if it
hands a converter a number that is not finite, or if the name of its extension trait begins like no
identifier. -/
lemma isPrintable_eq_false_iff {code : MappingCode} (source : Text.Parts code.sourceName.toList)
    (target : Text.Parts code.targetName.toList)
    (read : ∀ value ∈ code.values, ∀ place ∈ value.place?,
      place.fields.all (·.isPrintable) = true) :
    code.isPrintable = false ↔
      code.HandsInfinity ∨ (code.converts = true ∧ code.traitBegins = false) := by
  have names : code.names.all isPrintableName = false ↔
      code.converts = true ∧ code.traitBegins = false := by
    rw [← Bool.not_eq_true, names_printable_iff source target]
    cases code.converts <;> cases code.traitBegins <;> decide
  have values : code.values.all (·.isPrintable) = false ↔ code.HandsInfinity := by
    rw [List.all_eq_false]
    refine exists_congr fun value => and_congr_right fun set => ?_
    rw [MemberValue.isPrintable_eq (read value set), Bool.not_eq_true, List.all_eq_false]
    constructor
    · rintro ⟨literal, handed, unprintable⟩
      obtain ⟨x, rfl, infinite⟩ :=
        Literal.isPrintable_eq_false.mp (Bool.eq_false_iff.mpr unprintable)
      exact ⟨x, handed, infinite⟩
    · rintro ⟨x, handed, infinite⟩
      exact ⟨.float x, handed, Bool.eq_false_iff.mp infinite⟩
  rw [isPrintable, Bool.and_eq_false_iff, names, values, Or.comm]

end MappingCode

lemma Schema.candidate_of_entry {s : Schema} {target source : TypeDef} {entry : MappedMember}
    (among : entry ∈ s.readings target source ++ s.writings target source) :
    ∃ candidate ∈ s.sourceCandidates source, entry.sourceName = candidate.name := by
  rcases List.mem_append.mp among with read | written
  · obtain ⟨member, _, read⟩ := List.mem_filterMap.mp read
    obtain ⟨candidate, found, pairs⟩ := Schema.pairs_of_reading? read
    exact ⟨candidate, (Schema.mem_of_findSource? found).1, pairs.sourceName⟩
  · obtain ⟨candidate, listed, written⟩ := List.mem_filterMap.mp written
    obtain ⟨member, _, converted⟩ := Option.bind_eq_some_iff.mp written
    obtain ⟨c, _, rfl⟩ := Option.map_eq_some_iff.mp converted
    exact ⟨candidate, listed, rfl⟩

lemma Inventory.unprintable_iff {root : Namespace} {items : List Item} {inv : Inventory}
    {options : Options} (declared : Inventory.ofItems root items = .ok inv)
    (written : (scopedItems root items).WellNamed) {placed : Namespace × MappingCode}
    (pending : placed ∈ inv.codeOf (generate inv.schema options).models) :
    placed.2.isPrintable = false ↔
      placed.2.HandsInfinity ∨ (placed.2.converts = true ∧ placed.2.traitBegins = false) := by
  have sound := Inventory.sound_of_ofItems declared written.parameters
  have named := Inventory.wellNamed_of_ofItems declared written
  obtain ⟨model, generated, formed⟩ := List.mem_filterMap.mp pending
  obtain ⟨e, emitted, rfl⟩ := Option.map_eq_some_iff.mp formed
  obtain ⟨target, known, source, listed, decl, form, rfl, held, describes, planned⟩ :=
    planned_of_generate sound generated
  cases Option.some.inj (emitted.symm.trans planned)
  refine MappingCode.isPrintable_eq_false_iff
    (Text.Parts.of_identifier (named.types source listed).name)
    (Text.Parts.of_identifier (named.types target known).name) ?_
  intro value set place read
  obtain ⟨entry, among, rfl⟩ := Emission.place_of_value set read
  obtain ⟨candidate, offered, same⟩ := Schema.candidate_of_entry among
  refine Emission.sourcePlace_printable named (named.decls _ (Table.mem_of_get? held)) ?_
  rw [same]
  exact Inventory.isMemberName_candidate named sound listed describes offered

lemma expandItems_unprintable_iff {root : Namespace} {items : List Item} {options : Options} :
    expandItems root items options = .error .unprintable ↔
      ∃ inv, Inventory.ofItems root items = .ok inv ∧
        ∃ placed ∈ inv.codeOf (generate inv.schema options).models,
          placed.2.isPrintable = false := by
  cases outcome : Inventory.ofItems root items with
  | error faults =>
    rw [expandItems, outcome]
    constructor
    · intro failed; cases failed
    · rintro ⟨inv, ready, _⟩; cases ready
  | ok inv =>
    have answer : expandItems root items options =
        if (inv.codeOf (generate inv.schema options).models).all (·.2.isPrintable) then
          .ok ⟨(place root (inv.codeOf (generate inv.schema options).models)
            (Item.strippedAll items)).1, generate inv.schema options⟩
        else .error .unprintable := by
      rw [expandItems, outcome]
      rfl
    rw [answer]
    split
    · rename_i printable
      constructor
      · intro failed; cases failed
      · rintro ⟨_, ready, placed, pending, unprintable⟩
        cases ready
        rw [List.all_eq_true.mp printable placed pending] at unprintable
        cases unprintable
    · rename_i unprintable
      obtain ⟨placed, pending, failed⟩ := List.all_eq_false.mp (Bool.not_eq_true _ ▸ unprintable)
      exact iff_of_true rfl ⟨inv, rfl, placed, pending, Bool.eq_false_iff.mpr failed⟩

lemma SourceFile.expand_unprintable_iff {file : SourceFile} {options : Options} :
    file.expand options = .error .unprintable ↔
      expandItems ⟨"crate"⟩ file.items options = .error .unprintable := by
  rw [expand]
  cases expandItems ⟨"crate"⟩ file.items options with
  | error fault =>
    exact ⟨fun failed => congrArg Except.error (Except.error.inj failed),
      fun failed => congrArg Except.error (Except.error.inj failed)⟩
  | ok expansion =>
    constructor
    · intro failed; cases failed
    · intro failed; cases failed

/-- The second walk over the modules always finds the namespace that it needs and uses up those of
the first. Where the names of a file are written as identifiers, its expansion comes to an expanded
file or to faults of its declarations, unless code is generated for it that cannot be printed: code
that hands a converter a number that is not finite, or that declares an extension trait whose name
begins like no identifier. -/
theorem SourceFile.expand_fails_to_print_iff {file : SourceFile}
    (written : (scopedItems ⟨"crate"⟩ file.items).WellNamed) (options : Options) :
    collect (namespaces ⟨"crate"⟩ file.items) file.items =
        some (scopedItems ⟨"crate"⟩ file.items, []) ∧
      (file.expand options = .error .unprintable ↔
        ∃ inv, Inventory.ofItems ⟨"crate"⟩ file.items = .ok inv ∧
          ∃ placed ∈ inv.codeOf (generate inv.schema options).models,
            placed.2.HandsInfinity ∨
              (placed.2.converts = true ∧ placed.2.traitBegins = false)) := by
  refine ⟨?_, ?_⟩
  · have whole := Item.collectAll_eq ⟨"crate"⟩ [] file.items
    rw [List.append_nil] at whole
    rw [scopedItems_eq]
    exact whole
  · rw [expand_unprintable_iff, expandItems_unprintable_iff]
    refine exists_congr fun inv => and_congr_right fun declared => ?_
    refine exists_congr fun placed => and_congr_right fun pending => ?_
    exact Inventory.unprintable_iff declared written pending

/-- A struct whose name has a number behind an underscore, and a struct that is mapped from it. -/
def numberedFile : SourceFile :=
  { innerAttributes := []
    items :=
      [.struct (.mapped [] "_1" [.marked [] "id" "i32"]),
        .struct (.mapped [.ident "_1"] "Foo" [.marked [] "id" "i32"])] }

lemma numberedFile_wellNamed : (scopedItems ⟨"crate"⟩ numberedFile.items).WellNamed := by
  refine ⟨?_, by decide +kernel, fun placed listed => (by cases listed)⟩
  have names : ∀ name ∈ (scopedItems ⟨"crate"⟩ numberedFile.items).typeItems.map TypeItem.written,
      isPrintableName name = true := by decide +kernel
  exact fun item listed => names _ (List.mem_map_of_mem listed)

theorem numberedFile_fails_to_print_iff :
    (scopedItems ⟨"crate"⟩ numberedFile.items).WellNamed ∧
    collect (namespaces ⟨"crate"⟩ numberedFile.items) numberedFile.items =
        some (scopedItems ⟨"crate"⟩ numberedFile.items, []) ∧
      (numberedFile.expand {} = .error .unprintable ↔
        ∃ inv, Inventory.ofItems ⟨"crate"⟩ numberedFile.items = .ok inv ∧
          ∃ placed ∈ inv.codeOf (generate inv.schema {}).models,
            placed.2.HandsInfinity ∨
              (placed.2.converts = true ∧ placed.2.traitBegins = false)) :=
  ⟨numberedFile_wellNamed, SourceFile.expand_fails_to_print_iff numberedFile_wellNamed {}⟩

def numberedInventory : Inventory :=
  (Inventory.ofItems ⟨"crate"⟩ numberedFile.items).toOption.getD ⟨⟨{}, []⟩, []⟩

/-- The names are identifiers and the declarations are accepted, but the name of the extension trait
begins with the number. -/
theorem numberedFile_unprintable :
    (scopedItems ⟨"crate"⟩ numberedFile.items).WellNamed ∧
    Inventory.ofItems ⟨"crate"⟩ numberedFile.items = .ok numberedInventory ∧
    (numberedInventory.codeOf (generate numberedInventory.schema {}).models).map (·.2.traitName) =
      ["1ToFoo"] ∧
    numberedFile.expand {} = .error .unprintable := by
  have ready : Inventory.ofItems ⟨"crate"⟩ numberedFile.items = .ok numberedInventory :=
    Inventory.of_accepted _ (by decide +kernel)
  have blocked : (numberedInventory.codeOf (generate numberedInventory.schema {}).models).all
      (·.2.isPrintable) = false := by decide +kernel
  obtain ⟨placed, pending, failed⟩ := List.all_eq_false.mp blocked
  refine ⟨numberedFile_wellNamed, ready, by decide +kernel, ?_⟩
  rw [SourceFile.expand_unprintable_iff, expandItems_unprintable_iff]
  exact ⟨numberedInventory, ready, placed, pending, Bool.eq_false_iff.mpr failed⟩

end MemberMapping
