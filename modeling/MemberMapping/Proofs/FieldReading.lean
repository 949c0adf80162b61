import MemberMapping.Proofs.Declarations

/-!
What the fields of a struct come to.

By itself a field is a member, holds the inherited part, or is at fault. Reading the fields one
after another comes to what they are by themselves, but for the inherited part: of several fields
for it the first one counts and the others are at fault.
-/

namespace MemberMapping

/-! ## Attributes -/

def Attribute.present (name : String) (attributes : List Attribute) : Bool :=
  attributes.any (·.path.isName name)

lemma NamePath.other_of_isName {path : NamePath} {name other : String}
    (one : path.isName name = true) (different : name ≠ other) : path.isName other = false := by
  rw [Bool.eq_false_iff]
  intro two
  rw [isName, Bool.and_eq_true, beq_iff_eq] at one two
  apply different
  simpa using one.2.symm.trans two.2

lemma set_of_read {ε α β : Type} {outcome : Except ε α} {set : α → β} {result : β}
    (done : (outcome >>= fun value => pure (set value)) = .ok result) :
    ∃ value, outcome = .ok value ∧ set value = result := by
  cases outcome with
  | error fault => cases done
  | ok value =>
    cases done
    exact ⟨value, rfl, rfl⟩

namespace Marked

variable {α : Type} {add : α → Attribute → Except AttributeFault α}

/-- What every attribute adds to is told from the attributes, where all of them can be read. -/
lemma told_by_attributes {said : α → Bool} {tells : Attribute → Bool}
    (each : ∀ marks a marks', add marks a = .ok marks' → said marks' = (said marks || tells a))
    {start marks : α} {attributes : List Attribute}
    (read : ofAttributes add start attributes = .ok marks) :
    said marks = (said start || attributes.any tells) := by
  have run : ∀ m : Marked α, (attributes.foldl (step add) m).result = .ok marks →
      m.faults = [] ∧ said marks = (said m.marks || attributes.any tells) := by
    clear read
    induction attributes with
    | nil =>
      intro m done
      rw [List.foldl_nil, result] at done
      split at done
      · rename_i faultless
        cases done
        exact ⟨List.isEmpty_iff.mp faultless, (Bool.or_false _).symm⟩
      · cases done
    | cons a rest ih =>
      intro m done
      obtain ⟨faultless, known⟩ := ih _ done
      rw [step] at faultless known
      cases added : add m.marks a with
      | error fault =>
        rw [added, take] at faultless
        simp at faultless
      | ok marks' =>
        rw [added, take] at faultless known
        rw [known, each m.marks a marks' added, List.any_cons, Bool.or_assoc]
        exact ⟨faultless, rfl⟩
  exact (run ⟨start, []⟩ read).2

end Marked

lemma Attribute.flag_ok {a : Attribute} {name : String} {seen set : Bool}
    (read : a.flag name seen = .ok set) : set = true := by
  rw [flag] at read
  split at read
  · split at read
    · cases read
    · cases read
      rfl
  · cases read

/-- A struct whose attributes can be read names its source if there is an attribute for it. -/
lemma TypeMarks.source_of_read {attributes : List Attribute} {marks : TypeMarks}
    (read : TypeMarks.ofAttributes attributes = .ok marks) :
    marks.source.isSome = Attribute.present "map_from" attributes := by
  have each : ∀ (marks : TypeMarks) a marks', marks.add a = .ok marks' →
      marks'.source.isSome = (marks.source.isSome || a.path.isName "map_from") := by
    intro marks a marks' added
    rw [add] at added
    by_cases named : a.path.isName "map_from" = true
    · rw [if_pos named] at added
      rw [named, Bool.or_true]
      split at added
      · cases added
      · obtain ⟨source, _, rfl⟩ := set_of_read added
        rfl
    · rw [if_neg named] at added
      rw [Bool.not_eq_true] at named
      rw [named, Bool.or_false]
      split at added
      · obtain ⟨set, _, rfl⟩ := set_of_read added
        rfl
      · split at added
        · obtain ⟨set, _, rfl⟩ := set_of_read added
          rfl
        · cases added
          rfl
  exact Marked.told_by_attributes each read

lemma MemberMarks.add_flags {marks marks' : MemberMarks} {a : Attribute}
    (added : marks.add a = .ok marks') :
    marks'.ignored = (marks.ignored || a.path.isName "ignore_member") ∧
      marks'.base = (marks.base || a.path.isName "map_base") := by
  rw [add] at added
  by_cases rename : a.path.isName "map_property" = true
  · rw [if_pos rename] at added
    rw [NamePath.other_of_isName rename (by decide), NamePath.other_of_isName rename (by decide)]
    split at added
    · cases added
    · obtain ⟨source, _, rfl⟩ := set_of_read added
      exact ⟨(Bool.or_false _).symm, (Bool.or_false _).symm⟩
  rw [if_neg rename] at added
  by_cases converted : a.path.isName "converter" = true
  · rw [if_pos converted] at added
    rw [NamePath.other_of_isName converted (by decide),
      NamePath.other_of_isName converted (by decide)]
    split at added
    · cases added
    · obtain ⟨converter, _, rfl⟩ := set_of_read added
      exact ⟨(Bool.or_false _).symm, (Bool.or_false _).symm⟩
  rw [if_neg converted] at added
  by_cases ignored : a.path.isName "ignore_member" = true
  · rw [if_pos ignored] at added
    obtain ⟨set, read, rfl⟩ := set_of_read added
    rw [ignored, NamePath.other_of_isName ignored (by decide), Bool.or_true, Bool.or_false]
    exact ⟨Attribute.flag_ok read, rfl⟩
  rw [if_neg ignored] at added
  rw [Bool.not_eq_true] at ignored
  rw [ignored, Bool.or_false]
  by_cases frozen : a.path.isName "read_only" = true
  · rw [if_pos frozen] at added
    obtain ⟨set, _, rfl⟩ := set_of_read added
    rw [NamePath.other_of_isName frozen (by decide), Bool.or_false]
    exact ⟨rfl, rfl⟩
  rw [if_neg frozen] at added
  by_cases base : a.path.isName "map_base" = true
  · rw [if_pos base] at added
    obtain ⟨set, read, rfl⟩ := set_of_read added
    rw [base, Bool.or_true]
    exact ⟨rfl, Attribute.flag_ok read⟩
  rw [if_neg base] at added
  cases added
  rw [Bool.not_eq_true] at base
  rw [base, Bool.or_false]
  exact ⟨rfl, rfl⟩

lemma MemberMarks.flags_of_read {attributes : List Attribute} {marks : MemberMarks}
    (read : MemberMarks.ofAttributes attributes = .ok marks) :
    marks.ignored = Attribute.present "ignore_member" attributes ∧
      marks.base = Attribute.present "map_base" attributes := by
  have ignored : ∀ (marks : MemberMarks) a marks', marks.add a = .ok marks' →
      marks'.ignored = (marks.ignored || a.path.isName "ignore_member") :=
    fun _ _ _ added => (add_flags added).1
  have base : ∀ (marks : MemberMarks) a marks', marks.add a = .ok marks' →
      marks'.base = (marks.base || a.path.isName "map_base") :=
    fun _ _ _ added => (add_flags added).2
  exact ⟨Marked.told_by_attributes ignored read, Marked.told_by_attributes base read⟩

/-- A member is ignored if its field is marked so. -/
lemma MemberMarks.member_isIgnored (marks : MemberMarks) (names : DeclaredNames)
    (scope : Namespace) (name : String) (ty : TypeExpr) (kind : MemberKind) :
    (marks.member names scope name ty kind).isIgnored = marks.ignored := by
  obtain ⟨rename, ignored, converter, readOnly, base⟩ := marks
  cases rename <;> cases ignored <;> cases converter <;> rfl

/-! ## Fields -/

section Fields

variable (names : DeclaredNames) (scope : Namespace)

namespace Field

def member? (field : Field) : Option DeclaredMember :=
  match field.name, MemberMarks.ofAttributes field.attributes with
  | some name, .ok marks =>
    if marks.base then none
    else some
      { member := marks.member names scope (Token.plainName name) field.ty .field
        decl := ⟨name, .named name, field.ty, marks.converter.map (·.path)⟩ }
  | _, _ => none

def part? (field : Field) : Option BasePart :=
  match field.name, MemberMarks.ofAttributes field.attributes with
  | some name, .ok marks =>
    if marks.base then
      match field.ty.ty names scope with
      | .path path => some ⟨name, field.ty, path⟩
      | _ => none
    else none
  | _, _ => none

/-- The faults of a field, where the inherited part is `taken` already or not. -/
def faults (taken : Bool) (field : Field) : List DeclarationFault :=
  match field.name, MemberMarks.ofAttributes field.attributes with
  | none, _ => []
  | some _, .error faults => faults.map .inAttribute
  | some _, .ok marks =>
    if marks.base then
      if taken then [.secondBase]
      else
        match field.ty.ty names scope with
        | .path _ => []
        | _ => [.baseNotNominal]
    else []

def faultsFrom : Bool → List Field → List DeclarationFault
  | _, [] => []
  | taken, field :: rest =>
    field.faults names scope taken ++ faultsFrom (taken || (field.part? names scope).isSome) rest

end Field

def Draft.reading (d : Draft) (fields : List Field) : Draft :=
  let members := fields.filterMap (Field.member? names scope)
  { entry :=
      { definition :=
          { d.entry.definition with
            members := d.entry.definition.members ++ members.map (·.member) }
        decl :=
          { d.entry.decl with
            base := d.entry.decl.base.or (fields.findSome? (Field.part? names scope))
            members := members.foldl (fun t m => t.set m.member.name m.decl)
              d.entry.decl.members } }
    faults := d.faults ++ Field.faultsFrom names scope d.entry.decl.base.isSome fields }

lemma Draft.addField_eq (d : Draft) (field : Field) :
    addField names scope d field = d.reading names scope [field] := by
  obtain ⟨⟨definition, declName, shape, source, base, members, constructor⟩, faults⟩ := d
  simp only [addField, reading, Field.faultsFrom, Field.faults, List.filterMap_cons,
    List.filterMap_nil, List.findSome?_cons, List.findSome?_nil, Field.member?, Field.part?]
  cases field.name with
  | none => simp
  | some name =>
    cases MemberMarks.ofAttributes field.attributes with
    | error faults => simp [blame]
    | ok marks =>
      by_cases inherited : marks.base = true
      · simp only [if_pos inherited, addBase]
        -- only the first inherited part of a nominal type counts
        cases base with
        | some part => simp [blame]
        | none => cases field.ty.ty names scope <;> simp [blame]
      · simp [inherited, addMember]

lemma Draft.foldl_addField (d : Draft) (fields : List Field) :
    fields.foldl (addField names scope) d = d.reading names scope fields := by
  induction fields generalizing d with
  | nil => simp [reading, Field.faultsFrom]
  | cons field rest ih =>
    have members : (field :: rest).filterMap (Field.member? names scope) =
        [field].filterMap (Field.member? names scope) ++
          rest.filterMap (Field.member? names scope) :=
      List.filterMap_append (l := [field])
    have part : (field :: rest).findSome? (Field.part? names scope) =
        (Field.part? names scope field).or (rest.findSome? (Field.part? names scope)) := by
      rw [List.findSome?_cons]
      cases Field.part? names scope field <;> rfl
    rw [List.foldl_cons, ih, addField_eq]
    simp only [reading, members, part, List.map_append, List.foldl_append, List.append_assoc,
      Field.faultsFrom, Option.or_assoc, Option.isSome_or]
    simp

/-! ### Fields without faults -/

namespace Field

def isBase (field : Field) : Bool :=
  Attribute.present "map_base" field.attributes

/-- A member is that of a field: it is named as the field is written and has its type, and it is
ignored if the field is marked so. -/
structure Declares (field : Field) (m : DeclaredMember) : Prop where
  called : field.name = some m.decl.binding
  name : m.member.name = Token.plainName m.decl.binding
  access : m.decl.access = .named m.decl.binding
  ty : m.decl.ty = field.ty
  ignored : m.member.isIgnored = Attribute.present "ignore_member" field.attributes

lemma written_of_part? {field : Field} {part : BasePart}
    (held : field.part? names scope = some part) :
    field.name = some part.field ∧ field.ty = part.ty := by
  rw [part?] at held
  split at held
  · rename_i called _
    split at held
    · split at held
      · cases held
        exact ⟨called, rfl⟩
      · cases held
    · cases held
  · cases held

/-- The fields have names, no two of them the same. -/
structure Distinct (fields : List Field) : Prop where
  named : ∀ field ∈ fields, field.name.isSome = true
  apart : (fields.filterMap fun field => field.name.map Token.plainName).Nodup

lemma declares_of_member? {field : Field} {m : DeclaredMember}
    (read : field.member? names scope = some m) : field.Declares m := by
  rw [member?] at read
  cases called : field.name with
  | none => rw [called] at read; cases read
  | some written =>
    cases marked : MemberMarks.ofAttributes field.attributes with
    | error faults => rw [called, marked] at read; cases read
    | ok marks =>
      simp only [called, marked] at read
      split at read
      · cases read
      · cases read
        refine ⟨called, rfl, rfl, rfl, ?_⟩
        rw [← (MemberMarks.flags_of_read marked).1]
        exact marks.member_isIgnored names scope _ _ _

lemma Distinct.members {fields : List Field} (distinct : Distinct fields) :
    ((fields.filterMap (member? names scope)).map (·.member.name)).Nodup := by
  rw [List.map_filterMap]
  refine distinct.apart.sublist (filterMap_sublist_of_imp ?_)
  intro field _ name read
  obtain ⟨m, known, rfl⟩ := Option.map_eq_some_iff.mp read
  have declares := declares_of_member? names scope known
  rw [declares.called, declares.name, Option.map_some]

/-- A named field without faults is for the inherited part, or a member. -/
lemma kind_of_faultless {field : Field} {taken : Bool} (named : field.name.isSome = true)
    (faultless : field.faults names scope taken = []) :
    (field.part? names scope).isSome = field.isBase ∧
      (field.member? names scope).isSome = !field.isBase ∧
      (taken = true → field.part? names scope = none) := by
  obtain ⟨written, called⟩ := Option.isSome_iff_exists.mp named
  rw [faults] at faultless
  rw [part?, member?, isBase]
  cases marked : MemberMarks.ofAttributes field.attributes with
  | error faults =>
    simp only [called, marked, List.map_eq_nil_iff] at faultless
    exact absurd faultless (Marked.result_error marked)
  | ok marks =>
    rw [← (MemberMarks.flags_of_read marked).2]
    simp only [called, marked] at faultless ⊢
    by_cases base : marks.base = true
    · simp only [base, if_true] at faultless ⊢
      split at faultless
      · cases faultless
      · rename_i free
        split at faultless
        · exact ⟨rfl, rfl, fun taken => absurd taken free⟩
        · cases faultless
    · simp [base]

lemma part?_of_faultless {fields : List Field} {taken : Bool}
    (named : ∀ field ∈ fields, field.name.isSome = true)
    (faultless : faultsFrom names scope taken fields = []) :
    (∀ field ∈ fields, (field.part? names scope).isSome = field.isBase ∧
      (field.member? names scope).isSome = !field.isBase) ∧
    fields.filterMap (part? names scope) =
      if taken then [] else (fields.findSome? (part? names scope)).toList := by
  induction fields generalizing taken with
  | nil => exact ⟨by simp, by cases taken <;> rfl⟩
  | cons field rest ih =>
    rw [faultsFrom, List.append_eq_nil_iff] at faultless
    obtain ⟨part, member, free⟩ :=
      kind_of_faultless names scope (named field List.mem_cons_self) faultless.1
    obtain ⟨kinds, parts⟩ :=
      ih (fun later listed => named later (List.mem_cons_of_mem field listed)) faultless.2
    refine ⟨?_, ?_⟩
    · intro later listed
      rcases List.mem_cons.mp listed with rfl | listed
      · exact ⟨part, member⟩
      · exact kinds later listed
    · cases taken with
      | true =>
        rw [List.filterMap_cons_none (free rfl), parts]
        rfl
      | false =>
        cases held : field.part? names scope with
        | none =>
          rw [held] at parts
          rw [List.filterMap_cons_none held, parts, List.findSome?_cons, held]
          rfl
        | some base =>
          rw [held] at parts
          rw [List.filterMap_cons_some held, parts, List.findSome?_cons, held]
          rfl

end Field

end Fields

/-- A field with attributes that take no arguments. -/
def Field.marked (marks : List String) (name type : String) : Field :=
  { attributes := marks.map fun mark => ⟨⟨false, [mark]⟩, .empty⟩
    visibility := []
    name := some name
    ty := .path ⟨false, [.plain type]⟩ }

/-- A struct with named fields, and with the path of what it is mapped from. -/
def StructItem.mapped (source : List Token) (name : String) (fields : List Field) : StructItem :=
  { attributes :=
      if source.isEmpty then [] else [⟨⟨false, ["map_from"]⟩, .arguments .paren source⟩]
    visibility := []
    name := name
    generics := []
    conditions := []
    fields := .named fields false }

end MemberMapping
