import MemberMapping.Proofs.DeclarationOrder
import MemberMapping.Proofs.SourceAccess

/-!
How members that are assigned directly get their values.

A value can be assigned directly if it has the type of the member, or is widened, lifted into the
optional wrapper or boxed as an interface. The value that the code assigns is chosen anew, from the
two types alone. Both come to the same, but for a boxed interface that is lifted: it is taken for
one that is assigned as it is.
-/

namespace MemberMapping

/-! ## What can be assigned -/

/-- A value of the first type can be assigned to a member of the second. -/
inductive Schema.Assignable (s : Schema) : Ty → Ty → Prop
  | same (ty : Ty) : s.Assignable ty ty
  | widened {p q : Primitive} (widens : p.widensTo q = true) :
      s.Assignable (.primitive p) (.primitive q)
  | lifted {ty : Ty} {wrapper : TypePath} (optional : s.known.isOptional wrapper = true)
      (content : wrapper.args = [ty]) : s.Assignable ty (.path wrapper)
  | boxed {path interface : TypePath} (implements : s.implements path interface = true) :
      s.Assignable (.path path) (.dyn interface)

namespace Schema

variable {s : Schema}

lemma content_iff {wrapper : TypePath} {ty : Ty} (optional : s.known.isOptional wrapper = true) :
    (wrapper.args.head? == some ty) = true ↔ wrapper.args = [ty] := by
  have one : wrapper.args.length = 1 := by
    rw [WellKnown.isOptional, Bool.and_eq_true, beq_iff_eq] at optional
    exact optional.1
  obtain ⟨content, held⟩ := List.length_eq_one_iff.mp one
  rw [held, beq_iff_eq, List.head?_cons, Option.some.injEq, List.cons.injEq]
  exact (and_iff_left rfl).symm

/-- Compatible types are those of which the first can be assigned to the second. -/
lemma isCompatible_iff {source target : Ty} :
    s.isCompatible source target = true ↔ s.Assignable source target := by
  unfold isCompatible
  rw [Bool.or_eq_true, beq_iff_eq]
  constructor
  · rintro (rfl | fits)
    · exact .same source
    · split at fits
      · exact .widened fits
      · rw [Bool.and_eq_true] at fits
        exact .lifted fits.1 ((content_iff fits.1).mp fits.2)
      · exact .boxed fits
      · cases fits
  · intro assignable
    cases assignable with
    | same => exact Or.inl rfl
    | widened widens => exact Or.inr widens
    | @lifted _ wrapper optional content =>
      have fits := Bool.and_eq_true_iff.mpr ⟨optional, (content_iff optional).mpr content⟩
      cases source with
      | primitive p => exact Or.inr fits
      | path path => exact Or.inr fits
      | dyn interface => exact Or.inr fits
    | boxed implements => exact Or.inr implements

lemma assignable_of_conversion? {source target : Member}
    (direct : s.conversion? source target = some .direct) : s.Assignable source.ty target.ty := by
  rw [conversion?] at direct
  split at direct
  · rename_i fits
    exact isCompatible_iff.mp fits
  · exfalso
    split at direct
    · split at direct
      · cases direct
      · cases direct
    · split at direct
      · cases direct
      · rw [elementConversion?] at direct
        split at direct
        · split at direct
          · cases direct
          · cases direct
        · cases direct

lemma assignable_of_planned {target source : TypeDef} {entry : MappedMember}
    (planned : entry ∈ s.readings target source ++ s.writings target source)
    (direct : entry.conversion = .direct) : s.Assignable entry.sourceTy entry.ty := by
  have paired : ∃ member candidate, (s.conversion? candidate member).map
      (mappedMember member candidate) = some entry := by
    rcases List.mem_append.mp planned with read | written
    · obtain ⟨member, _, found⟩ := List.mem_filterMap.mp read
      obtain ⟨candidate, _, converted⟩ := Option.bind_eq_some_iff.mp found
      exact ⟨member, candidate, converted⟩
    · obtain ⟨candidate, _, found⟩ := List.mem_filterMap.mp written
      obtain ⟨member, _, converted⟩ := Option.bind_eq_some_iff.mp found
      exact ⟨member, candidate, converted⟩
  obtain ⟨member, candidate, converted⟩ := paired
  obtain ⟨conversion, chosen, rfl⟩ := Option.map_eq_some_iff.mp converted
  have same : conversion = .direct := direct
  rw [same] at chosen
  exact assignable_of_conversion? chosen

end Schema

/-! ## What is assigned -/

def Ty.isBoxed : Ty → Bool
  | .dyn _ => true
  | _ => false

namespace MappedMember

/-- A value that is no boxed interface is boxed as one. -/
def Boxes (entry : MappedMember) : Prop :=
  entry.ty.isBoxed = true ∧ entry.sourceTy.isBoxed = false

/-- A boxed interface is lifted into the optional wrapper. -/
def LiftsBox (known : WellKnown) (entry : MappedMember) : Prop :=
  ∃ interface wrapper, entry.sourceTy = .dyn interface ∧ entry.ty = .path wrapper ∧
    known.isOptional wrapper = true ∧ wrapper.args = [.dyn interface]

/-- A value is the conversion that an entry needs for what is read at a place: a bare clone for one
type alone, a box where it is boxed, and a widened or lifted clone in every case that is left. -/
structure Assigned (entry : MappedMember) (place : FieldPath) (value : MemberValue) : Prop where
  cloned_iff : value = .cloned place ↔ entry.sourceTy = entry.ty
  boxed_iff : value = .boxed place ↔ entry.Boxes
  lifted_iff : value = .lifted place ↔ entry.sourceTy.needsConversion entry.ty = true
  rest : entry.sourceTy.needsConversion entry.ty = true ↔
    entry.sourceTy ≠ entry.ty ∧ ¬ entry.Boxes

end MappedMember

/-- A value is widened or lifted if it is of another type and not boxed. -/
lemma Ty.needsConversion_iff {source target : Ty} :
    source.needsConversion target = true ↔ source ≠ target ∧ target.isBoxed = false := by
  unfold needsConversion isBoxed
  rw [Bool.and_eq_true, bne_iff_ne]
  cases target <;> simp

/-- The code looks for boxed interfaces first, at the source and then at the member. -/
lemma Emission.directValue_eq (place : FieldPath) (source target : Ty) :
    directValue place source target =
      if source.isBoxed then .cloned place
      else if target.isBoxed then .boxed place
      else if source = target then .cloned place
      else .lifted place := by
  have rest : target.isBoxed = false →
      (if source.needsConversion target then MemberValue.lifted place else .cloned place) =
        if source = target then .cloned place else .lifted place := by
    intro free
    by_cases same : source = target
    · have unneeded : ¬ source.needsConversion target = true :=
        fun needed => (Ty.needsConversion_iff.mp needed).1 same
      rw [if_neg unneeded, if_pos same]
    · rw [if_pos (Ty.needsConversion_iff.mpr ⟨same, free⟩), if_neg same]
  cases source with
  | dyn interface => rfl
  | primitive p =>
    cases target with
    | dyn interface => rfl
    | primitive q => exact rest rfl
    | path path => exact rest rfl
  | path path =>
    cases target with
    | dyn interface => rfl
    | primitive q => exact rest rfl
    | path path' => exact rest rfl

namespace MappedMember

variable {entry : MappedMember}

lemma conversion_of_isDirect (direct : entry.isDirect = true) : entry.conversion = .direct := by
  rw [isDirect] at direct
  cases conversion : entry.conversion with
  | direct => rfl
  | converter converter parameters => rw [conversion] at direct; cases direct
  | nested ty => rw [conversion] at direct; cases direct
  | enumerable element target => rw [conversion] at direct; cases direct

lemma assigned_same (place : FieldPath) (same : entry.sourceTy = entry.ty) :
    Emission.directValue place entry.sourceTy entry.ty = .cloned place ∧
      entry.Assigned place (.cloned place) := by
  have unneeded : ¬ entry.sourceTy.needsConversion entry.ty = true :=
    fun needed => (Ty.needsConversion_iff.mp needed).1 same
  have unboxed : ¬ entry.Boxes := by
    rintro ⟨boxed, free⟩
    rw [same, boxed] at free
    cases free
  constructor
  · rw [Emission.directValue_eq, same, if_pos rfl]
    cases entry.ty <;> rfl
  · exact ⟨iff_of_true rfl same, iff_of_false MemberValue.noConfusion unboxed,
      iff_of_false MemberValue.noConfusion unneeded,
      iff_of_false unneeded fun other => other.1 same⟩

/-- A value of another type that is no boxed interface is boxed, widened or lifted. -/
lemma assigned_apart (place : FieldPath) (free : entry.sourceTy.isBoxed = false)
    (apart : entry.sourceTy ≠ entry.ty) :
    entry.Assigned place (Emission.directValue place entry.sourceTy entry.ty) := by
  have unboxed : ¬ entry.sourceTy.isBoxed = true := by rw [free]; exact Bool.false_ne_true
  rw [Emission.directValue_eq, if_neg unboxed]
  by_cases boxed : entry.ty.isBoxed = true
  · have unneeded : ¬ entry.sourceTy.needsConversion entry.ty = true := by
      intro needed
      rw [(Ty.needsConversion_iff.mp needed).2] at boxed
      cases boxed
    have boxes : entry.Boxes := ⟨boxed, free⟩
    rw [if_pos boxed]
    exact ⟨iff_of_false MemberValue.noConfusion apart, iff_of_true rfl boxes,
      iff_of_false MemberValue.noConfusion unneeded,
      iff_of_false unneeded fun other => other.2 boxes⟩
  · have needed : entry.sourceTy.needsConversion entry.ty = true :=
      Ty.needsConversion_iff.mpr ⟨apart, eq_false_of_ne_true boxed⟩
    have bare : ¬ entry.Boxes := fun boxes => boxed boxes.1
    rw [if_neg boxed, if_neg apart]
    exact ⟨iff_of_false MemberValue.noConfusion apart, iff_of_false MemberValue.noConfusion bare,
      iff_of_true rfl needed, iff_of_true needed ⟨apart, bare⟩⟩

/-- Of what can be assigned, a boxed interface is for a member of another type only where it is
lifted. -/
lemma liftsBox_of_apart {s : Schema} (assignable : s.Assignable entry.sourceTy entry.ty)
    (boxed : entry.sourceTy.isBoxed = true) (apart : entry.sourceTy ≠ entry.ty) :
    entry.LiftsBox s.known := by
  generalize source : entry.sourceTy = first at assignable boxed apart
  generalize member : entry.ty = second at assignable apart
  cases assignable with
  | same => exact absurd rfl apart
  | widened => cases boxed
  | boxed => cases boxed
  | @lifted _ wrapper optional content =>
    cases first with
    | primitive p => cases boxed
    | path path => cases boxed
    | dyn interface => exact ⟨interface, wrapper, source, member, optional, content⟩

/-- A boxed interface that is lifted is cloned, and only then an entry does not get the conversion
that it needs. -/
lemma assigned_iff {s : Schema} (assignable : s.Assignable entry.sourceTy entry.ty)
    (place : FieldPath) :
    (entry.LiftsBox s.known →
        Emission.directValue place entry.sourceTy entry.ty = .cloned place) ∧
      (entry.Assigned place (Emission.directValue place entry.sourceTy entry.ty) ↔
        ¬ entry.LiftsBox s.known) := by
  have cloned : entry.LiftsBox s.known →
      Emission.directValue place entry.sourceTy entry.ty = .cloned place := by
    rintro ⟨interface, _, source, _⟩
    rw [source]
    rfl
  refine ⟨cloned, ?_, ?_⟩
  · intro assigned lifts
    have same := assigned.cloned_iff.mp (cloned lifts)
    obtain ⟨_, _, source, member, _⟩ := lifts
    rw [source, member] at same
    cases same
  · intro lies
    by_cases same : entry.sourceTy = entry.ty
    · obtain ⟨value, assigned⟩ := assigned_same place same
      rw [value]
      exact assigned
    · have free : entry.sourceTy.isBoxed = false := by
        by_contra boxed
        rw [Bool.not_eq_false] at boxed
        exact lies (liftsBox_of_apart assignable boxed same)
      exact assigned_apart place free same

end MappedMember

/-- Each entry of a plan that is assigned directly gets the conversion that it needs, unless it
lifts a boxed interface into the optional wrapper. Then it gets a bare clone, as if it were of one
type. What it gets is printed as an expression of the code. -/
theorem direct_entry_assigned_iff {root : Namespace} {items : List Item} {inv : Inventory}
    {options : Options} {model : MappingModel} (ready : Inventory.ofItems root items = .ok inv)
    (generated : model ∈ (generate inv.schema options).models) :
    ∃ e, inv.emission? model = some e ∧ e.model = model ∧
      ∀ entry ∈ model.sourceMembers ++ model.typeMembers, entry.conversion = .direct →
        (entry.LiftsBox inv.schema.known →
          e.mappedValue entry = .cloned (e.sourcePlace entry.sourceName)) ∧
        (entry.Assigned (e.sourcePlace entry.sourceName) (e.mappedValue entry) ↔
          ¬ entry.LiftsBox inv.schema.known) ∧
        ∃ expression, e.code.Shows (e.mappedValue entry) expression := by
  obtain ⟨target, known, _, assembled⟩ := assemble_of_mem_generate generated
  obtain ⟨source, declared, _, rfl⟩ := plan_of_assemble assembled
  obtain ⟨path, _, found⟩ := Option.bind_eq_some_iff.mp declared
  have listed := Inventory.listed_of_ofItems ready
  obtain ⟨decl, written⟩ := listed.written target known
  obtain ⟨form, present⟩ := listed.written source (Schema.mem_of_find? found).1
  refine ⟨_, Inventory.emission?_plan written present options, rfl, ?_⟩
  intro entry planned direct
  have assignable : inv.schema.Assignable entry.sourceTy entry.ty :=
    Schema.assignable_of_planned planned direct
  rw [Emission.mappedValue, direct]
  obtain ⟨cloned, assigned⟩ := MappedMember.assigned_iff assignable _
  exact ⟨cloned, assigned, _, Printing.shows _ _⟩

/-- A field without attributes. -/
def Field.unmarked (name : String) (ty : TypeExpr) : Field :=
  { attributes := []
    visibility := []
    name := some name
    ty := ty }

def TypeExpr.applied (name : String) (argument : TypeExpr) : TypeExpr :=
  .path ⟨false, [.generic name false [.type argument] false]⟩

def boxedShape : TypeExpr :=
  .applied "Box" (.traitObject true [.implements [] (.ofName "Shape") false] false)

def shapeTrait : TraitItem :=
  { attributes := []
    front := Code.ofTokens [.ident "trait"]
    name := "Shape"
    rest := [.group .brace []] }

/-- Sheets are made of drawings: the title as it is, the layers in a wider type, the note as an
optional one, and the outline in a box. -/
def drawings : List Item :=
  [.trait shapeTrait,
    .struct (.mapped [] "Circle" [.marked [] "radius" "f32"]),
    .impl ⟨[], Code.ofTokens [.ident "impl"], some ⟨false, .ofName "Shape"⟩,
      .path (.ofName "Circle"), [], [], []⟩,
    .struct (.mapped [] "Drawing"
      [.marked [] "title" "String", .marked [] "layers" "i32", .marked [] "note" "String",
        .marked [] "outline" "Circle"]),
    .struct (.mapped [.ident "Drawing"] "Sheet"
      [.marked [] "title" "String", .marked [] "layers" "i64",
        .unmarked "note" (.applied "Option" (.path (.ofName "String"))),
        .unmarked "outline" boxedShape])]

def drawingsInventory : Inventory :=
  (Inventory.ofItems ⟨"crate"⟩ drawings).toOption.getD ⟨⟨{}, []⟩, []⟩

lemma drawings_declared : Inventory.ofItems ⟨"crate"⟩ drawings = .ok drawingsInventory :=
  Inventory.of_accepted _ (by decide +kernel)

/-- Every member of a sheet is assigned directly, with the conversion that it needs. -/
theorem sheet_assigned :
    Inventory.ofItems ⟨"crate"⟩ drawings = .ok drawingsInventory ∧
    ∃ model ∈ (generate drawingsInventory.schema {}).models, ∃ e,
      drawingsInventory.emission? model = some e ∧ model.sourceMembers.length = 4 ∧
      ∀ entry ∈ model.sourceMembers ++ model.typeMembers, entry.conversion = .direct ∧
        entry.Assigned (e.sourcePlace entry.sourceName) (e.mappedValue entry) := by
  have planned : (generate drawingsInventory.schema {}).models.isEmpty = false := by decide +kernel
  have direct : ∀ model ∈ (generate drawingsInventory.schema {}).models,
      model.sourceMembers.length = 4 ∧
      ∀ entry ∈ model.sourceMembers ++ model.typeMembers,
        entry.isDirect = true ∧ entry.sourceTy.isBoxed = false := by
    decide +kernel
  obtain ⟨model, generated⟩ := List.isEmpty_eq_false_iff_exists_mem.mp planned
  obtain ⟨e, emitted, _, assigned⟩ := direct_entry_assigned_iff drawings_declared generated
  obtain ⟨four, each⟩ := direct model generated
  refine ⟨drawings_declared, model, generated, e, emitted, four, fun entry present => ?_⟩
  obtain ⟨marked, free⟩ := each entry present
  have converted := MappedMember.conversion_of_isDirect marked
  refine ⟨converted, (assigned entry present converted).2.1.mpr ?_⟩
  rintro ⟨interface, _, source, _⟩
  rw [source] at free
  cases free

def frames : List Item :=
  [.trait shapeTrait,
    .struct (.mapped [] "Frame" [.unmarked "shape" boxedShape]),
    .struct (.mapped [.ident "Frame"] "Poster" [.unmarked "shape" (.applied "Option" boxedShape)])]

def framesInventory : Inventory :=
  (Inventory.ofItems ⟨"crate"⟩ frames).toOption.getD ⟨⟨{}, []⟩, []⟩

lemma frames_declared : Inventory.ofItems ⟨"crate"⟩ frames = .ok framesInventory :=
  Inventory.of_accepted _ (by decide +kernel)

/-- The shape of a poster has to be lifted into the optional wrapper. It is set to a bare clone,
which is no optional. -/
theorem poster_shape_not_lifted :
    Inventory.ofItems ⟨"crate"⟩ frames = .ok framesInventory ∧
    ∃ model ∈ (generate framesInventory.schema {}).models, ∃ e,
      framesInventory.emission? model = some e ∧
      ∃ entry ∈ model.sourceMembers, entry.name = "shape" ∧ entry.conversion = .direct ∧
        entry.sourceTy.needsConversion entry.ty = true ∧
        e.mappedValue entry = .cloned (e.sourcePlace entry.sourceName) ∧
        ¬ entry.Assigned (e.sourcePlace entry.sourceName) (e.mappedValue entry) := by
  have planned : (generate framesInventory.schema {}).models.isEmpty = false := by decide +kernel
  have lifted : ∀ model ∈ (generate framesInventory.schema {}).models,
      (framesInventory.emission? model).isSome = true ∧
      ∃ entry ∈ model.sourceMembers, entry.name = "shape" ∧ entry.isDirect = true ∧
        entry.sourceTy.isBoxed = true ∧ entry.sourceTy.needsConversion entry.ty = true := by
    decide +kernel
  obtain ⟨model, generated⟩ := List.isEmpty_eq_false_iff_exists_mem.mp planned
  obtain ⟨some, entry, present, called, marked, boxed, needed⟩ := lifted model generated
  obtain ⟨e, emitted⟩ := Option.isSome_iff_exists.mp some
  have direct := MappedMember.conversion_of_isDirect marked
  have cloned : e.mappedValue entry = .cloned (e.sourcePlace entry.sourceName) := by
    rw [Emission.mappedValue, direct]
    exact (Emission.directValue_eq _ _ _).trans (if_pos boxed)
  refine ⟨frames_declared, model, generated, e, emitted, entry, present, called, direct, needed,
    cloned, ?_⟩
  intro assigned
  have wanted := assigned.lifted_iff.mpr needed
  rw [cloned] at wanted
  cases wanted

end MemberMapping
