import Mathlib.Logic.Relation
import MemberMapping.Proofs.DirectValues

/-!
Implicit conversion leads upwards.

A value that is assigned to a member of another type is widened, lifted into the optional wrapper
or boxed. Each of the three raises a height that types have, unless an optional wrapper is boxed
itself. So a chain of such conversions leads back to where it began only in a schema that declares
the optional wrapper as an implementation of some interface.
-/

namespace MemberMapping

/-! ## Heights -/

/-- The length of the longest chain of widenings up to a scalar. -/
def Primitive.height : Primitive → Nat
  | .bool | .string | .u8 | .i8 => 0
  | .char | .u16 | .i16 => 1
  | .u32 | .i32 | .usize | .isize | .f32 => 2
  | .u64 | .i64 | .f64 => 3
  | .u128 | .i128 => 4

lemma Primitive.height_lt_of_widensTo {p q : Primitive} (widens : p.widensTo q = true) :
    p.height < q.height := by
  have higher : ∀ q ∈ p.wideningTargets, p.height < q.height := by
    cases p <;> decide
  exact higher q (List.contains_iff_mem.mp widens)

mutual

/-- How far up a type is: an optional stands above its content, a box above the types that it can
hold, and among scalars the wider above the narrower. -/
def Ty.height (known : WellKnown) : Ty → Nat
  | .primitive scalar => scalar.height
  | .path target => target.height known
  | .dyn _ => 1

@[inherit_doc Ty.height]
def TypePath.height (known : WellKnown) : TypePath → Nat
  | ⟨scope, name, args⟩ =>
    if known.isOptional ⟨scope, name, args⟩ then Ty.firstHeight known args + 1 else 0

/-- The height of the first of some types. -/
def Ty.firstHeight (known : WellKnown) : List Ty → Nat
  | [] => 0
  | ty :: _ => ty.height known

end

variable {known : WellKnown} {path : TypePath}

lemma TypePath.height_of_content {ty : Ty} (optional : known.isOptional path = true)
    (content : path.args = [ty]) : path.height known = ty.height known + 1 := by
  obtain ⟨scope, name, args⟩ := path
  obtain rfl : args = [ty] := content
  rw [TypePath.height, if_pos optional, Ty.firstHeight]

lemma TypePath.height_of_plain (plain : known.isOptional path = false) : path.height known = 0 := by
  obtain ⟨scope, name, args⟩ := path
  rw [TypePath.height, if_neg (by rw [plain]; exact Bool.false_ne_true)]

namespace Schema

variable {s : Schema}

/-- A value of the first type is assigned to a member of another type by an implicit conversion. -/
def Converts (s : Schema) (source target : Ty) : Prop :=
  source ≠ target ∧ s.isCompatible source target = true

/-- No declaration that an optional wrapper refers to has an interface. -/
def KeepsOptionals (s : Schema) : Prop :=
  ∀ wrapper d, s.known.isOptional wrapper = true → s.typeDef? wrapper = some d →
    s.allInterfaces d = []

/-- What can be boxed has an interface, so it is no optional wrapper. -/
lemma isOptional_of_implements (keeps : s.KeepsOptionals) {path interface : TypePath}
    (boxes : s.implements path interface = true) : s.known.isOptional path = false := by
  rw [Bool.eq_false_iff]
  intro optional
  rw [implements] at boxes
  cases declared : s.typeDef? path with
  | none =>
    rw [declared] at boxes
    cases boxes
  | some d =>
    have none := keeps path d optional declared
    rw [declared] at boxes
    simp [none] at boxes

lemma height_lt_of_converts (keeps : s.KeepsOptionals) {source target : Ty}
    (converts : s.Converts source target) : source.height s.known < target.height s.known := by
  obtain ⟨other, compatible⟩ := converts
  cases isCompatible_iff.mp compatible with
  | same => exact absurd rfl other
  | widened widens => exact Primitive.height_lt_of_widensTo widens
  | lifted optional content =>
    rw [Ty.height, TypePath.height_of_content optional content]
    exact Nat.lt_succ_self _
  | boxed boxes =>
    rw [Ty.height, Ty.height, TypePath.height_of_plain (isOptional_of_implements keeps boxes)]
    exact Nat.zero_lt_one

lemma height_lt_of_chain (keeps : s.KeepsOptionals) {source target : Ty}
    (chain : Relation.TransGen s.Converts source target) :
    source.height s.known < target.height s.known := by
  induction chain with
  | single converts => exact height_lt_of_converts keeps converts
  | tail _ converts ih => exact Nat.lt_trans ih (height_lt_of_converts keeps converts)

lemma leads_back_of_interface {wrapper interface : TypePath} {d : TypeDef}
    (optional : s.known.isOptional wrapper = true) (declared : s.typeDef? wrapper = some d)
    (listed : interface ∈ s.allInterfaces d) :
    Relation.TransGen s.Converts (.dyn interface) (.dyn interface) := by
  let holder : TypePath := { wrapper with args := [.dyn interface] }
  have lifts : s.Converts (.dyn interface) (.path holder) := by
    refine ⟨Ty.noConfusion, isCompatible_iff.mpr (.lifted ?_ rfl)⟩
    -- A wrapper is recognized by its name and scope, whatever it holds.
    rw [WellKnown.isOptional, Bool.and_eq_true] at optional
    exact Bool.and_eq_true_iff.mpr ⟨rfl, optional.2⟩
  have boxes : s.Converts (.path holder) (.dyn interface) := by
    refine ⟨Ty.noConfusion, isCompatible_iff.mpr (.boxed ?_)⟩
    have found : s.typeDef? holder = some d := declared
    rw [implements, found]
    exact List.contains_iff_mem.mpr listed
  exact .tail (.single lifts) boxes

/-- No chain of conversions leads back to where it began exactly if no declaration that an optional
wrapper refers to has an interface. -/
theorem never_leads_back_iff :
    (∀ ty, ¬ Relation.TransGen s.Converts ty ty) ↔ s.KeepsOptionals := by
  constructor
  · intro onwards wrapper d optional declared
    rw [List.eq_nil_iff_forall_not_mem]
    intro interface listed
    exact onwards (.dyn interface) (leads_back_of_interface optional declared listed)
  · intro keeps ty back
    exact Nat.lt_irrefl _ (height_lt_of_chain keeps back)

end Schema

/-- Where no optional wrapper refers to a declaration, no chain of conversions, whatever its length
and kinds, leads back to where it began. In particular two types that can be assigned to each other
are the same. -/
theorem conversion_never_leads_back {s : Schema}
    (undeclared : ∀ wrapper, s.known.isOptional wrapper = true → s.typeDef? wrapper = none) :
    (∀ ty, ¬ Relation.TransGen s.Converts ty ty) ∧
    ∀ source target, s.isCompatible source target = true → s.isCompatible target source = true →
      source = target := by
  have onwards : ∀ ty, ¬ Relation.TransGen s.Converts ty ty := by
    apply Schema.never_leads_back_iff.mpr
    intro wrapper d optional declared
    rw [undeclared wrapper optional] at declared
    cases declared
  refine ⟨onwards, ?_⟩
  intro source target up down
  by_contra other
  exact onwards source (.tail (.single ⟨other, up⟩) ⟨Ne.symm other, down⟩)

def drawable : TypeDef :=
  { path := .plain ⟨"app"⟩ "Drawable", kind := .interfaceType }

def disc : TypeDef :=
  { path := .plain ⟨"app"⟩ "Disc", kind := .structType, interfaces := [drawable.path] }

def canvas : Schema :=
  { known := {}, types := [drawable, disc] }

/-- A disc is drawn in a box, and the box is lifted twice. From there nothing leads back. -/
theorem disc_never_unwrapped :
    (∀ wrapper, canvas.known.isOptional wrapper = true → canvas.typeDef? wrapper = none) ∧
    Relation.TransGen canvas.Converts disc.ty (.option (.option (.dyn drawable.path))) ∧
    ¬ Relation.TransGen canvas.Converts (.option (.option (.dyn drawable.path))) disc.ty := by
  have undeclared : ∀ wrapper, canvas.known.isOptional wrapper = true →
      canvas.typeDef? wrapper = none := by
    intro wrapper optional
    rw [WellKnown.isOptional, WellKnown.recognizes, Bool.and_eq_true, Bool.and_eq_true,
      Bool.or_eq_true, beq_iff_eq, beq_iff_eq, beq_iff_eq] at optional
    obtain ⟨_, name, outside | inside⟩ := optional
    · rw [Schema.typeDef?, TypePath.definitionName, if_pos outside, ← name]
      rfl
    · rw [Schema.typeDef?, TypePath.definitionName, ← name, ← inside]
      rfl
  have boxed : canvas.Converts disc.ty (.dyn drawable.path) := ⟨by decide, by decide⟩
  have lifted : canvas.Converts (.dyn drawable.path) (.option (.dyn drawable.path)) :=
    ⟨by decide, by decide⟩
  have twice : canvas.Converts (.option (.dyn drawable.path))
      (.option (.option (.dyn drawable.path))) := ⟨by decide, by decide⟩
  have up := Relation.TransGen.tail (.tail (.single boxed) lifted) twice
  refine ⟨undeclared, up, ?_⟩
  intro down
  exact (conversion_never_leads_back undeclared).1 disc.ty (up.trans down)

end MemberMapping
