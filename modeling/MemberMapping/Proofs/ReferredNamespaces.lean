import MemberMapping.Proofs.References
import MemberMapping.Proofs.StatelessAssembly

/-!
The namespaces that the code of a plan refers to, against those it imports.

Imports are gathered where a pair of members is resolved. The code names more than that: the
converters of its entries, the types of the further parameters and the mapped base. The imports
cover what the code refers to exactly if these lie in namespaces that count by other references.
-/

namespace MemberMapping

mutual

lemma Ty.scopes_eq (ty : Ty) : ty.scopes = ty.paths.map (·.scope) := by
  cases ty with
  | primitive scalar => rfl
  | path target => exact TypePath.scopes_eq target
  | dyn interface => exact TypePath.scopes_eq interface

lemma TypePath.scopes_eq (path : TypePath) : path.scopes = path.paths.map (·.scope) := by
  obtain ⟨scope, name, args⟩ := path
  rw [TypePath.scopes, TypePath.paths, List.map_cons, Ty.scopesOf_eq args]

lemma Ty.scopesOf_eq (types : List Ty) : Ty.scopesOf types = (Ty.pathsOf types).map (·.scope) := by
  cases types with
  | nil => rfl
  | cons ty rest =>
    rw [Ty.scopesOf, Ty.pathsOf, List.map_append, Ty.scopes_eq ty, Ty.scopesOf_eq rest]

end

lemma MappedMember.mem_scopes {entry : MappedMember} {ns : Namespace} :
    ns ∈ entry.scopes ↔ ∃ ty ∈ entry.types, ∃ path ∈ ty.paths, path.scope = ns := by
  simp only [MappedMember.scopes, List.mem_flatMap, Ty.scopes_eq, List.mem_map]

namespace MappingModel

def entries (m : MappingModel) : List MappedMember :=
  m.sourceMembers ++ m.typeMembers

/-- The code of a plan refers to the namespace by its source, or by a type that one of its entries
is concerned with, arguments included. -/
inductive RefersByTypes (m : MappingModel) : Namespace → Prop
  | source : m.RefersByTypes m.sourceScope
  | entry {entry : MappedMember} {ty : Ty} {path : TypePath} (listed : entry ∈ m.entries)
      (concerned : ty ∈ entry.types) (within : path ∈ ty.paths) : m.RefersByTypes path.scope

/-- The code of a plan refers to the namespace by the converter of an entry, by the type of a
further parameter, arguments included, or by the mapped base. -/
inductive RefersBeside (m : MappingModel) : Namespace → Prop
  | converter {entry : MappedMember} {converter : TypePath} {parameters : List Literal}
      (listed : entry ∈ m.entries) (selected : entry.converter? = some (converter, parameters)) :
      m.RefersBeside converter.scope
  | parameter {parameter : ExtraParameter} {path : TypePath}
      (listed : parameter ∈ m.extraParameters) (within : path ∈ parameter.ty.paths) :
      m.RefersBeside path.scope
  | base {base : TypePath} (mapped : m.baseType = some base) : m.RefersBeside base.scope

def RefersTo (m : MappingModel) (ns : Namespace) : Prop :=
  m.RefersByTypes ns ∨ m.RefersBeside ns

/-- The namespace is one that the code of a plan can import: neither the global one nor that of
the target. -/
def CanImport (m : MappingModel) (ns : Namespace) : Prop :=
  ns.isGlobal = false ∧ ns ≠ m.scope

/-- Everything that the code of a plan refers to, and can import, is imported. -/
def ImportsCover (m : MappingModel) : Prop :=
  ∀ ns, m.RefersTo ns → m.CanImport ns → ns ∈ m.imports

end MappingModel

namespace Schema

/-- The namespaces met in a plan are those of the runtime and the support library, and those that
it refers to by types. -/
lemma mem_scopesMet {s : Schema} {target source : TypeDef} {options : Options} {ns : Namespace} :
    ns ∈ s.scopesMet target source ↔ ns = s.known.runtimeScope ∨ ns = s.known.supportScope ∨
      (s.plan target source options).RefersByTypes ns := by
  rw [scopesMet, List.mem_append, List.mem_flatMap]
  constructor
  · rintro (first | ⟨entry, listed, met⟩)
    · simp only [List.mem_cons, List.not_mem_nil, or_false] at first
      rcases first with runtime | support | rfl
      · exact Or.inl runtime
      · exact Or.inr (Or.inl support)
      · exact Or.inr (Or.inr .source)
    · obtain ⟨ty, concerned, path, within, rfl⟩ := MappedMember.mem_scopes.mp met
      exact Or.inr (Or.inr (.entry listed concerned within))
  · rintro (rfl | rfl | referred)
    · exact Or.inl (by simp)
    · exact Or.inl (by simp)
    · cases referred with
      | source => exact Or.inl (by simp [plan])
      | entry listed concerned within =>
        exact Or.inr ⟨_, listed, MappedMember.mem_scopes.mpr ⟨_, concerned, _, within, rfl⟩⟩

lemma mem_imports_of_plan {s : Schema} {target source : TypeDef} {options : Options}
    {ns : Namespace} : ns ∈ (s.plan target source options).imports ↔
      (s.plan target source options).CanImport ns ∧ ns ∈ s.scopesMet target source := by
  show ns ∈ (Imports.relevant target.scope (s.scopesMet target source)).eraseDups ↔ _
  rw [List.mem_eraseDups, Imports.relevant, List.mem_filter, and_comm]
  refine and_congr_left fun _ => ?_
  simp [MappingModel.CanImport, plan]

end Schema

/-- A plan imports the namespaces of the runtime, of the support library, of its source and of the
types that its entries are concerned with, as far as it can import them. So the imports cover what
the code refers to exactly if each converter, further parameter and base that is outside of the
target's namespace lies in one of these. -/
theorem imports_cover_iff {s : Schema} {target : TypeDef} {options : Options} {model : MappingModel}
    (ready : assemble s target options = .ok model) :
    (∀ ns, ns ∈ model.imports ↔ model.CanImport ns ∧
      (ns = s.known.runtimeScope ∨ ns = s.known.supportScope ∨ model.RefersByTypes ns)) ∧
    (model.ImportsCover ↔ ∀ ns, model.RefersBeside ns → model.CanImport ns →
      ns = s.known.runtimeScope ∨ ns = s.known.supportScope ∨ model.RefersByTypes ns) := by
  obtain ⟨source, _, _, rfl⟩ := plan_of_assemble ready
  have imported : ∀ ns, ns ∈ (s.plan target source options).imports ↔
      (s.plan target source options).CanImport ns ∧ (ns = s.known.runtimeScope ∨
        ns = s.known.supportScope ∨ (s.plan target source options).RefersByTypes ns) := by
    intro ns
    rw [Schema.mem_imports_of_plan, Schema.mem_scopesMet]
  refine ⟨imported, ?_⟩
  constructor
  · intro cover ns beside importable
    have present := cover ns (Or.inr beside) importable
    exact ((imported ns).mp present).2
  · intro covered ns referred importable
    rw [imported ns]
    refine ⟨importable, ?_⟩
    rcases referred with byTypes | beside
    · exact Or.inr (Or.inr byTypes)
    · exact covered ns beside importable

def contact : TypeDef :=
  TypeDef.stamped
    { path := .plain ⟨"app::people"⟩ "Contact"
      kind := .classType
      members := [{ name := "id", ty := .primitive .i32 }] }

def employee : TypeDef :=
  TypeDef.stamped
    { path := .plain ⟨"app::people"⟩ "Employee"
      kind := .classType
      members := [{ name := "number", ty := .primitive .i32 }] }

def wage : TypeDef :=
  TypeDef.stamped { path := .plain ⟨"app::money"⟩ "Wage", kind := .structType }

def numberText : TypeDef :=
  TypeDef.stamped
    { path := .plain ⟨"app::text"⟩ "NumberText"
      kind := .structType
      interfaces := [⟨⟨"mapto"⟩, "TypeConverter", [.primitive .i32, .primitive .string]⟩] }

def record : TypeDef :=
  TypeDef.stamped
    { path := .plain ⟨"app::records"⟩ "Record"
      kind := .classType
      members := [{ name := "id", ty := .primitive .i32 }]
      markers := [.mapFrom contact.path] }

/-- A payslip of an employee: a record with the number as text, and with a wage. -/
def payslip : TypeDef :=
  TypeDef.stamped
    { path := .plain ⟨"app"⟩ "Payslip"
      kind := .classType
      base := some record.path
      members := [
        { name := "number", ty := .primitive .string, markers := [.converter numberText.path []] },
        { name := "wage", ty := wage.ty }]
      markers := [.mapFrom employee.path] }

def payroll : Schema :=
  { known := {}, types := [contact, employee, wage, numberText, record, payslip] }

/-- What the plan of a payslip imports. -/
theorem payslip_imports_cover_iff :
    assemble payroll payslip {} = .ok (payroll.plan payslip employee {}) ∧
    (∀ ns, ns ∈ (payroll.plan payslip employee {}).imports ↔
      (payroll.plan payslip employee {}).CanImport ns ∧
        (ns = payroll.known.runtimeScope ∨ ns = payroll.known.supportScope ∨
          (payroll.plan payslip employee {}).RefersByTypes ns)) ∧
    ((payroll.plan payslip employee {}).ImportsCover ↔
      ∀ ns, (payroll.plan payslip employee {}).RefersBeside ns →
        (payroll.plan payslip employee {}).CanImport ns →
        ns = payroll.known.runtimeScope ∨ ns = payroll.known.supportScope ∨
          (payroll.plan payslip employee {}).RefersByTypes ns) :=
  have ready : assemble payroll payslip {} = .ok (payroll.plan payslip employee {}) := by rfl
  ⟨ready, imports_cover_iff ready⟩

/-- The code of a payslip names a converter, a wage and a record, none of which is imported. -/
theorem payslip_imports_incomplete :
    Builder.build { types := [contact, employee, wage, numberText, record, payslip] } =
      .ok payroll ∧
    ∃ model, assemble payroll payslip {} = .ok model ∧
      ∀ ns ∈ [numberText.scope, wage.scope, record.scope],
        model.RefersTo ns ∧ model.CanImport ns ∧ ns ∉ model.imports := by
  refine ⟨by rfl, payroll.plan payslip employee {}, by rfl, ?_⟩
  have converted : (payroll.plan payslip employee {}).RefersTo numberText.scope :=
    Or.inr (.converter (List.mem_append_left _ (.head _)) (by rfl))
  have taken : (payroll.plan payslip employee {}).RefersTo wage.scope :=
    Or.inr (.parameter (.head _) (.head _))
  have inherited : (payroll.plan payslip employee {}).RefersTo record.scope :=
    Or.inr (.base (by rfl))
  have imports : (payroll.plan payslip employee {}).imports =
      [⟨"std"⟩, ⟨"mapto"⟩, ⟨"app::people"⟩] := by rfl
  intro ns listed
  rw [imports]
  simp only [List.mem_cons, List.not_mem_nil, or_false] at listed
  rcases listed with rfl | rfl | rfl
  · exact ⟨converted, ⟨by decide, by decide⟩, by decide⟩
  · exact ⟨taken, ⟨by decide, by decide⟩, by decide⟩
  · exact ⟨inherited, ⟨by decide, by decide⟩, by decide⟩

end MemberMapping
