import Mathlib.Data.List.Basic
import MemberMapping.Assembly

/-!
What a generation holds: the plans and the blocks of diagnostics of the mapped types, each in
declaration order, and nothing else.
-/

namespace MemberMapping

lemma TypeDef.isMapped_eq (d : TypeDef) : d.isMapped = d.mapFrom?.isSome := by
  cases found : d.markers.get? .mapFrom with
  | none => simp [isMapped, Markers.has, mapFrom?, Markers.mapFrom?, found]
  | some marker =>
    have kind := List.find?_some found
    cases marker with
    | mapFrom source => simp [isMapped, Markers.has, mapFrom?, Markers.mapFrom?, found]
    | mapProperty | ignoreMember | converter | useUpdate | jsonExtension => cases kind

lemma TypeDef.isMapped_of_mapFrom? {d : TypeDef} {path : TypePath}
    (marked : d.mapFrom? = some path) : d.isMapped = true := by
  rw [isMapped_eq, marked, Option.isSome_some]

namespace Schema

/-- The types for which a plan is asked, in declaration order. -/
def mappedTypes (s : Schema) : List TypeDef :=
  s.types.filter (·.isMapped)

/-- The plan of a type, where it gets one. -/
def ready? (s : Schema) (options : Options) (target : TypeDef) : Option MappingModel :=
  (assemble s target options).toOption

/-- The block of diagnostics of a type; empty where it gets a plan. -/
def faultsOf (s : Schema) (options : Options) (target : TypeDef) : Diagnostics :=
  match assemble s target options with
  | .ok _ => []
  | .error ds => ds

lemma ready?_eq_some_iff {s : Schema} {options : Options} {target : TypeDef}
    {model : MappingModel} :
    s.ready? options target = some model ↔ assemble s target options = .ok model := by
  rw [ready?]
  cases assemble s target options <;> simp [Except.toOption]

end Schema

namespace Generation

lemma add_eq (g : Generation) (s : Schema) (options : Options) (target : TypeDef) :
    g.add (assemble s target options) =
      { models := g.models ++ (s.ready? options target).toList
        diagnostics := g.diagnostics ++ s.faultsOf options target } := by
  rw [Schema.ready?, Schema.faultsOf]
  cases assemble s target options <;> simp [add, Except.toOption]

lemma foldl_add (g : Generation) (s : Schema) (options : Options) (targets : List TypeDef) :
    targets.foldl (fun g target => g.add (assemble s target options)) g =
      { models := g.models ++ targets.filterMap (s.ready? options)
        diagnostics := g.diagnostics ++ targets.flatMap (s.faultsOf options) } := by
  induction targets generalizing g with
  | nil => simp
  | cons target rest ih =>
    rw [List.foldl_cons, ih, add_eq, List.flatMap_cons, List.append_assoc]
    cases ready : s.ready? options target <;> simp [ready]

/-- Every diagnostic is an error, so a generation is fine if it has none. -/
lemma isOk_iff (g : Generation) : g.isOk = true ↔ g.diagnostics = [] := by
  rw [isOk, Diagnostics.hasErrors, Bool.not_eq_true', List.any_eq_false,
    List.eq_nil_iff_forall_not_mem]
  refine forall_congr' fun d => imp_congr_right fun _ => ?_
  simp [Diagnostic.isError, Diagnostic.severity, DiagnosticKind.severity]

end Generation

/-- A generation holds the plans and the blocks of diagnostics of the mapped types, in order. -/
theorem generate_eq (s : Schema) (options : Options) :
    generate s options =
      { models := s.mappedTypes.filterMap (s.ready? options)
        diagnostics := s.mappedTypes.flatMap (s.faultsOf options) } := by
  rw [generate, Generation.foldl_add]
  rfl

lemma mem_generate_iff {s : Schema} {options : Options} {model : MappingModel} :
    model ∈ (generate s options).models ↔
      ∃ target ∈ s.mappedTypes, assemble s target options = .ok model := by
  rw [generate_eq, List.mem_filterMap]
  exact exists_congr fun target => and_congr_right fun _ => Schema.ready?_eq_some_iff

lemma assemble_of_mem_generate {s : Schema} {options : Options} {model : MappingModel}
    (generated : model ∈ (generate s options).models) :
    ∃ target ∈ s.types, target.isMapped = true ∧ assemble s target options = .ok model := by
  obtain ⟨target, listed, ready⟩ := mem_generate_iff.mp generated
  obtain ⟨known, mapped⟩ := List.mem_filter.mp listed
  exact ⟨target, known, mapped, ready⟩

end MemberMapping
