import MemberMapping.Proofs.BuiltSchema
import MemberMapping.Proofs.PathTexts

/-!
Definition names identify declarations.

A definition name is scope and name joined to one text. It is read back from its end: the name is
what stands behind the last colon, and what stands before the separator is the scope, whatever
colons are in it. So declarations may be looked up by the text alone.
-/

namespace MemberMapping

namespace TypePath

/-- The name has no colon, as no identifier has one. Scopes may have any. -/
def IsPlain (path : TypePath) : Prop :=
  ':' ∉ path.name.toList

instance : DecidablePred IsPlain := fun path =>
  inferInstanceAs (Decidable (':' ∉ path.name.toList))

/-- Two paths agree in scope and name. Their arguments may differ. -/
def Agrees (one two : TypePath) : Prop :=
  one.scope = two.scope ∧ one.name = two.name

instance : DecidableRel Agrees := fun one two =>
  inferInstanceAs (Decidable (one.scope = two.scope ∧ one.name = two.name))

lemma Agrees.definitionName_eq {one two : TypePath} (agree : one.Agrees two) :
    one.definitionName = two.definitionName := by
  rw [definitionName, definitionName, agree.1, agree.2]

lemma definitionName_eq_iff {one two : TypePath} (plain : one.IsPlain) (plain' : two.IsPlain) :
    one.definitionName = two.definitionName ↔ one.Agrees two :=
  ⟨eq_of_definitionName plain plain', Agrees.definitionName_eq⟩

end TypePath

namespace Schema

def agreeing (s : Schema) (path : TypePath) : List TypeDef :=
  s.types.filter fun d => d.path.Agrees path

/-- A path finds nothing where no type of its scope and name is declared, and else the only one. -/
def Identifies (s : Schema) (path : TypePath) : Prop :=
  (s.typeDef? path = none ∧ s.agreeing path = []) ∨
    ∃ d, s.typeDef? path = some d ∧ s.agreeing path = [d]

lemma agreeing_eq {s : Schema} (plain : ∀ d ∈ s.types, d.path.IsPlain) {path : TypePath}
    (plain' : path.IsPlain) :
    s.agreeing path = s.types.filter (·.fullName == path.definitionName) := by
  refine List.filter_congr fun d declared => ?_
  rw [Bool.eq_iff_iff, decide_eq_true_iff, beq_iff_eq]
  exact (TypePath.definitionName_eq_iff (plain d declared) plain').symm

lemma identifies_of_distinct {s : Schema} (distinct : (s.types.map (·.fullName)).Nodup)
    (plain : ∀ d ∈ s.types, d.path.IsPlain) {path : TypePath} (plain' : path.IsPlain) :
    s.Identifies path := by
  rw [Identifies, agreeing_eq plain plain']
  cases found : s.typeDef? path with
  | none =>
    refine Or.inl ⟨rfl, List.filter_eq_nil_iff.mpr fun d declared => ?_⟩
    exact List.find?_eq_none.mp found d declared
  | some d => exact Or.inr ⟨d, rfl, filter_eq_of_find? distinct found⟩

end Schema

/-- Paths without colons in their names have the same definition name exactly if they agree in scope
and name. So a schema whose types have such names finds by such a path the declared type of its
scope and name, of which there is one, or nothing where there is none. -/
theorem definition_names_identify :
    (∀ one two : TypePath, one.IsPlain → two.IsPlain →
      (one.definitionName = two.definitionName ↔ one.Agrees two)) ∧
    ∀ (b : Builder) (s : Schema), b.build = .ok s → (∀ d ∈ s.types, d.path.IsPlain) →
      ∀ path : TypePath, path.IsPlain → s.Identifies path := by
  refine ⟨fun one two => TypePath.definitionName_eq_iff, ?_⟩
  intro b s built plain path plain'
  obtain ⟨-, distinct, -⟩ := Builder.build_ok built
  exact Schema.identifies_of_distinct distinct plain plain'

def salesReport : TypeDef :=
  { path := .plain ⟨"app::sales"⟩ "Report", kind := .structType }

/-- A report in a scope that ends in a stray colon. -/
def strayReport : TypeDef :=
  { path := .plain ⟨"app::sales:"⟩ "Report", kind := .structType }

def outerReport : TypeDef :=
  { path := .plain .global "Report", kind := .structType }

def reports : Builder := { types := [salesReport, strayReport, outerReport] }

/-- The reports are told apart by their scopes, one of which has a stray colon. Arguments do not
matter. -/
theorem reports_identified :
    ∃ s, reports.build = .ok s ∧ (∀ d ∈ s.types, d.path.IsPlain) ∧
      TypePath.IsPlain ⟨⟨"app::sales:"⟩, "Report", [.primitive .i32]⟩ ∧
      (salesReport.fullName = strayReport.fullName ↔ salesReport.path.Agrees strayReport.path) ∧
      s.Identifies ⟨⟨"app::sales:"⟩, "Report", [.primitive .i32]⟩ := by
  obtain ⟨names, look_ups⟩ := definition_names_identify
  have built : reports.build = .ok ⟨{}, reports.types.map TypeDef.stamped⟩ := by rfl
  have plain : ∀ d ∈ reports.types.map TypeDef.stamped, d.path.IsPlain := by decide
  have asked : TypePath.IsPlain ⟨⟨"app::sales:"⟩, "Report", [.primitive .i32]⟩ := by decide
  exact ⟨_, built, plain, asked, names _ _ (by decide) (by decide),
    look_ups reports _ built plain _ asked⟩

/-- A colon in a name can be taken for one of the scope. -/
example : (TypePath.plain ⟨"app"⟩ "sales::Report").definitionName = salesReport.fullName ∧
    ¬ (TypePath.plain ⟨"app"⟩ "sales::Report").Agrees salesReport.path := by
  decide

end MemberMapping
