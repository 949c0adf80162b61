import MemberMapping.Proofs.ReferredNamespaces

/-!
The imports of a plan in the order of their first use.

Namespaces are registered while a resolver is set up, for the source of a type, and for each pair of
members that is mapped, in both directions. What is left at the end depends on the plan alone: the
namespaces that are met on a walk over it, each at its first place.
-/

namespace MemberMapping

/-! ## The walk over a plan -/

/-- The namespaces met in a type: its own, then those met in its arguments. -/
def Ty.namespacesMet (ty : Ty) : List Namespace :=
  ty.paths.map (·.scope)

/-- The namespaces met in an entry: those of its type, then those of what is mapped and from
what. -/
def MappedMember.namespacesMet (entry : MappedMember) : List Namespace :=
  match entry.conversion with
  | .direct | .converter _ _ => entry.ty.namespacesMet
  | .nested source => entry.ty.namespacesMet ++ source.namespacesMet
  | .enumerable sourceElement element =>
    entry.ty.namespacesMet ++ element.namespacesMet ++ sourceElement.namespacesMet

namespace MappingModel

/-- The namespaces met in a plan: those of the runtime, of the support library and of the source,
then those of the entries that drive the constructor and of those that drive the update. -/
def namespacesMet (known : WellKnown) (m : MappingModel) : List Namespace :=
  [known.runtimeScope, known.supportScope, m.sourceScope] ++
    m.sourceMembers.flatMap MappedMember.namespacesMet ++
    m.typeMembers.flatMap MappedMember.namespacesMet

/-- A plan imports each of the namespaces met that it can import, once, in the order in which they
are met for the first time. -/
structure ImportsFirstUses (m : MappingModel) (met : List Namespace) : Prop where
  exactly : m.imports = (met.filter fun ns => !ns.isGlobal && ns != m.scope).eraseDups
  mem_iff : ∀ ns, ns ∈ m.imports ↔ ns ∈ met ∧ m.CanImport ns
  distinct : m.imports.Nodup
  ordered : m.imports.Pairwise fun ns later => met.idxOf ns < met.idxOf later

/-- A list of what can be imported, without repetitions, is one of first uses. -/
lemma ImportsFirstUses.of_eq {m : MappingModel} {met : List Namespace}
    (same : m.imports = (met.filter fun ns => !ns.isGlobal && ns != m.scope).eraseDups) :
    m.ImportsFirstUses met := by
  have uses : Imports.FirstUses m.scope met m.imports := by
    rw [same]
    exact .of_relevant m.scope met
  exact ⟨same, uses.mem_iff, uses.distinct, uses.ordered⟩

end MappingModel

lemma MappedMember.scopes_eq (entry : MappedMember) : entry.scopes = entry.namespacesMet := by
  have walk : ∀ types : List Ty, types.flatMap Ty.scopes = types.flatMap Ty.namespacesMet := by
    intro types
    exact List.flatMap_congr fun ty _ => Ty.scopes_eq ty
  rw [scopes, walk, types, namespacesMet]
  cases entry.conversion with
  | direct => exact List.append_nil _
  | converter converter parameters => exact List.append_nil _
  | nested source => simp only [List.flatMap_cons, List.flatMap_nil, List.append_nil]
  | enumerable sourceElement element =>
    simp only [List.flatMap_cons, List.flatMap_nil, List.append_nil, List.append_assoc]

lemma Schema.scopesMet_eq (s : Schema) (target source : TypeDef) (options : Options) :
    s.scopesMet target source = (s.plan target source options).namespacesMet s.known := by
  have entries : ∀ entries : List MappedMember,
      entries.flatMap MappedMember.scopes = entries.flatMap MappedMember.namespacesMet := by
    intro entries
    exact List.flatMap_congr fun entry _ => entry.scopes_eq
  rw [scopesMet, entries, List.flatMap_append, MappingModel.namespacesMet, List.append_assoc]
  rfl

/-- A plan imports the namespaces of the runtime, of the support library and of its source, then
those that are met in its entries, in the order of their first use. The namespaces in question are
those of the declared source and of the target itself. -/
theorem imports_in_first_use_order {s : Schema} {target : TypeDef} {options : Options}
    {model : MappingModel} (ready : assemble s target options = .ok model) :
    (∃ source, s.sourceOf? target = some source ∧ model.sourceScope = source.scope) ∧
    model.scope = target.scope ∧ model.ImportsFirstUses (model.namespacesMet s.known) := by
  obtain ⟨source, declared, _, rfl⟩ := plan_of_assemble ready
  refine ⟨⟨source, declared, rfl⟩, rfl, ?_⟩
  apply MappingModel.ImportsFirstUses.of_eq
  rw [← Schema.scopesMet_eq]
  rfl

def stop : TypeDef :=
  TypeDef.stamped
    { path := .plain ⟨"app::tours"⟩ "Stop"
      kind := .structType
      members := [{ name := "number", ty := .primitive .i32 }] }

def stopView : TypeDef :=
  TypeDef.stamped
    { path := .plain ⟨"app::views"⟩ "StopView"
      kind := .structType
      members := [{ name := "number", ty := .primitive .i32 }]
      markers := [.mapFrom stop.path] }

def driver : TypeDef :=
  TypeDef.stamped
    { path := .plain ⟨"app::people"⟩ "Driver"
      kind := .structType
      members := [{ name := "name", ty := .primitive .string }] }

def driverCard : TypeDef :=
  TypeDef.stamped
    { path := .plain ⟨"app::cards"⟩ "DriverCard"
      kind := .structType
      members := [{ name := "name", ty := .primitive .string }]
      markers := [.mapFrom driver.path] }

def tour : TypeDef :=
  TypeDef.stamped
    { path := .plain ⟨"app::tours"⟩ "Tour"
      kind := .structType
      members := [
        { name := "driver", ty := driver.ty },
        { name := "stops", ty := .path ⟨⟨"std::vec"⟩, "Vec", [stop.ty]⟩ }] }

/-- The view of a tour lists its stops before its driver. -/
def tourView : TypeDef :=
  TypeDef.stamped
    { path := .plain ⟨"app::views"⟩ "TourView"
      kind := .structType
      members := [
        { name := "stops", ty := .path ⟨⟨"std::collections"⟩, "LinkedList", [stopView.ty]⟩ },
        { name := "driver", ty := driverCard.ty }]
      markers := [.mapFrom tour.path] }

def tours : Schema :=
  { known := {}, types := [stop, stopView, driver, driverCard, tour, tourView] }

/-- The stops of a view are mapped one by one, and its driver by a card. The namespace of the view
is met with each stop and is not imported; that of the stops is the one of the tour. -/
theorem tour_view_imports :
    assemble tours tourView {} = .ok (tours.plan tourView tour {}) ∧
    (tours.plan tourView tour {}).ImportsFirstUses
      ((tours.plan tourView tour {}).namespacesMet tours.known) ∧
    (tours.plan tourView tour {}).imports =
      [⟨"std"⟩, ⟨"mapto"⟩, ⟨"app::tours"⟩, ⟨"std::collections"⟩, ⟨"app::cards"⟩,
        ⟨"app::people"⟩] := by
  have ready : assemble tours tourView {} = .ok (tours.plan tourView tour {}) :=
    assemble_of_faultless {} rfl rfl
  obtain ⟨_, _, firstUses⟩ := imports_in_first_use_order ready
  refine ⟨ready, firstUses, ?_⟩
  rw [firstUses.exactly]
  rfl

end MemberMapping
