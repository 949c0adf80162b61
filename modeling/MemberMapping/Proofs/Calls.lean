import MemberMapping.Proofs.BuiltSchema
import MemberMapping.Proofs.Failures

/-!
Calls between mappings.

The code of a plan calls the mappings of other types: of nested members, of elements and of the
base. In a generation without diagnostics the type that is called for always has a plan of its own.
But the plan only serves the call if it is for exactly the source of the call and takes nothing
besides.
-/

namespace MemberMapping

/-- A call of the mapping that builds `target` from `source` alone. -/
structure MappingCall where
  target : Ty
  source : Ty

def MappedMember.call? (m : MappedMember) : Option MappingCall :=
  match m.conversion with
  | .nested source => some ⟨m.ty, source⟩
  | .enumerable sourceElement element => some ⟨element, sourceElement⟩
  | _ => none

namespace MappingModel

/-- The mapping that the code of a plan calls for the inherited part. -/
def baseCall? (m : MappingModel) : Option MappingCall :=
  match m.baseType, m.baseSource with
  | some base, some source => some ⟨.path base, .path source⟩
  | _, _ => none

def calls (m : MappingModel) : List MappingCall :=
  m.sourceMembers.filterMap MappedMember.call? ++ m.baseCall?.toList

end MappingModel

namespace Schema

/-- The generation has a plan for the declaration of the type that is called for, from the source
of the call and without further parameters. -/
def Supplies (s : Schema) (options : Options) (call : MappingCall) : Prop :=
  ∃ d model, s.typeOf? call.target = some d ∧ d.mapFrom?.map Ty.path = some call.source ∧
    assemble s d options = .ok model ∧ model ∈ (generate s options).models ∧
    model.extraParameters = []

/-- The conversions that call a mapping are to a type whose declaration is mapped from the type
converted from. -/
lemma mappedFrom_of_conversion? {s : Schema} {source target : Member} {c : Conversion}
    {call : MappingCall} (applies : s.conversion? source target = some c)
    (calls : (mappedMember target source c).call? = some call) :
    s.MappedFrom call.target call.source := by
  rw [conversion?] at applies
  split at applies
  · cases applies
    cases calls
  · split at applies
    · split at applies
      · cases applies
        cases calls
      · cases applies
    · split at applies
      · cases applies
        cases calls
        assumption
      · rw [elementConversion?] at applies
        split at applies
        · split at applies
          · cases applies
            cases calls
            assumption
          · cases applies
        · cases applies

/-- A mapping is called only where the declaration of the type called for is mapped from the type
that is handed over. -/
lemma mappedFrom_of_call {s : Schema} {target source : TypeDef} {options : Options}
    {call : MappingCall} (called : call ∈ (s.plan target source options).calls) :
    s.MappedFrom call.target call.source := by
  rcases List.mem_append.mp called with own | inherited
  · obtain ⟨entry, listed, calls⟩ := List.mem_filterMap.mp own
    obtain ⟨member, _, read⟩ := List.mem_filterMap.mp listed
    obtain ⟨candidate, _, converted⟩ := Option.bind_eq_some_iff.mp read
    obtain ⟨c, applies, rfl⟩ := Option.map_eq_some_iff.mp converted
    exact mappedFrom_of_conversion? applies calls
  · rw [Option.mem_toList, MappingModel.baseCall?] at inherited
    cases mappedBase : s.mappedBase? target with
    | none => simp [plan, mappedBase] at inherited
    | some base =>
      obtain ⟨direct, _⟩ := Option.filter_eq_some_iff.mp mappedBase
      cases mapped : base.mapFrom? with
      | none => simp [plan, mappedBase, mapped] at inherited
      | some path =>
        obtain rfl : (⟨.path base.path, .path path⟩ : MappingCall) = call := by
          simpa [plan, mappedBase, mapped] using inherited
        obtain ⟨written, _, found⟩ := Option.bind_eq_some_iff.mp direct
        have named := (mem_of_find? found).2
        refine ⟨path, base, path, rfl, ?_, mapped, rfl⟩
        show s.find? base.fullName = some base
        rw [named]
        exact found

/-- In a generation without diagnostics every mapped type has its plan. -/
lemma ready_of_silent {s : Schema} {options : Options}
    (silent : (generate s options).diagnostics = []) {d : TypeDef} (listed : d ∈ s.mappedTypes) :
    ∃ model, assemble s d options = .ok model ∧ model ∈ (generate s options).models := by
  rw [generate_eq, List.flatMap_eq_nil_iff] at silent
  rcases s.ready?_or_failure options d with ⟨model, ready, _⟩ | ⟨_, failure⟩
  · have assembled := ready?_eq_some_iff.mp ready
    exact ⟨model, assembled, mem_generate_iff.mpr ⟨d, listed, assembled⟩⟩
  · exact absurd (silent d listed) failure.ne_nil

/-- A plan takes no further parameters if each target member has a candidate. -/
lemma extraParameters_nil_iff {s : Schema} {target source : TypeDef} {options : Options} :
    (s.plan target source options).extraParameters = [] ↔
      ∀ member ∈ s.targetMembers target, ∃ candidate ∈ s.sourceCandidates source,
        candidate.name = member.lookupName := by
  show (s.targetMembers target).filterMap (extraParameter? (s.sourceCandidates source)) = [] ↔ _
  rw [List.filterMap_eq_nil_iff]
  refine forall_congr' fun member => imp_congr_right fun _ => ?_
  rw [extraParameter?, findSource?]
  cases found : (s.sourceCandidates source).find? (·.name == member.lookupName) with
  | none =>
    have missed : ¬ ∃ candidate ∈ s.sourceCandidates source,
        candidate.name = member.lookupName := by simpa using found
    simp [missed]
  | some candidate =>
    have matched := List.find?_some found
    simp only [Option.isNone_some, Bool.false_eq_true, if_false, true_iff]
    exact ⟨candidate, List.mem_of_find?_eq_some found, by simpa using matched⟩

end Schema

/-- In a generation without diagnostics, the type that a plan calls for has a plan from a source of
the name that is handed over. The plan serves the call exactly if it is for that very source, type
arguments included, and every member of the type has a counterpart. -/
theorem call_supplied_iff {s : Schema} {options : Options} {model : MappingModel}
    {call : MappingCall} (silent : (generate s options).diagnostics = [])
    (generated : model ∈ (generate s options).models) (called : call ∈ model.calls) :
    ∃ d path mapped source plan, s.typeOf? call.target = some d ∧ call.source = .path path ∧
      d.mapFrom? = some mapped ∧ mapped.definitionName = path.definitionName ∧
      s.typeDef? mapped = some source ∧ assemble s d options = .ok plan ∧
      plan ∈ (generate s options).models ∧
      (s.Supplies options call ↔ mapped = path ∧
        ∀ member ∈ s.targetMembers d, ∃ candidate ∈ s.sourceCandidates source,
          candidate.name = member.lookupName) := by
  obtain ⟨target, _, ready⟩ := mem_generate_iff.mp generated
  obtain ⟨_, _, _, rfl⟩ := plan_of_assemble ready
  obtain ⟨path, d, mapped, handed, behind, marked, same⟩ := Schema.mappedFrom_of_call called
  have listed : d ∈ s.mappedTypes := by
    obtain ⟨_, _, found⟩ := Option.bind_eq_some_iff.mp behind
    exact List.mem_filter.mpr ⟨(Schema.mem_of_find? found).1, TypeDef.isMapped_of_mapFrom? marked⟩
  obtain ⟨_, assembled, present⟩ := Schema.ready_of_silent silent listed
  obtain ⟨source, known, _, rfl⟩ := plan_of_assemble assembled
  have declared : s.typeDef? mapped = some source := by
    rwa [Schema.sourceOf?, marked, Option.bind_some] at known
  refine ⟨d, path, mapped, source, _, behind, handed, marked, same, declared, assembled, present,
    ?_⟩
  rw [← Schema.extraParameters_nil_iff]
  constructor
  · -- The declaration and its plan are determined by the call, so these are the ones found above.
    rintro ⟨d', plan', behind', marked', assembled', _, bare⟩
    cases Option.some.inj (behind.symm.trans behind')
    cases Except.ok.inj (assembled.symm.trans assembled')
    refine ⟨?_, bare⟩
    rw [marked, handed, Option.map_some, Option.some.injEq, Ty.path.injEq] at marked'
    exact marked'
  · rintro ⟨rfl, bare⟩
    exact ⟨d, _, behind, by rw [marked, handed, Option.map_some], assembled, present, bare⟩

def article : TypeDef :=
  TypeDef.stamped
    { path := .plain ⟨"app"⟩ "Article"
      kind := .structType
      members := [{ name := "number", ty := .primitive .i32 }] }

def articleView : TypeDef :=
  TypeDef.stamped
    { path := .plain ⟨"app"⟩ "ArticleView"
      kind := .structType
      members := [
        { name := "number", ty := .primitive .i32 },
        { name := "label", ty := .primitive .string }]
      markers := [.mapFrom article.path] }

def order : TypeDef :=
  TypeDef.stamped
    { path := .plain ⟨"app"⟩ "Order"
      kind := .structType
      members := [{ name := "article", ty := article.ty }] }

/-- A view of an order, which shows the view of the article. -/
def orderView : TypeDef :=
  TypeDef.stamped
    { path := .plain ⟨"app"⟩ "OrderView"
      kind := .structType
      members := [{ name := "article", ty := articleView.ty }]
      markers := [.mapFrom order.path] }

def orders : Schema :=
  { known := {}, types := [article, articleView, order, orderView] }

/-- The view of an order calls for a view of the article. -/
def viewCall : MappingCall := ⟨articleView.ty, article.ty⟩

/-- The plan that the view of an order calls for is there. -/
theorem article_view_supplied_iff :
    (generate orders {}).diagnostics = [] ∧
    orders.plan orderView order {} ∈ (generate orders {}).models ∧
    viewCall ∈ (orders.plan orderView order {}).calls ∧
    ∃ d path mapped source plan, orders.typeOf? viewCall.target = some d ∧
      viewCall.source = .path path ∧ d.mapFrom? = some mapped ∧
      mapped.definitionName = path.definitionName ∧ orders.typeDef? mapped = some source ∧
      assemble orders d {} = .ok plan ∧ plan ∈ (generate orders {}).models ∧
      (orders.Supplies {} viewCall ↔ mapped = path ∧
        ∀ member ∈ orders.targetMembers d, ∃ candidate ∈ orders.sourceCandidates source,
          candidate.name = member.lookupName) :=
  have silent : (generate orders {}).diagnostics = [] := by rfl
  have generated : orders.plan orderView order {} ∈ (generate orders {}).models :=
    mem_generate_iff.mpr ⟨orderView, .tail _ (.head _), by rfl⟩
  have called : viewCall ∈ (orders.plan orderView order {}).calls := .head _
  ⟨silent, generated, called, call_supplied_iff silent generated called⟩

/-- The view of an article takes a label, which the view of an order cannot give. -/
theorem article_view_not_supplied :
    Builder.build { types := [article, articleView, order, orderView] } = .ok orders ∧
    (generate orders {}).diagnostics = [] ∧
    ∃ model ∈ (generate orders {}).models, ∃ call ∈ model.calls, ¬ orders.Supplies {} call := by
  have generated : orders.plan orderView order {} ∈ (generate orders {}).models :=
    mem_generate_iff.mpr ⟨orderView, .tail _ (.head _), by rfl⟩
  refine ⟨by rfl, by rfl, _, generated, viewCall, .head _, ?_⟩
  rintro ⟨d, model, behind, _, assembled, _, bare⟩
  obtain rfl : articleView = d := by
    have declared : orders.typeOf? viewCall.target = some articleView := by rfl
    exact Option.some.inj (declared.symm.trans behind)
  obtain rfl : orders.plan articleView article {} = model := by
    have planned : assemble orders articleView {} = .ok (orders.plan articleView article {}) := by
      rfl
    exact Except.ok.inj (planned.symm.trans assembled)
  have taken : (orders.plan articleView article {}).extraParameters.length = 1 := by rfl
  simp [bare] at taken

end MemberMapping
