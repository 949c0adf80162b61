import MemberMapping.Proofs.Generation
import MemberMapping.Proofs.StatelessAssembly
import MemberMapping.Proofs.TypeGraph

/-!
Members that belong to a mapped ancestor.

A class inherits from every type on its base chain. Where the direct base is mapped, the plan of
the class leaves what is inherited to it. A mapped type farther up does not count: behind a direct
base that is not mapped, the plan takes in the members of the whole chain, those for which the
mapped ancestor has a plan of its own included.
-/

namespace MemberMapping

namespace Schema

/-- A plan for the target holds an entry, or a parameter, that is the one of `member`. -/
inductive StandsFor (s : Schema) (target source : TypeDef) (model : MappingModel)
    (member : Member) : Prop
  | read {entry : MappedMember} (listed : entry ∈ model.sourceMembers)
      (taken : member ∈ s.targetMembers target)
      (reads : s.reading? (s.sourceCandidates source) member = some entry)
  | left {parameter : ExtraParameter} (listed : parameter ∈ model.extraParameters)
      (taken : member ∈ s.targetMembers target)
      (leaves : extraParameter? (s.sourceCandidates source) member = some parameter)

/-- The member is one of a mapped ancestor, or of a type from which that ancestor inherits. -/
def OwnedAbove (s : Schema) (target : TypeDef) (member : Member) : Prop :=
  ∃ ancestor, s.Inherits target ancestor ∧ ancestor.isMapped = true ∧
    ∃ holder, (holder = ancestor ∨ s.Inherits ancestor holder) ∧ member ∈ holder.members

/-- Some type is mapped from which the target inherits. -/
def InheritsMapped (s : Schema) (target : TypeDef) : Prop :=
  ∃ ancestor, s.Inherits target ancestor ∧ ancestor.isMapped = true

/-- The plan notes whether the target inherits from a mapped type, and stands for no member that is
owned there. -/
structure LeavesOwned (s : Schema) (target source : TypeDef) (model : MappingModel) : Prop where
  noted : model.hasBaseClass = true ↔ s.InheritsMapped target
  apart : ∀ member, s.StandsFor target source model member → ¬ s.OwnedAbove target member

variable {s : Schema}

lemma OwnedAbove.inheritsMapped {target : TypeDef} {member : Member}
    (owned : s.OwnedAbove target member) : s.InheritsMapped target := by
  obtain ⟨ancestor, above, mapped, _⟩ := owned
  exact ⟨ancestor, above, mapped⟩

lemma mappedBase?_isSome_iff {target : TypeDef} :
    (s.mappedBase? target).isSome = true ↔
      ∃ base, s.baseOf? target = some base ∧ base.isMapped = true := by
  simp only [mappedBase?, Option.isSome_filter, Option.any_eq_true, TypeDef.isMapped_eq]

lemma inheritsMapped_of_mappedBase? {target : TypeDef}
    (found : (s.mappedBase? target).isSome = true) : s.InheritsMapped target := by
  obtain ⟨base, direct, mapped⟩ := mappedBase?_isSome_iff.mp found
  exact ⟨base, .single direct, mapped⟩

/-- Up to the ignored ones, the members that are to be mapped are those of the class, and without
a mapped direct base those of every ancestor. -/
lemma mem_targetMembers_iff (checked : s.checkBases = .ok ()) {target : TypeDef}
    (kind : target.kind = .classType) {member : Member} :
    member ∈ s.targetMembers target ↔ member.isIgnored = false ∧
      (member ∈ target.members ∨ (s.mappedBase? target).isSome = false ∧
        ∃ ancestor, s.Inherits target ancestor ∧ member ∈ ancestor.members) := by
  have along : ∀ ancestor, ancestor ∈ s.bases target ↔ s.Inherits target ancestor :=
    fun _ => (chain_bases checked target).mem_iff
  simp only [targetMembers, mappable, kindMembers, kind, members, List.mem_filter,
    Bool.not_eq_true', and_comm (b := member.isIgnored = false)]
  refine and_congr_right fun _ => ?_
  cases mapped : (s.mappedBase? target).isSome with
  | true => simp
  | false => simp [allMembers, ← along, or_comm]

/-- What is declared in a class is not declared in an ancestor as well: members carry the name of
their type. -/
lemma not_ownedAbove {b : Builder} (built : b.build = .ok s) {target : TypeDef}
    (known : target ∈ s.types) {member : Member} (own : member ∈ target.members) :
    ¬ s.OwnedAbove target member := by
  obtain ⟨stamped, distinct, checked⟩ := Builder.build_ok built
  have declared : ∀ d ∈ s.types, ∀ m ∈ d.members, m.declaredIn = d.fullName := by
    intro d listed m present
    rw [stamped] at listed
    obtain ⟨_, _, rfl⟩ := List.mem_map.mp listed
    exact (TypeDef.mem_stamped present).1
  rintro ⟨ancestor, above, _, holder, reached, present⟩
  have chain := chain_bases checked target
  have met : holder ∈ s.bases target := by
    rcases reached with rfl | further
    · exact chain.mem_iff.mpr above
    · exact chain.mem_iff.mpr (above.trans further)
  have same : holder.fullName = target.fullName := by
    rw [← declared holder (chain.declared met) member present, declared target known member own]
  have apart := (List.nodup_cons.mp (chain.nodup_names distinct known)).1
  exact apart (List.mem_map.mpr ⟨holder, met, same⟩)

/-- Where nothing is said against the mapping, each target member has its entry or parameter. -/
lemma standsFor_iff {target source : TypeDef} {options : Options} {member : Member}
    (faultless : s.complaints target source = []) :
    s.StandsFor target source (s.plan target source options) member ↔
      member ∈ s.targetMembers target := by
  constructor
  · rintro (⟨_, taken, _⟩ | ⟨_, taken, _⟩)
    · exact taken
    · exact taken
  · intro taken
    cases reads : s.reading? (s.sourceCandidates source) member with
    | some entry => exact .read (List.mem_filterMap.mpr ⟨member, taken, reads⟩) taken reads
    | none =>
      have leaves := extraParameter?_of_none reads (unblamed_of_faultless faultless taken)
      exact .left (List.mem_filterMap.mpr ⟨member, taken, leaves⟩) taken leaves

end Schema

/-- In a built schema, the plan of a class notes a mapped base exactly if the direct base is mapped.
Its entries and parameters stand for members of the class that are not ignored and, without a mapped
direct base, for those of every ancestor. So it leaves to mapped ancestors what is theirs if and
only if the direct base is mapped or no ancestor is. -/
theorem owned_above_left_out_iff {b : Builder} {s : Schema} {target : TypeDef} {options : Options}
    {model : MappingModel} (built : b.build = .ok s) (known : target ∈ s.types)
    (kind : target.kind = .classType) (ready : assemble s target options = .ok model) :
    ∃ source, s.sourceOf? target = some source ∧
      (model.hasBaseClass = true ↔ ∃ base, s.baseOf? target = some base ∧ base.isMapped = true) ∧
      (∀ entry ∈ model.sourceMembers, ∃ member,
        s.StandsFor target source model member ∧ entry.name = member.name) ∧
      (∀ parameter ∈ model.extraParameters, ∃ member,
        s.StandsFor target source model member ∧ parameter.name = member.name) ∧
      (∀ member, s.StandsFor target source model member ↔ member.isIgnored = false ∧
        (member ∈ target.members ∨ model.hasBaseClass = false ∧
          ∃ ancestor, s.Inherits target ancestor ∧ member ∈ ancestor.members)) ∧
      (s.LeavesOwned target source model ↔
        model.hasBaseClass = true ∨ ¬ s.InheritsMapped target) := by
  obtain ⟨_, _, checked⟩ := Builder.build_ok built
  obtain ⟨source, named, faultless, rfl⟩ := plan_of_assemble ready
  have stands : ∀ member, s.StandsFor target source (s.plan target source options) member ↔
      member.isIgnored = false ∧ (member ∈ target.members ∨ (s.mappedBase? target).isSome = false ∧
        ∃ ancestor, s.Inherits target ancestor ∧ member ∈ ancestor.members) := fun member =>
    (Schema.standsFor_iff faultless).trans (Schema.mem_targetMembers_iff checked kind)
  refine ⟨source, named, Schema.mappedBase?_isSome_iff, ?_, ?_, stands, ?_⟩
  · intro entry listed
    obtain ⟨member, taken, reads⟩ := List.mem_filterMap.mp listed
    obtain ⟨_, _, pairs⟩ := Schema.pairs_of_reading? reads
    exact ⟨member, .read listed taken reads, pairs.name⟩
  · intro parameter listed
    obtain ⟨member, taken, leaves⟩ := List.mem_filterMap.mp listed
    exact ⟨member, .left listed taken leaves, Schema.name_of_extraParameter? leaves⟩
  · constructor
    · intro leaves
      by_cases inherits : s.InheritsMapped target
      · exact Or.inl (leaves.noted.mpr inherits)
      · exact Or.inr inherits
    · rintro (mapped | none)
      · refine ⟨iff_of_true mapped (Schema.inheritsMapped_of_mappedBase? mapped), ?_⟩
        intro member stood
        -- The members of the chain are left to the direct base.
        rcases ((stands member).mp stood).2 with own | ⟨unmapped, _⟩
        · exact Schema.not_ownedAbove built known own
        · cases mapped.symm.trans unmapped
      · exact ⟨iff_of_false (fun mapped => none (Schema.inheritsMapped_of_mappedBase? mapped)) none,
          fun _ _ owned => none owned.inheritsMapped⟩

def stored : TypeDef :=
  { path := .plain ⟨"app"⟩ "Entity"
    kind := .classType
    members := [{ name := "id", ty := .primitive .i32 }] }

def client : TypeDef :=
  { path := .plain ⟨"app"⟩ "Customer"
    kind := .classType
    base := some stored.path
    members := [{ name := "name", ty := .primitive .string }] }

def storedView : TypeDef :=
  { path := .plain ⟨"app::views"⟩ "EntityView"
    kind := .classType
    members := [{ name := "id", ty := .primitive .i32 }]
    markers := [.mapFrom stored.path] }

/-- The number of the view, as its declaration has it. -/
def viewedNumber : Member :=
  { name := "id", ty := .primitive .i32, declaredIn := "app::views::EntityView" }

/-- A view that adds nothing and is not mapped itself. -/
def auditedView : TypeDef :=
  { path := .plain ⟨"app::views"⟩ "AuditedView"
    kind := .classType
    base := some storedView.path }

def clientView : TypeDef :=
  { path := .plain ⟨"app::views"⟩ "CustomerView"
    kind := .classType
    base := some auditedView.path
    members := [{ name := "name", ty := .primitive .string }]
    markers := [.mapFrom client.path] }

def clientCard : TypeDef :=
  { path := .plain ⟨"app::views"⟩ "CustomerCard"
    kind := .classType
    base := some clientView.path
    members := [{ name := "name", ty := .primitive .string }]
    markers := [.mapFrom client.path] }

def audited : Builder :=
  { types := [stored, client, storedView, auditedView, clientView] }

def auditedSchema : Schema :=
  { known := {}, types := audited.types.map TypeDef.stamped }

def auditedCards : Builder :=
  audited.add clientCard

def cardSchema : Schema :=
  { known := {}, types := auditedCards.types.map TypeDef.stamped }

/-- The card leaves what it inherits to the view above it. -/
theorem card_leaves_out :
    auditedCards.build = .ok cardSchema ∧ clientCard.stamped ∈ cardSchema.types ∧
    clientCard.stamped.kind = .classType ∧
    ∃ model, assemble cardSchema clientCard.stamped {} = .ok model ∧
      model.hasBaseClass = true ∧ model.sourceMembers.map (·.name) = ["name"] ∧
      cardSchema.LeavesOwned clientCard.stamped client.stamped model := by
  have built : auditedCards.build = .ok cardSchema := by rfl
  have known : clientCard.stamped ∈ cardSchema.types := List.mem_of_getElem? (i := 5) rfl
  have ready : assemble cardSchema clientCard.stamped {} =
      .ok (cardSchema.plan clientCard.stamped client.stamped {}) := by rfl
  obtain ⟨source, named, _, _, _, _, leaves⟩ := owned_above_left_out_iff built known rfl ready
  have noted : (cardSchema.plan clientCard.stamped client.stamped {}).hasBaseClass = true := by
    rfl
  obtain rfl : client.stamped = source := by
    have declared : cardSchema.sourceOf? clientCard.stamped = some client.stamped := by rfl
    exact Option.some.inj (declared.symm.trans named)
  exact ⟨built, known, rfl, _, ready, noted, by rfl, leaves.mpr (Or.inl noted)⟩

/-- The view below the audited one notes no mapped base and maps the number itself, though it
inherits both from a view that is mapped. -/
theorem audited_number_mapped_again :
    audited.build = .ok auditedSchema ∧ clientView.stamped ∈ auditedSchema.types ∧
    clientView.stamped.kind = .classType ∧
    ∃ model source member, assemble auditedSchema clientView.stamped {} = .ok model ∧
      auditedSchema.sourceOf? clientView.stamped = some source ∧
      model.hasBaseClass = false ∧ auditedSchema.InheritsMapped clientView.stamped ∧
      auditedSchema.StandsFor clientView.stamped source model member ∧
      auditedSchema.OwnedAbove clientView.stamped member ∧
      ¬ auditedSchema.LeavesOwned clientView.stamped source model := by
  have ready : assemble auditedSchema clientView.stamped {} =
      .ok (auditedSchema.plan clientView.stamped client.stamped {}) := by rfl
  have above : auditedSchema.Inherits clientView.stamped storedView.stamped :=
    .tail (.single (by rfl : auditedSchema.baseOf? clientView.stamped = some auditedView.stamped))
      (by rfl)
  have stood : auditedSchema.StandsFor clientView.stamped client.stamped
      (auditedSchema.plan clientView.stamped client.stamped {}) viewedNumber :=
    .read (.head _) (.head _) (by rfl)
  have owned : auditedSchema.OwnedAbove clientView.stamped viewedNumber :=
    ⟨_, above, by rfl, _, Or.inl rfl, .head _⟩
  exact ⟨by rfl, List.mem_of_getElem? (i := 4) rfl, rfl, _, client.stamped, viewedNumber, ready,
    by rfl, by rfl, ⟨_, above, by rfl⟩, stood, owned,
    fun leaves => leaves.apart viewedNumber stood owned⟩

end MemberMapping
