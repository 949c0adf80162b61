import MemberMapping.Proofs.StatelessAssembly
import MemberMapping.Proofs.Table
import MemberMapping.Schema.Builder

/-!
Which members an update overwrites.

Construction looks for the source of each target member; an update looks for the target of each
source member and takes the first one. So a member that construction fills is overwritten by an
update if it is the first to read its source member, and left as it is otherwise.
-/

namespace MemberMapping

/-- The first target member with its lookup name, which is the name of a candidate. -/
structure FirstReader (targets candidates : List Member) (member : Member) : Prop where
  first : targets.find? (·.lookupName == member.lookupName) = some member
  read : ∃ source ∈ candidates, source.name = member.lookupName

lemma findSource?_of_distinct {candidates : List Member} {source member : Member}
    (distinct : (candidates.map (·.name)).Nodup) (present : source ∈ candidates)
    (same : source.name = member.lookupName) : findSource? candidates member = some source := by
  rw [findSource?, ← same]
  exact find?_of_distinct distinct present

namespace Schema

/-- A candidate is written where it is read by the first of its readers, and as it is read there. -/
theorem written_iff_read_first {s : Schema} {targets candidates : List Member}
    (distinct : (candidates.map (·.name)).Nodup) (entry : MappedMember) :
    entry ∈ candidates.filterMap (s.writing? targets) ↔
      ∃ member, FirstReader targets candidates member ∧
        s.reading? candidates member = some entry := by
  rw [List.mem_filterMap]
  constructor
  · rintro ⟨source, present, written⟩
    obtain ⟨member, found, converted⟩ := Option.bind_eq_some_iff.mp written
    have same : source.name = member.lookupName := by
      have matched := List.find?_some found
      exact (beq_iff_eq.mp matched).symm
    rw [findTarget?, same] at found
    refine ⟨member, ⟨found, source, present, same⟩, ?_⟩
    rw [reading?, findSource?_of_distinct distinct present same]
    exact converted
  · rintro ⟨member, first, read⟩
    obtain ⟨source, found, converted⟩ := Option.bind_eq_some_iff.mp read
    obtain ⟨present, same⟩ := mem_of_findSource? found
    refine ⟨source, present, ?_⟩
    rw [writing?, findTarget?, same, first.first]
    exact converted

lemma read_of_candidate {s : Schema} {target source : TypeDef} {member candidate : Member}
    (faultless : s.complaints target source = []) (present : member ∈ s.targetMembers target)
    (listed : candidate ∈ s.sourceCandidates source) (same : candidate.name = member.lookupName) :
    ∃ entry, s.reading? (s.sourceCandidates source) member = some entry := by
  have unblamed := unblamed_of_faultless faultless present
  cases read : s.reading? (s.sourceCandidates source) member with
  | some entry => exact ⟨entry, rfl⟩
  | none =>
    have left := extraParameter?_of_none read unblamed
    have unmatched : findSource? (s.sourceCandidates source) member = none := by
      rw [extraParameter?] at left
      split at left
      · exact Option.isNone_iff_eq_none.mp ‹_›
      · cases left
    have missed := List.find?_eq_none.mp unmatched candidate listed
    simp [same] at missed

/-- The members that an update overwrites: the first readers that can be written. -/
lemma overwritten_iff {s : Schema} {target source : TypeDef} (options : Options)
    (faultless : s.complaints target source = [])
    (distinct : ((s.sourceCandidates source).map (·.name)).Nodup) (name : String) :
    (∃ entry ∈ (s.plan target source options).writableMembers, entry.name = name) ↔
      ∃ first, FirstReader (s.targetMembers target) (s.sourceCandidates source) first ∧
        first.readOnly = false ∧ first.name = name := by
  constructor
  · rintro ⟨entry, present, rfl⟩
    obtain ⟨written, writable⟩ := List.mem_filter.mp present
    obtain ⟨first, reader, read⟩ := (written_iff_read_first distinct entry).mp written
    obtain ⟨_, _, pairs⟩ := pairs_of_reading? read
    exact ⟨first, reader, by simpa [pairs.readOnly] using writable, pairs.name.symm⟩
  · rintro ⟨first, reader, writable, rfl⟩
    obtain ⟨candidate, listed, same⟩ := reader.read
    obtain ⟨entry, read⟩ := read_of_candidate faultless
      (List.mem_of_find?_eq_some reader.first) listed same
    obtain ⟨_, _, pairs⟩ := pairs_of_reading? read
    refine ⟨entry, List.mem_filter.mpr ⟨?_, by simp [pairs.readOnly, writable]⟩, pairs.name⟩
    exact (written_iff_read_first distinct entry).mpr ⟨first, reader, read⟩

end Schema

/-- An update overwrites the first readers that can be written, and no others. So it overwrites
every writable member that construction fills from the source exactly if each of them has the name
of such a first reader. -/
theorem update_overwrites_first_readers {s : Schema} {target source : TypeDef} {options : Options}
    {model : MappingModel} (ready : assemble s target options = .ok model)
    (declared : s.sourceOf? target = some source)
    (distinct : ((s.sourceCandidates source).map (·.name)).Nodup) :
    (∀ name, (∃ entry ∈ model.writableMembers, entry.name = name) ↔
      ∃ first, FirstReader (s.targetMembers target) (s.sourceCandidates source) first ∧
        first.readOnly = false ∧ first.name = name) ∧
    ((∀ entry ∈ model.sourceMembers, entry.readOnly = false →
        ∃ written ∈ model.writableMembers, written.name = entry.name) ↔
      ∀ member ∈ s.targetMembers target, member.readOnly = false →
        (∃ candidate ∈ s.sourceCandidates source, candidate.name = member.lookupName) →
        ∃ first, FirstReader (s.targetMembers target) (s.sourceCandidates source) first ∧
          first.readOnly = false ∧ first.name = member.name) := by
  obtain ⟨_, known, faultless, rfl⟩ := plan_of_assemble ready
  cases Option.some.inj (known.symm.trans declared)
  have overwritten := Schema.overwritten_iff options faultless distinct
  refine ⟨overwritten, ?_, ?_⟩
  · rintro complete member present writable ⟨candidate, listed, same⟩
    obtain ⟨entry, read⟩ := Schema.read_of_candidate faultless present listed same
    obtain ⟨_, _, pairs⟩ := Schema.pairs_of_reading? read
    have filled : entry ∈ (s.plan target source options).sourceMembers :=
      List.mem_filterMap.mpr ⟨member, present, read⟩
    have written := complete entry filled (pairs.readOnly.trans writable)
    rw [← pairs.name]
    exact (overwritten entry.name).mp written
  · intro led entry filled writable
    obtain ⟨member, present, read⟩ := List.mem_filterMap.mp filled
    obtain ⟨candidate, found, pairs⟩ := Schema.pairs_of_reading? read
    have matched := Schema.mem_of_findSource? found
    rw [pairs.name]
    exact (overwritten member.name).mpr
      (led member present (pairs.readOnly.symm.trans writable) ⟨candidate, matched⟩)

def person : TypeDef :=
  TypeDef.stamped
    { path := .plain ⟨"app"⟩ "Person"
      kind := .structType
      members := [{ name := "name", ty := .primitive .string }] }

/-- A type with an update method, two members of which read the name of a person. -/
def card : TypeDef :=
  TypeDef.stamped
    { path := .plain ⟨"app"⟩ "Card"
      kind := .structType
      members := [
        { name := "title", ty := .primitive .string, markers := [.mapProperty "name"] },
        { name := "label", ty := .primitive .string, markers := [.mapProperty "name"] }]
      markers := [.mapFrom (.plain ⟨"app"⟩ "Person"), .useUpdate] }

def cards : Schema :=
  { known := {}, types := [person, card] }

/-- The title of a card is its only first reader. -/
theorem update_overwrites_title :
    assemble cards card {} = .ok (cards.plan card person {}) ∧
    cards.sourceOf? card = some person ∧
    ((cards.sourceCandidates person).map (·.name)).Nodup ∧
    ((∃ entry ∈ (cards.plan card person {}).writableMembers, entry.name = "title") ↔
      ∃ first, FirstReader (cards.targetMembers card) (cards.sourceCandidates person) first ∧
        first.readOnly = false ∧ first.name = "title") :=
  have ready : assemble cards card {} = .ok (cards.plan card person {}) := by rfl
  have declared : cards.sourceOf? card = some person := by rfl
  have distinct : ((cards.sourceCandidates person).map (·.name)).Nodup := by decide
  ⟨ready, declared, distinct, (update_overwrites_first_readers ready declared distinct).1 "title"⟩

/-- Construction fills the label of a card, and an update leaves it as it was. -/
theorem label_not_updated :
    Builder.build { types := [person, card] } = .ok cards ∧
    assemble cards card {} = .ok (cards.plan card person {}) ∧
    ((cards.sourceCandidates person).map (·.name)).Nodup ∧
    (∃ entry ∈ (cards.plan card person {}).sourceMembers,
      entry.name = "label" ∧ entry.readOnly = false) ∧
    ∀ entry ∈ (cards.plan card person {}).writableMembers, entry.name ≠ "label" := by
  refine ⟨by rfl, by rfl, by decide, by decide, by decide⟩

end MemberMapping
