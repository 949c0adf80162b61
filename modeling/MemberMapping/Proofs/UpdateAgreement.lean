import MemberMapping.Expansion.Emission
import MemberMapping.Proofs.Lists
import MemberMapping.Proofs.PrintedFunctions
import MemberMapping.Proofs.Updates

/-!
An update assigns what construction assigns.

The entries of an update come from a pass of their own, in the order of the source, in which each
source member looks for its target. Where the names of the candidates are distinct, the entry of a
candidate is the one that construction has for the first target member that reads the candidate. So
an update assigns no target member twice, and none a value built in another way.
-/

namespace MemberMapping

/-- The target members that some candidate can be read for, in order. -/
def readersOf (targets candidates : List Member) : List Member :=
  targets.filter fun member => candidates.any (·.name == member.lookupName)

/-- The candidates that some target member reads, in order. -/
def readBy (targets candidates : List Member) : List Member :=
  candidates.filter fun candidate => targets.any (·.lookupName == candidate.name)

namespace Schema

variable {s : Schema} {target source : TypeDef} {targets candidates : List Member}

lemma ty_of_reading? {member : Member} {entry : MappedMember}
    (read : s.reading? candidates member = some entry) : entry.ty = member.ty := by
  obtain ⟨_, _, converted⟩ := Option.bind_eq_some_iff.mp read
  obtain ⟨_, _, rfl⟩ := Option.map_eq_some_iff.mp converted
  rfl

/-- A candidate is written as it is read by the first target member that asks for it. -/
lemma writing?_eq_bind_reading? (distinct : (candidates.map (·.name)).Nodup) {candidate : Member}
    (listed : candidate ∈ candidates) :
    s.writing? targets candidate =
      (targets.find? (·.lookupName == candidate.name)).bind (s.reading? candidates) := by
  rw [writing?, findTarget?]
  cases found : targets.find? (·.lookupName == candidate.name) with
  | none => rfl
  | some member =>
    have same : member.lookupName = candidate.name := beq_iff_eq.mp (List.find?_some found :)
    rw [Option.bind_some, Option.bind_some, reading?,
      findSource?_of_distinct distinct listed same.symm, Option.bind_some]

/-- The first target member that asks for a candidate is the first of the readers. -/
lemma find?_readersOf {candidate : Member} (listed : candidate ∈ candidates) :
    (readersOf targets candidates).find? (·.lookupName == candidate.name) =
      targets.find? (·.lookupName == candidate.name) := by
  rw [readersOf, List.find?_filter]
  refine congrArg (targets.find? ·) (funext fun member => ?_)
  by_cases same : member.lookupName = candidate.name
  · have offered : ∃ other ∈ candidates, other.name = candidate.name := ⟨candidate, listed, rfl⟩
    simpa [same] using offered
  · simp [same]

lemma readings_beside_readers (faultless : s.complaints target source = []) :
    List.Forall₂ (fun member entry => s.reading? (s.sourceCandidates source) member = some entry)
      (readersOf (s.targetMembers target) (s.sourceCandidates source))
      (s.readings target source) := by
  refine forall₂_filter_filterMap fun member present => ?_
  rw [Bool.eq_iff_iff, Option.isSome_iff_exists, List.any_eq_true]
  constructor
  · rintro ⟨candidate, listed, same⟩
    exact read_of_candidate faultless present listed (beq_iff_eq.mp same)
  · rintro ⟨entry, read⟩
    obtain ⟨candidate, found, _⟩ := pairs_of_reading? read
    obtain ⟨listed, same⟩ := mem_of_findSource? found
    exact ⟨candidate, listed, beq_iff_eq.mpr same⟩

lemma writings_beside_candidates (faultless : s.complaints target source = [])
    (distinct : ((s.sourceCandidates source).map (·.name)).Nodup) :
    List.Forall₂ (fun candidate entry => s.writing? (s.targetMembers target) candidate = some entry)
      (readBy (s.targetMembers target) (s.sourceCandidates source))
      (s.writings target source) := by
  refine forall₂_filter_filterMap fun candidate listed => ?_
  rw [Bool.eq_iff_iff, List.any_eq_true, ← List.find?_isSome,
    writing?_eq_bind_reading? distinct listed]
  cases found : (s.targetMembers target).find? (·.lookupName == candidate.name) with
  | none => rfl
  | some member =>
    have same : member.lookupName = candidate.name := beq_iff_eq.mp (List.find?_some found :)
    obtain ⟨entry, read⟩ := read_of_candidate faultless (List.mem_of_find?_eq_some found) listed
      same.symm
    rw [Option.bind_some, read]
    rfl

/-- Each candidate is written by the entry that construction has for its first reader. -/
lemma writings_eq_first_readings (faultless : s.complaints target source = [])
    (distinct : ((s.sourceCandidates source).map (·.name)).Nodup) :
    (s.writings target source).map some =
      (readBy (s.targetMembers target) (s.sourceCandidates source)).map fun candidate =>
        (((readersOf (s.targetMembers target) (s.sourceCandidates source)).zip
          (s.readings target source)).find? (·.1.lookupName == candidate.name)).map (·.2) := by
  rw [map_some_of_forall₂ (writings_beside_candidates faultless distinct)]
  refine List.map_congr_left fun candidate read => ?_
  have listed := (List.mem_filter.mp read).1
  rw [find?_zip_of_forall₂ (readings_beside_readers faultless) (·.lookupName == candidate.name),
    find?_readersOf listed, writing?_eq_bind_reading? distinct listed]

lemma nodup_first_readers (distinct : (candidates.map (·.name)).Nodup) :
    ((readBy targets candidates).map fun candidate =>
      (readersOf targets candidates).findIdx? (·.lookupName == candidate.name)).Nodup := by
  refine List.Nodup.map_on ?_ (distinct.of_map.filter _)
  intro one first other second same
  obtain ⟨listed, asked⟩ := List.mem_filter.mp first
  obtain ⟨member, present, named⟩ := List.any_eq_true.mp asked
  have reader : member ∈ readersOf targets candidates := by
    refine List.mem_filter.mpr ⟨present, List.any_eq_true.mpr ⟨one, listed, ?_⟩⟩
    rw [beq_iff_eq] at named ⊢
    exact named.symm
  cases position : (readersOf targets candidates).findIdx? (·.lookupName == one.name) with
  | none => simp [List.findIdx?_eq_none_iff.mp position member reader] at named
  | some i =>
    rw [position] at same
    obtain ⟨_, reads, _⟩ := List.findIdx?_eq_some_iff_getElem.mp position
    obtain ⟨_, reads', _⟩ := List.findIdx?_eq_some_iff_getElem.mp same.symm
    have names : one.name = other.name := (beq_iff_eq.mp reads).symm.trans (beq_iff_eq.mp reads')
    exact List.inj_on_of_nodup_map distinct listed (List.mem_filter.mp second).1 names

/-- Where target members have different names, so have the entries of construction. -/
lemma nodup_reading_names (faultless : s.complaints target source = [])
    (apart : ((s.targetMembers target).map (·.name)).Nodup) :
    ((s.readings target source).map (·.name)).Nodup := by
  have names : List.Forall₂ (· = ·)
      ((readersOf (s.targetMembers target) (s.sourceCandidates source)).map (·.name))
      ((s.readings target source).map (·.name)) := by
    rw [List.forall₂_map_left_iff, List.forall₂_map_right_iff]
    refine (readings_beside_readers faultless).imp fun member entry read => ?_
    obtain ⟨_, _, pairs⟩ := pairs_of_reading? read
    exact pairs.name.symm
  rw [List.forall₂_eq_eq_eq] at names
  rw [← names]
  exact apart.sublist (List.filter_sublist.map _)

lemma writing_names (faultless : s.complaints target source = [])
    (distinct : ((s.sourceCandidates source).map (·.name)).Nodup) :
    ((s.writings target source).map (·.name)).map some =
      (readBy (s.targetMembers target) (s.sourceCandidates source)).map fun candidate =>
        ((s.targetMembers target).find? (·.lookupName == candidate.name)).map (·.name) := by
  have named : List.Forall₂ (fun candidate name =>
      ((s.targetMembers target).find? (·.lookupName == candidate.name)).map (·.name) = some name)
      (readBy (s.targetMembers target) (s.sourceCandidates source))
      ((s.writings target source).map (·.name)) := by
    rw [List.forall₂_map_right_iff]
    refine (writings_beside_candidates faultless distinct).imp fun candidate entry written => ?_
    obtain ⟨member, found, converted⟩ := Option.bind_eq_some_iff.mp written
    obtain ⟨_, _, rfl⟩ := Option.map_eq_some_iff.mp converted
    rw [findTarget?] at found
    rw [found]
    rfl
  exact map_some_of_forall₂ named

/-- Where target members have different names, so have the entries of an update. -/
lemma nodup_writing_names (faultless : s.complaints target source = [])
    (distinct : ((s.sourceCandidates source).map (·.name)).Nodup)
    (apart : ((s.targetMembers target).map (·.name)).Nodup) :
    ((s.writings target source).map (·.name)).Nodup := by
  refine List.Nodup.of_map some ?_
  rw [writing_names faultless distinct]
  refine List.Nodup.map_on ?_ (distinct.of_map.filter _)
  intro one first other second same
  obtain ⟨listed, asked⟩ := List.mem_filter.mp first
  cases found : (s.targetMembers target).find? (·.lookupName == one.name) with
  | none =>
    obtain ⟨member, present, named⟩ := List.any_eq_true.mp asked
    exact absurd named (List.find?_eq_none.mp found member present)
  | some member =>
    rw [found] at same
    obtain ⟨member', found', named⟩ := Option.map_eq_some_iff.mp same.symm
    obtain rfl : member' = member := List.inj_on_of_nodup_map apart
      (List.mem_of_find?_eq_some found') (List.mem_of_find?_eq_some found) named
    have reads : member'.lookupName = one.name := beq_iff_eq.mp (List.find?_some found :)
    have reads' : member'.lookupName = other.name := beq_iff_eq.mp (List.find?_some found' :)
    exact List.inj_on_of_nodup_map distinct listed (List.mem_filter.mp second).1
      (reads.symm.trans reads')

lemma mem_readings_of_mem_writings (distinct : ((s.sourceCandidates source).map (·.name)).Nodup)
    {entry : MappedMember} (written : entry ∈ s.writings target source) :
    entry ∈ s.readings target source := by
  obtain ⟨member, reader, read⟩ := (written_iff_read_first distinct entry).mp written
  exact List.mem_filterMap.mpr ⟨member, List.mem_of_find?_eq_some reader.first, read⟩

end Schema

lemma Emission.memberValue_of_entry {e : Emission} {entry : MappedMember} {decl : MemberDecl}
    (apart : (e.model.sourceMembers.map (·.name)).Nodup) (filled : entry ∈ e.model.sourceMembers) :
    e.memberValue entry.name decl = e.mappedValue entry := by
  have first : e.model.sourceMembers.find? (·.name == entry.name) = some entry :=
    find?_of_distinct apart filled
  rw [memberValue, first]

/-- The reverse pass comes to what the forward pass came to. Construction has an entry for each
target member that can be read, in order. An update has an entry for each candidate that is read,
in order and no others, and it is the entry of the first member that reads the candidate. These
first members are different from each other. So in code, where members go by their names, an update
assigns no member twice, and each the value that construction gives it. The update is printed with
one statement for each assignment, in order. -/
theorem update_assigns_as_constructed {s : Schema} {target source : TypeDef} {options : Options}
    {model : MappingModel} (ready : assemble s target options = .ok model)
    (declared : s.sourceOf? target = some source)
    (distinct : ((s.sourceCandidates source).map (·.name)).Nodup) :
    let targets := s.targetMembers target
    let candidates := s.sourceCandidates source
    let readers := readersOf targets candidates
    let read := readBy targets candidates
    List.Forall₂ (fun member entry => entry.ty = member.ty ∧
        ∃ candidate ∈ candidates, candidate.name = member.lookupName ∧ entry.Pairs member candidate)
      readers model.sourceMembers ∧
    model.typeMembers.map some = read.map (fun candidate =>
      ((readers.zip model.sourceMembers).find? (·.1.lookupName == candidate.name)).map (·.2)) ∧
    (read.map fun candidate => readers.findIdx? (·.lookupName == candidate.name)).Nodup ∧
    ((targets.map (·.name)).Nodup → (model.writableMembers.map (·.name)).Nodup ∧
      ∀ e : Emission, e.model = model → ∀ update, e.update? = some update →
        update.assignments = model.writableMembers.filterMap fun entry =>
          (e.target.members.get? entry.name).map fun decl =>
            (decl.access, e.memberValue entry.name decl)) ∧
    ∀ e : Emission, e.model = model → ∀ update, e.update? = some update →
      ∃ f, e.code.Updates update f := by
  obtain ⟨_, known, faultless, rfl⟩ := plan_of_assemble ready
  cases Option.some.inj (known.symm.trans declared)
  refine ⟨?_, Schema.writings_eq_first_readings faultless distinct,
    Schema.nodup_first_readers distinct, fun apart => ⟨?_, ?_⟩,
    fun _ _ _ asked => ⟨_, Printing.updates _ asked⟩⟩
  · refine (Schema.readings_beside_readers faultless).imp fun member entry read => ?_
    obtain ⟨candidate, found, pairs⟩ := Schema.pairs_of_reading? read
    obtain ⟨listed, same⟩ := Schema.mem_of_findSource? found
    exact ⟨Schema.ty_of_reading? read, candidate, listed, same, pairs⟩
  · have names := Schema.nodup_writing_names faultless distinct apart
    exact names.sublist (List.filter_sublist.map _)
  · -- The entry of a statement is one of the construction, which is the only one of its name.
    rintro e planned update emitted
    have constructed : e.model.sourceMembers = s.readings target source := by rw [planned]; rfl
    have names : (e.model.sourceMembers.map (·.name)).Nodup := by
      rw [constructed]
      exact Schema.nodup_reading_names faultless apart
    rw [Emission.update?] at emitted
    split at emitted
    · cases emitted
      rw [planned]
      refine List.filterMap_congr fun entry writable => ?_
      have filled : entry ∈ e.model.sourceMembers := by
        rw [constructed]
        exact Schema.mem_readings_of_mem_writings distinct (List.mem_filter.mp writable).1
      simp only [Emission.assignment?, Emission.memberValue_of_entry names filled]
    · cases emitted

def invoice : TypeDef :=
  TypeDef.stamped
    { path := .plain ⟨"app"⟩ "Invoice"
      kind := .structType
      members := [
        { name := "number", ty := .primitive .i32 },
        { name := "customer", ty := .primitive .string },
        { name := "note", ty := .primitive .string },
        { name := "total", ty := .primitive .i64 }] }

/-- A card that shows the customer twice, and has a footer that no invoice gives. -/
def invoiceCard : TypeDef :=
  TypeDef.stamped
    { path := .plain ⟨"app"⟩ "InvoiceCard"
      kind := .structType
      members := [
        { name := "total", ty := .primitive .i64, readOnly := true },
        { name := "buyer", ty := .primitive .string, markers := [.mapProperty "customer"] },
        { name := "label", ty := .primitive .string, markers := [.mapProperty "customer"] },
        { name := "footer", ty := .primitive .string },
        { name := "number", ty := .primitive .i64 }]
      markers := [.mapFrom (.plain ⟨"app"⟩ "Invoice"), .useUpdate] }

def invoices : Schema :=
  { known := {}, types := [invoice, invoiceCard] }

/-- The candidates that a card reads, in the order of the invoice. -/
example : (readBy (invoices.targetMembers invoiceCard) (invoices.sourceCandidates invoice)).map
    (·.name) = ["number", "customer", "total"] := by rfl

/-- The buyer on a card is assigned once, as it is constructed. -/
theorem buyer_assigned_as_constructed :
    assemble invoices invoiceCard {} = .ok (invoices.plan invoiceCard invoice {}) ∧
    invoices.sourceOf? invoiceCard = some invoice ∧
    ((invoices.sourceCandidates invoice).map (·.name)).Nodup ∧
    ((invoices.targetMembers invoiceCard).map (·.name)).Nodup ∧
    let readers :=
      readersOf (invoices.targetMembers invoiceCard) (invoices.sourceCandidates invoice)
    let read := readBy (invoices.targetMembers invoiceCard) (invoices.sourceCandidates invoice)
    let model := invoices.plan invoiceCard invoice {}
    model.typeMembers.map some = read.map (fun candidate =>
      ((readers.zip model.sourceMembers).find? (·.1.lookupName == candidate.name)).map (·.2)) ∧
    (read.map fun candidate => readers.findIdx? (·.lookupName == candidate.name)).Nodup ∧
    (model.writableMembers.map (·.name)).Nodup := by
  have ready : assemble invoices invoiceCard {} = .ok (invoices.plan invoiceCard invoice {}) := by
    rfl
  have declared : invoices.sourceOf? invoiceCard = some invoice := by rfl
  have distinct : ((invoices.sourceCandidates invoice).map (·.name)).Nodup := by decide
  have apart : ((invoices.targetMembers invoiceCard).map (·.name)).Nodup := by decide
  obtain ⟨_, written, once, assigned, _⟩ := update_assigns_as_constructed ready declared distinct
  exact ⟨ready, declared, distinct, apart, written, once, (assigned apart).1⟩

end MemberMapping
