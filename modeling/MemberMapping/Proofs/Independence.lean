import Mathlib.Data.List.Perm.Basic
import MemberMapping.Proofs.BaseChain
import MemberMapping.Proofs.Generation
import MemberMapping.Proofs.References
import MemberMapping.Proofs.StatelessAssembly

/-!
What the mapping of a type depends on.

Only declarations under names that a type refers to, directly or through what it refers to, take
part in its mapping. Two schemas that find the same declarations under those names come to the same
plan or the same diagnostics; neither the order of the declarations nor a type that nothing refers
to makes a difference.
-/

namespace MemberMapping

namespace Schema

/-- Two schemas find the same declarations under some names, and the declarations of the first
refer to no others. Every base chain of both ends. -/
structure AgreeOn (s s' : Schema) (names : String → Prop) : Prop where
  known : s.known = s'.known
  found : ∀ name, names name → s.find? name = s'.find? name
  closed : ∀ d ∈ s.types, Within names d.paths
  ends : s.checkBases = .ok ()
  ends' : s'.checkBases = .ok ()

namespace AgreeOn

variable {s s' : Schema} {names : String → Prop} (agree : s.AgreeOn s' names)

include agree

lemma typeDef?_eq {path : TypePath} (near : names path.definitionName) :
    s.typeDef? path = s'.typeDef? path :=
  agree.found path.definitionName near

lemma within_of_typeDef? {path : TypePath} {d : TypeDef} (declared : s.typeDef? path = some d) :
    Within names d.paths :=
  agree.closed d (mem_of_find? declared).1

lemma typeOf?_eq {ty : Ty} (within : Within names ty.paths) : s.typeOf? ty = s'.typeOf? ty := by
  rw [typeOf?, typeOf?]
  cases named : ty.nominal? with
  | none => rfl
  | some path => exact agree.typeDef?_eq (within.nominal named)

lemma baseOf?_eq {d : TypeDef} (within : Within names d.paths) : s.baseOf? d = s'.baseOf? d := by
  rw [baseOf?, baseOf?]
  cases written : d.base with
  | none => rfl
  | some path => exact agree.typeDef?_eq (within.base written)

/-- The chain is followed through declarations that refer to common names alone. -/
lemma baseChain {d : TypeDef} {bases : List TypeDef} (within : Within names d.paths)
    (chain : s.BaseChain d bases) : s'.BaseChain d bases := by
  induction chain with
  | ended root => exact .ended ((agree.baseOf?_eq within).symm.trans root)
  | link direct _ ih =>
    obtain ⟨_, _, known, _⟩ := mem_of_baseOf? direct
    exact .link ((agree.baseOf?_eq within).symm.trans direct) (ih (agree.closed _ known))

lemma bases_eq {d : TypeDef} (within : Within names d.paths) : s.bases d = s'.bases d :=
  (agree.baseChain within (chain_bases agree.ends d)).unique (chain_bases agree.ends' d)

lemma allInterfaces_eq {d : TypeDef} (within : Within names d.paths) :
    s.allInterfaces d = s'.allInterfaces d := by
  rw [allInterfaces, allInterfaces, agree.bases_eq within]

lemma kindMembers_eq {d : TypeDef} (within : Within names d.paths) (declaredOnly : Bool) :
    s.kindMembers d declaredOnly = s'.kindMembers d declaredOnly := by
  simp only [kindMembers, members, allMembers, agree.bases_eq within]

lemma within_of_kindMembers {d : TypeDef} (within : Within names d.paths) {declaredOnly : Bool}
    {m : Member} (listed : m ∈ s.kindMembers d declaredOnly) : Within names m.paths := by
  rw [kindMembers] at listed
  split at listed
  · rw [members] at listed
    split at listed
    · exact within.member listed
    · rcases List.mem_append.mp listed with inherited | declared
      · obtain ⟨base, met, own⟩ := List.mem_flatMap.mp inherited
        have known := (chain_bases agree.ends d).declared (List.mem_reverse.mp met)
        exact (agree.closed base known).member own
      · exact within.member declared
  · exact within.constructionMember listed
  · exact within.member listed
  · exact within.member listed

lemma mappedBase?_eq {d : TypeDef} (within : Within names d.paths) :
    s.mappedBase? d = s'.mappedBase? d := by
  rw [mappedBase?, mappedBase?, agree.baseOf?_eq within]

lemma targetMembers_eq {d : TypeDef} (within : Within names d.paths) :
    s.targetMembers d = s'.targetMembers d := by
  rw [targetMembers, targetMembers, agree.mappedBase?_eq within, agree.kindMembers_eq within]

lemma sourceCandidates_eq {d : TypeDef} (within : Within names d.paths) :
    s.sourceCandidates d = s'.sourceCandidates d := by
  rw [sourceCandidates, sourceCandidates, agree.kindMembers_eq within]

lemma isGenericEnumerable_eq {ty : Ty} (within : Within names ty.paths) :
    s.isGenericEnumerable ty = s'.isGenericEnumerable ty := by
  cases ty with
  | primitive => rfl
  | dyn => rfl
  | path path =>
    rw [isGenericEnumerable, isGenericEnumerable, agree.known,
      ← agree.typeDef?_eq (within.nominal rfl)]
    cases declared : s.typeDef? path with
    | none => rfl
    | some d => simp only [agree.allInterfaces_eq (agree.within_of_typeDef? declared)]

lemma enumerableElement?_eq {ty : Ty} (within : Within names ty.paths) :
    s.enumerableElement? ty = s'.enumerableElement? ty := by
  rw [enumerableElement?, enumerableElement?, agree.isGenericEnumerable_eq within]

omit agree in
lemma within_of_element {ty element : Ty} (within : Within names ty.paths)
    (found : s.enumerableElement? ty = some element) : Within names element.paths := by
  rw [enumerableElement?] at found
  split at found
  · obtain ⟨path, named, first⟩ := Option.bind_eq_some_iff.mp found
    cases ty with
    | path target =>
      cases named
      exact within.head first
    | primitive => cases named
    | dyn => cases named
  · cases found

lemma isCompatible_eq {source : Ty} (within : Within names source.paths) (target : Ty) :
    s.isCompatible source target = s'.isCompatible source target := by
  have implements : ∀ path interface, source = .path path →
      s.implements path interface = s'.implements path interface := by
    rintro path interface rfl
    rw [Schema.implements, Schema.implements, ← agree.typeDef?_eq (within.nominal rfl)]
    cases declared : s.typeDef? path with
    | none => rfl
    | some d => simp only [agree.allInterfaces_eq (agree.within_of_typeDef? declared)]
  cases source with
  | primitive => cases target <;> simp only [isCompatible, agree.known]
  | dyn => cases target <;> simp only [isCompatible, agree.known]
  | path path => cases target <;> simp only [isCompatible, agree.known, implements path _ rfl]

lemma mappedFrom_iff {target : Ty} (within : Within names target.paths) (source : Ty) :
    s.MappedFrom target source ↔ s'.MappedFrom target source := by
  rw [MappedFrom, MappedFrom, agree.typeOf?_eq within]

lemma convertedBy_iff {converter : TypePath} (near : names converter.definitionName)
    (source target : Ty) :
    s.ConvertedBy converter source target ↔ s'.ConvertedBy converter source target := by
  rw [ConvertedBy, ConvertedBy, ← agree.typeDef?_eq near, agree.known]
  refine exists_congr fun d => and_congr_right fun declared => ?_
  rw [agree.allInterfaces_eq (agree.within_of_typeDef? declared)]

lemma elementConversion?_eq {source target : Ty} (within : Within names source.paths)
    (within' : Within names target.paths) :
    s.elementConversion? source target = s'.elementConversion? source target := by
  rw [elementConversion?, elementConversion?, agree.enumerableElement?_eq within,
    agree.enumerableElement?_eq within']
  cases s'.enumerableElement? source with
  | none => rfl
  | some sourceElement =>
    cases found : s'.enumerableElement? target with
    | none => rfl
    | some element =>
      simp only [agree.mappedFrom_iff (within_of_element within' found)]

lemma conversion?_eq {source target : Member} (within : Within names source.paths)
    (within' : Within names target.paths) :
    s.conversion? source target = s'.conversion? source target := by
  rw [conversion?, conversion?, agree.isCompatible_eq within.ty]
  cases marked : target.converter? with
  | none =>
    simp only [agree.mappedFrom_iff within'.ty, agree.elementConversion?_eq within.ty within'.ty]
  | some converter => simp only [agree.convertedBy_iff (within'.converter marked)]

variable {candidates : List Member} (near : ∀ c ∈ candidates, Within names c.paths)
variable {member : Member} (within : Within names member.paths)

include near within

lemma reading?_eq : s.reading? candidates member = s'.reading? candidates member := by
  rw [reading?, reading?]
  cases found : findSource? candidates member with
  | none => rfl
  | some source =>
    simp only [Option.bind_some,
      agree.conversion?_eq (near source (mem_of_findSource? found).1) within]

lemma readingFault?_eq (target : TypeDef) :
    s.readingFault? target candidates member = s'.readingFault? target candidates member := by
  rw [readingFault?, readingFault?]
  cases found : findSource? candidates member with
  | none => rfl
  | some source =>
    simp only [Option.bind_some,
      agree.conversion?_eq (near source (mem_of_findSource? found).1) within]

lemma writing?_eq : s.writing? candidates member = s'.writing? candidates member := by
  rw [writing?, writing?]
  cases found : findTarget? candidates member with
  | none => rfl
  | some target =>
    simp only [Option.bind_some,
      agree.conversion?_eq within (near target (List.mem_of_find?_eq_some found))]

omit near within

lemma within_of_target {d : TypeDef} (within : Within names d.paths) {m : Member}
    (listed : m ∈ s.targetMembers d) : Within names m.paths :=
  agree.within_of_kindMembers within (List.mem_of_mem_filter listed)

lemma within_of_candidate {d : TypeDef} (within : Within names d.paths) {m : Member}
    (listed : m ∈ s.sourceCandidates d) : Within names m.paths :=
  agree.within_of_kindMembers within (List.mem_of_mem_filter listed)

variable {target source : TypeDef} (ofTarget : Within names target.paths)
  (ofSource : Within names source.paths)

include ofTarget ofSource

lemma readings_eq : s.readings target source = s'.readings target source := by
  rw [readings, readings, ← agree.targetMembers_eq ofTarget, ← agree.sourceCandidates_eq ofSource]
  exact List.filterMap_congr fun member listed =>
    agree.reading?_eq (fun _ => agree.within_of_candidate ofSource)
      (agree.within_of_target ofTarget listed)

lemma writings_eq : s.writings target source = s'.writings target source := by
  rw [writings, writings, ← agree.targetMembers_eq ofTarget, ← agree.sourceCandidates_eq ofSource]
  exact List.filterMap_congr fun member listed =>
    agree.writing?_eq (fun _ => agree.within_of_target ofTarget)
      (agree.within_of_candidate ofSource listed)

lemma complaints_eq : s.complaints target source = s'.complaints target source := by
  have faults : (s.targetMembers target).filterMap
        (s.readingFault? target (s.sourceCandidates source)) =
      (s.targetMembers target).filterMap
        (s'.readingFault? target (s.sourceCandidates source)) :=
    List.filterMap_congr fun member listed =>
      agree.readingFault?_eq (fun _ => agree.within_of_candidate ofSource)
        (agree.within_of_target ofTarget listed) target
  have unrelated : s.isUnrelated target source = s'.isUnrelated target source := by
    rw [isUnrelated, isUnrelated, ← agree.targetMembers_eq ofTarget,
      ← agree.sourceCandidates_eq ofSource, ← agree.mappedBase?_eq ofTarget]
  have blocks : s.blocksSource target source = s'.blocksSource target source := by
    rw [blocksSource, blocksSource, agree.known]
  rw [complaints, complaints, ← List.head?_filterMap, ← List.head?_filterMap, faults, unrelated,
    blocks, ← agree.targetMembers_eq ofTarget, ← agree.sourceCandidates_eq ofSource]

lemma plan_eq (options : Options) :
    s.plan target source options = s'.plan target source options := by
  simp only [plan, scopesMet, agree.known, agree.readings_eq ofTarget ofSource,
    agree.writings_eq ofTarget ofSource, ← agree.targetMembers_eq ofTarget,
    ← agree.sourceCandidates_eq ofSource, ← agree.mappedBase?_eq ofTarget]

omit ofTarget ofSource

/-- A target that refers to common names alone is assembled alike. -/
theorem assemble_eq (within : Within names target.paths) (options : Options) :
    assemble s target options = assemble s' target options := by
  rw [assemble, assemble]
  cases mapped : target.mapFrom? with
  | none => rfl
  | some path =>
    rw [Option.bind_some, Option.bind_some, ← agree.typeDef?_eq (within.source mapped)]
    cases declared : s.typeDef? path with
    | none => rfl
    | some source =>
      have near := agree.within_of_typeDef? declared
      simp only [assembleFrom_eq, agree.complaints_eq within near, agree.plan_eq within near]

end AgreeOn

/-- With distinct names, the order of the declarations does not matter to a look-up. -/
lemma find?_of_perm {s s' : Schema} (perm : s.types.Perm s'.types)
    (distinct : (s.types.map (·.fullName)).Nodup) (name : String) :
    s.find? name = s'.find? name := by
  have distinct' : (s'.types.map (·.fullName)).Nodup := (perm.map _).nodup_iff.mp distinct
  cases found : s.find? name with
  | some d =>
    obtain ⟨known, rfl⟩ := mem_of_find? found
    exact (find?_of_mem distinct' (perm.mem_iff.mp known)).symm
  | none =>
    cases found' : s'.find? name with
    | none => rfl
    | some d =>
      obtain ⟨known, rfl⟩ := mem_of_find? found'
      cases found.symm.trans (find?_of_mem distinct (perm.mem_iff.mpr known))

/-- A further declaration is found under its own name alone. -/
lemma find?_append_of_ne {known : WellKnown} {types : List TypeDef} {new : TypeDef}
    {name : String} (other : name ≠ new.fullName) :
    find? ⟨known, types⟩ name = find? ⟨known, types ++ [new]⟩ name := by
  have missed : (new.fullName == name) = false := beq_false_of_ne other.symm
  rw [find?, find?, List.find?_append, List.find?_cons, missed, List.find?_nil, Option.or_none]

/-- A walk that finds no fault finds none with fewer links either, among declarations that agree on
all that is met. -/
lemma checkChain_of_agree {s s' : Schema} {names : String → Prop}
    (found : ∀ name, names name → s.find? name = s'.find? name)
    (closed : ∀ d ∈ s.types, Within names d.paths) {start : String} {limit : Nat}
    {visited : List String} {current : TypeDef} (within : Within names current.paths)
    (faultless : s'.checkChain start (limit + 1) visited current = .ok ()) :
    s.checkChain start limit visited current = .ok () := by
  -- Both walks take the same links, because every base that is met is among the names.
  induction limit generalizing visited current with
  | zero => rfl
  | succ limit ih =>
    rw [checkChain] at faultless ⊢
    cases written : current.base with
    | none => rfl
    | some path =>
      have same : s.typeDef? path = s'.typeDef? path := found _ (within.base written)
      simp only [written, ← same] at faultless
      simp only
      cases declared : s.typeDef? path with
      | none => rw [declared] at faultless; cases faultless
      | some next =>
        simp only [declared] at faultless ⊢
        split at faultless
        · cases faultless
        · rename_i fresh
          rw [if_neg fresh]
          exact ih (closed next (mem_of_find? declared).1) faultless

end Schema

/-- The mapped types among the declarations of a builder, in the order in which they were added. -/
def Builder.mappedTypes (b : Builder) : List TypeDef :=
  (b.types.map TypeDef.stamped).filter (·.isMapped)

lemma agreeOn_of_perm {b b' : Builder} {s s' : Schema} (known : b.known = b'.known)
    (perm : b.types.Perm b'.types) (built : b.build = .ok s) (built' : b'.build = .ok s') :
    s.AgreeOn s' fun _ => True := by
  obtain ⟨_, rfl, ends⟩ := Builder.build_eq_ok_iff.mp built
  obtain ⟨_, rfl, ends'⟩ := Builder.build_eq_ok_iff.mp built'
  have distinct := (Builder.build_ok built).2.1
  exact ⟨known, fun name _ => Schema.find?_of_perm (perm.map _) distinct name,
    fun _ _ _ _ => trivial, ends, ends'⟩

/-- Without a type to which no other refers, the declarations build and agree on all names but its
own. -/
lemma agreeOn_of_add {b : Builder} {new : TypeDef} {s' : Schema}
    (apart : ∀ d ∈ b.types, Within (· ≠ new.fullName) d.paths)
    (built' : (b.add new).build = .ok s') :
    ∃ s, b.build = .ok s ∧ s.AgreeOn s' (· ≠ new.fullName) := by
  obtain ⟨distinct, rfl, ends'⟩ := Builder.build_eq_ok_iff.mp built'
  have types : (b.add new).types.map TypeDef.stamped =
      b.types.map TypeDef.stamped ++ [new.stamped] := by simp [Builder.add]
  have found : ∀ name, name ≠ new.fullName →
      Schema.find? ⟨b.known, b.types.map TypeDef.stamped⟩ name =
        Schema.find? ⟨b.known, (b.add new).types.map TypeDef.stamped⟩ name := by
    intro name other
    rw [types]
    exact Schema.find?_append_of_ne other
  have closed : ∀ d ∈ b.types.map TypeDef.stamped, Within (· ≠ new.fullName) d.paths := by
    intro d present
    obtain ⟨declared, listed, rfl⟩ := List.mem_map.mp present
    rw [TypeDef.stamped_paths]
    exact apart declared listed
  have ends : (Schema.mk b.known (b.types.map TypeDef.stamped)).checkBases = .ok () := by
    -- With one type more, the walks of the larger schema were allowed one link more.
    refine Schema.checkBases_iff.mpr fun d present => ?_
    refine Schema.checkChain_of_agree found closed (closed d present) ?_
    have faultless := Schema.checkBases_iff.mp ends' d
      (by rw [types]; exact List.mem_append_left _ present)
    simpa [Builder.add] using faultless
  have distinct' : (b.types.map (·.fullName)).Nodup := by
    rw [Builder.add, List.map_append] at distinct
    exact (List.nodup_append.mp distinct).1
  exact ⟨_, Builder.build_eq_ok_iff.mpr ⟨distinct', rfl, ends⟩, rfl, found, closed, ends, ends'⟩

/-- The order of the declarations makes no difference to any type: what becomes of each is the
same, and a generation lists it in the order of the declarations. And a further type makes no
difference to the others if none of them refers to it. -/
theorem assembly_ignores_siblings :
    (∀ {b b' : Builder} {s s' : Schema}, b.known = b'.known → b.types.Perm b'.types →
      b.build = .ok s → b'.build = .ok s' →
      (∀ target options, assemble s target options = assemble s' target options) ∧
      b.mappedTypes.Perm b'.mappedTypes ∧
      ∀ options,
        generate s options =
          { models := b.mappedTypes.filterMap (s.ready? options)
            diagnostics := b.mappedTypes.flatMap (s.faultsOf options) } ∧
        generate s' options =
          { models := b'.mappedTypes.filterMap (s.ready? options)
            diagnostics := b'.mappedTypes.flatMap (s.faultsOf options) }) ∧
    (∀ {b : Builder} {new : TypeDef} {s' : Schema},
      (∀ d ∈ b.types, ∀ path ∈ d.paths, path.definitionName ≠ new.fullName) →
      (b.add new).build = .ok s' →
      ∃ s, b.build = .ok s ∧
        ∀ target ∈ s.types, ∀ options, assemble s target options = assemble s' target options) := by
  constructor
  · intro b b' s s' known perm built built'
    have agree := agreeOn_of_perm known perm built built'
    have same : ∀ target options, assemble s target options = assemble s' target options :=
      fun target options => agree.assemble_eq (fun _ _ => trivial) options
    obtain ⟨_, rfl, _⟩ := Builder.build_eq_ok_iff.mp built
    obtain ⟨_, rfl, _⟩ := Builder.build_eq_ok_iff.mp built'
    refine ⟨same, (perm.map _).filter _, fun options => ⟨generate_eq _ options, ?_⟩⟩
    rw [generate_eq]
    congr 1
    · exact List.filterMap_congr fun target _ => by simp only [Schema.ready?, same]
    · exact List.flatMap_congr fun target _ => by simp only [Schema.faultsOf, same]
  · intro b new s' apart built'
    obtain ⟨s, built, agree⟩ := agreeOn_of_add apart built'
    exact ⟨s, built, fun target known options =>
      agree.assemble_eq (agree.closed target known) options⟩

def account : TypeDef :=
  { path := .plain ⟨"app"⟩ "Account"
    kind := .structType
    members := [{ name := "number", ty := .primitive .i32 }] }

/-- No conversion applies to the number of a report. -/
def accountReport : TypeDef :=
  { path := .plain ⟨"app"⟩ "AccountReport"
    kind := .structType
    members := [{ name := "number", ty := .primitive .bool }]
    markers := [.mapFrom account.path] }

def accountView : TypeDef :=
  { path := .plain ⟨"app"⟩ "AccountView"
    kind := .structType
    members := [{ name := "number", ty := .primitive .i32 }]
    markers := [.mapFrom account.path] }

def reported : Builder := { types := [account, accountReport] }

def viewFirst : Builder := { types := [accountView, account, accountReport] }

def viewLast : Builder := reported.add accountView

def Builder.declared (b : Builder) : Schema :=
  ⟨b.known, b.types.map TypeDef.stamped⟩

/-- It makes no difference where the view of an account is declared, and none to the account and the
report whether it is. -/
theorem account_ignores_view :
    viewLast.known = viewFirst.known ∧ viewLast.types.Perm viewFirst.types ∧
    viewLast.build = .ok viewLast.declared ∧ viewFirst.build = .ok viewFirst.declared ∧
    (∀ target options, assemble viewLast.declared target options =
      assemble viewFirst.declared target options) ∧
    (∀ d ∈ reported.types, ∀ path ∈ d.paths, path.definitionName ≠ accountView.fullName) ∧
    ∃ s, reported.build = .ok s ∧ ∀ target ∈ s.types, ∀ options,
      assemble s target options = assemble viewLast.declared target options :=
  have known : viewLast.known = viewFirst.known := rfl
  have perm : viewLast.types.Perm viewFirst.types :=
    @List.perm_append_comm _ reported.types [accountView]
  have last : viewLast.build = .ok viewLast.declared := by rfl
  have first : viewFirst.build = .ok viewFirst.declared := by rfl
  have apart : ∀ d ∈ reported.types, ∀ path ∈ d.paths,
      path.definitionName ≠ accountView.fullName := by decide
  ⟨known, perm, last, first, (assembly_ignores_siblings.1 known perm last first).1, apart,
    assembly_ignores_siblings.2 apart last⟩

end MemberMapping
