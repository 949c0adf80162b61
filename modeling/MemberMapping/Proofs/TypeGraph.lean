import Mathlib.Logic.Relation
import MemberMapping.Proofs.BaseChain

/-!
Which declarations form a schema.

Base links lead from the name of a type to the name of its base. Declarations are accepted exactly
if their names are distinct, the links lead to declared types alone, and no chain of links meets a
type twice. In what is accepted every walk along base links comes to its end.
-/

namespace MemberMapping

/-- A type of the first name is declared, and refers to its base by the second. -/
def LinksTo (types : List TypeDef) (heir base : String) : Prop :=
  ∃ d ∈ types, d.fullName = heir ∧ ∃ path, d.base = some path ∧ path.definitionName = base

/-- Declarations that can be used together. -/
structure WellFormed (types : List TypeDef) : Prop where
  distinct : (types.map (·.fullName)).Nodup
  /-- What is reached from a declared type along base links is declared. -/
  declared : ∀ d ∈ types, ∀ name, Relation.ReflTransGen (LinksTo types) d.fullName name →
    name ∈ types.map (·.fullName)
  /-- A chain of base links from a declared type meets no type twice. -/
  acyclic : ∀ d ∈ types, ∀ names, List.IsChain (LinksTo types) (d.fullName :: names) →
    (d.fullName :: names).Nodup

lemma linksTo_stamped (types : List TypeDef) :
    LinksTo (types.map TypeDef.stamped) = LinksTo types := by
  funext heir base
  simp only [LinksTo, List.mem_map, exists_exists_and_eq_and, TypeDef.stamped_fullName]
  rfl

lemma wellFormed_stamped_iff (types : List TypeDef) :
    WellFormed (types.map TypeDef.stamped) ↔ WellFormed types := by
  have names : (types.map TypeDef.stamped).map (·.fullName) = types.map (·.fullName) := by
    rw [List.map_map]
    rfl
  constructor
  · rintro ⟨distinct, declared, acyclic⟩
    rw [names] at distinct
    simp only [linksTo_stamped, names, List.forall_mem_map, TypeDef.stamped_fullName]
      at declared acyclic
    exact ⟨distinct, declared, acyclic⟩
  · rintro ⟨distinct, declared, acyclic⟩
    rw [← names] at distinct
    refine ⟨distinct, ?_, ?_⟩
    · simpa only [linksTo_stamped, names, List.forall_mem_map, TypeDef.stamped_fullName]
        using declared
    · simpa only [linksTo_stamped, List.forall_mem_map, TypeDef.stamped_fullName] using acyclic

namespace Schema

variable {s : Schema}

/-- Where names are distinct, the links of a declared type are its own. -/
lemma base_of_linksTo (distinct : (s.types.map (·.fullName)).Nodup) {d : TypeDef} {name : String}
    (known : d ∈ s.types) (linked : LinksTo s.types d.fullName name) :
    ∃ path, d.base = some path ∧ path.definitionName = name := by
  obtain ⟨other, listed, same, path, written, named⟩ := linked
  obtain rfl : other = d := List.inj_on_of_nodup_map distinct listed known same
  exact ⟨path, written, named⟩

lemma BaseChain.shorter {d base : TypeDef} {bases : List TypeDef} (chain : s.BaseChain d bases)
    (met : base ∈ bases) : ∃ rest, s.BaseChain base rest ∧ rest.length < bases.length := by
  induction chain with
  | ended => cases met
  | @link _ next rest _ further ih =>
    rcases List.mem_cons.mp met with rfl | later
    · exact ⟨rest, further, Nat.lt_succ_self rest.length⟩
    · obtain ⟨rest', chain', shorter⟩ := ih later
      exact ⟨rest', chain', Nat.lt_succ_of_lt shorter⟩

lemma BaseChain.not_mem_self {d : TypeDef} {bases : List TypeDef} (chain : s.BaseChain d bases) :
    d ∉ bases := by
  intro again
  obtain ⟨rest, other, shorter⟩ := chain.shorter again
  rw [chain.unique other] at shorter
  exact Nat.lt_irrefl _ shorter

lemma BaseChain.nodup {d : TypeDef} {bases : List TypeDef} (chain : s.BaseChain d bases) :
    (d :: bases).Nodup := by
  induction chain with
  | ended root => exact List.nodup_singleton _
  | link direct further ih =>
    exact List.nodup_cons.mpr ⟨(BaseChain.link direct further).not_mem_self, ih⟩

lemma BaseChain.nodup_names (distinct : (s.types.map (·.fullName)).Nodup) {d : TypeDef}
    {bases : List TypeDef} (known : d ∈ s.types) (chain : s.BaseChain d bases) :
    ((d :: bases).map (·.fullName)).Nodup := by
  refine List.Nodup.map_on ?_ chain.nodup
  have listed : ∀ met ∈ d :: bases, met ∈ s.types := by
    intro met among
    rcases List.mem_cons.mp among with rfl | later
    · exact known
    · exact chain.declared later
  intro one first other second same
  exact List.inj_on_of_nodup_map distinct (listed one first) (listed other second) same

lemma BaseChain.names_prefix (distinct : (s.types.map (·.fullName)).Nodup)
    (closed : ∀ d ∈ s.types, ∀ path, d.base = some path → ∃ base, s.typeDef? path = some base)
    {d : TypeDef} {bases : List TypeDef} (known : d ∈ s.types) (chain : s.BaseChain d bases)
    {names : List String} (links : List.IsChain (LinksTo s.types) (d.fullName :: names)) :
    names <+: bases.map (·.fullName) := by
  induction names generalizing d bases with
  | nil => exact List.nil_prefix
  | cons name rest ih =>
    obtain ⟨linked, further⟩ := List.isChain_cons_cons.mp links
    obtain ⟨path, written, rfl⟩ := base_of_linksTo distinct known linked
    obtain ⟨next, found⟩ := closed d known path written
    have direct : s.baseOf? d = some next := by rw [baseOf?, written, Option.bind_some, found]
    obtain ⟨listed, named⟩ := mem_of_find? found
    cases chain with
    | ended root => cases root.symm.trans direct
    | link direct' chain' =>
      cases Option.some.inj (direct.symm.trans direct')
      rw [List.map_cons, named]
      rw [← named] at further
      exact List.cons_prefix_cons.mpr ⟨rfl, ih listed chain' further⟩

lemma declared_of_checkBases (checked : s.checkBases = .ok ()) {d : TypeDef} (known : d ∈ s.types)
    {path : TypePath} (written : d.base = some path) : ∃ base, s.typeDef? path = some base := by
  have walked := checkBases_iff.mp checked d known
  rw [checkChain] at walked
  simp only [written] at walked
  cases found : s.typeDef? path with
  | none => rw [found] at walked; cases walked
  | some base => exact ⟨base, rfl⟩

/-- A walk finds no fault where the links that lie ahead meet none of the names visited. -/
lemma checkChain_of_wellFormed (graph : WellFormed s.types) {start : String} {limit : Nat}
    {visited : List String} {current : TypeDef} (known : current ∈ s.types)
    (fresh : ∀ names, List.IsChain (LinksTo s.types) (current.fullName :: names) →
      ∀ name ∈ names, name ∉ visited) :
    s.checkChain start limit visited current = .ok () := by
  -- The invariant is that no link ahead meets a visited name. It survives a step because the graph
  -- is acyclic: the name added is not met again.
  induction limit generalizing visited current with
  | zero => rfl
  | succ limit ih =>
    rw [checkChain]
    cases written : current.base with
    | none => rfl
    | some path =>
      have linked : LinksTo s.types current.fullName path.definitionName :=
        ⟨current, known, rfl, path, written, rfl⟩
      obtain ⟨next, listed, named⟩ :=
        List.mem_map.mp (graph.declared current known _ (.single linked))
      have found : s.typeDef? path = some next := by
        rw [typeDef?, ← named]
        exact find?_of_mem graph.distinct listed
      rw [← named] at linked
      have unseen : next.fullName ∉ visited :=
        fresh [next.fullName] (.cons_cons linked (.singleton _)) _ List.mem_cons_self
      simp only [found]
      rw [if_neg (by simpa using unseen)]
      refine ih listed fun names links name among => ?_
      have ahead := fresh (next.fullName :: names) (.cons_cons linked links) name
        (List.mem_cons_of_mem _ among)
      have other : name ≠ next.fullName := by
        rintro rfl
        exact (List.nodup_cons.mp (graph.acyclic next listed names links)).1 among
      exact List.not_mem_cons_of_ne_of_not_mem other ahead

/-- A schema with distinct names passes the check of its bases exactly if it is well-formed. -/
theorem checkBases_iff_wellFormed (distinct : (s.types.map (·.fullName)).Nodup) :
    s.checkBases = .ok () ↔ WellFormed s.types := by
  constructor
  · intro checked
    have closed : ∀ d ∈ s.types, ∀ path, d.base = some path →
        ∃ base, s.typeDef? path = some base :=
      fun _ known _ written => declared_of_checkBases checked known written
    refine ⟨distinct, ?_, ?_⟩
    · intro d known name reached
      induction reached with
      | refl => exact List.mem_map_of_mem known
      | tail _ linked _ =>
        obtain ⟨heir, listed, _, path, written, rfl⟩ := linked
        obtain ⟨base, found⟩ := closed heir listed path written
        obtain ⟨declared, named⟩ := mem_of_find? found
        exact List.mem_map.mpr ⟨base, declared, named⟩
    · intro d known names links
      have chain := chain_bases checked d
      have along := chain.names_prefix distinct closed known links
      have apart := chain.nodup_names distinct known
      rw [List.map_cons] at apart
      exact apart.sublist (along.sublist.cons_cons d.fullName)
  · intro graph
    refine checkBases_iff.mpr fun d known => checkChain_of_wellFormed graph known ?_
    intro names links name among
    have apart := (List.nodup_cons.mp (graph.acyclic d known names links)).1
    exact fun same => apart (List.mem_singleton.mp same ▸ among)

end Schema

/-- A builder builds exactly if its declarations are well-formed. The schema holds them in their
order, each with its name noted in its members and parameters and otherwise as it was. The walk
along the bases of a declared type ends; it meets no type twice, nor the type itself; and the
members of the type are those of the chain, from its far end to the type. -/
theorem Builder.builds_iff_wellFormed (b : Builder) :
    ((∃ s, b.build = .ok s) ↔ WellFormed b.types) ∧
    ∀ s, b.build = .ok s →
      s.known = b.known ∧
      s.types = b.types.map (fun d =>
        { d with
          members := d.members.map fun m => { m with declaredIn := d.fullName }
          constructors := d.constructors.map fun c =>
            { c with params := c.params.map fun m => { m with declaredIn := d.fullName } } }) ∧
      ∀ d ∈ s.types, ∃ chain, s.BaseChain d chain ∧ s.bases d = chain ∧
        ((d :: chain).map (·.fullName)).Nodup ∧
        s.members d false = (d :: chain).reverse.flatMap (·.members) := by
  refine ⟨⟨?_, ?_⟩, ?_⟩
  · rintro ⟨s, built⟩
    obtain ⟨stamped, distinct, checked⟩ := build_ok built
    have graph := (Schema.checkBases_iff_wellFormed distinct).mp checked
    rw [stamped] at graph
    exact (wellFormed_stamped_iff b.types).mp graph
  · intro graph
    have stamped := (wellFormed_stamped_iff b.types).mpr graph
    have checked : (Schema.mk b.known (b.types.map TypeDef.stamped)).checkBases = .ok () :=
      (Schema.checkBases_iff_wellFormed stamped.distinct).mpr stamped
    exact ⟨_, build_eq_ok_iff.mpr ⟨graph.distinct, rfl, checked⟩⟩
  · intro s built
    obtain ⟨stamped, distinct, checked⟩ := build_ok built
    obtain ⟨_, rfl, _⟩ := build_eq_ok_iff.mp built
    refine ⟨rfl, rfl, fun d known => ?_⟩
    have chain := Schema.chain_bases checked d
    refine ⟨_, chain, rfl, chain.nodup_names distinct known, ?_⟩
    rw [List.reverse_cons, List.flatMap_append, List.flatMap_singleton]
    rfl

def entity : TypeDef :=
  { path := .plain ⟨"app"⟩ "Entity"
    kind := .classType
    members := [{ name := "id", ty := .primitive .i64 }] }

def party : TypeDef :=
  { path := .plain ⟨"app"⟩ "Party"
    kind := .classType
    base := some entity.path
    members := [{ name := "name", ty := .primitive .string }]
    constructors := [{ params := [{ name := "name", ty := .primitive .string }] }] }

/-- A party that buys, declared before the types it inherits from. -/
def customer : TypeDef :=
  { path := .plain ⟨"app"⟩ "Customer"
    kind := .classType
    base := some party.path
    members := [{ name := "credit", ty := .primitive .i32 }] }

def ledger : Builder :=
  { types := [customer, party, entity] }

/-- The chain of a customer ends after two bases, and the number of the entity comes first among
its members. -/
theorem customer_chain_ends :
    ∃ s, ledger.build = .ok s ∧ WellFormed ledger.types ∧ customer.stamped ∈ s.types ∧
      ∃ chain, s.BaseChain customer.stamped chain ∧ s.bases customer.stamped = chain ∧
        ((customer.stamped :: chain).map (·.fullName)).Nodup ∧
        s.members customer.stamped false =
          (customer.stamped :: chain).reverse.flatMap (·.members) := by
  have built : ledger.build = .ok ⟨{}, [customer.stamped, party.stamped, entity.stamped]⟩ := by rfl
  have known : customer.stamped ∈ [customer.stamped, party.stamped, entity.stamped] := .head _
  obtain ⟨graph, holds⟩ := Builder.builds_iff_wellFormed ledger
  exact ⟨_, built, graph.mp ⟨_, built⟩, known, (holds _ built).2.2 customer.stamped known⟩

/-- A chain that enters a cycle without being part of it is found out as well. -/
example : Builder.build
    { types := [{ entity with base := some customer.path }, customer,
        { party with base := some customer.path }] } =
      .error (.inheritsFromItself "app::Entity") := by rfl

end MemberMapping
