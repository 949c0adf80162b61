import Mathlib.Data.List.Perm.Subperm
import Mathlib.Logic.Relation
import MemberMapping.Proofs.BuiltSchema

/-!
Base chains of a built schema.

Every chain was walked when the schema was built, and no type was met twice on the way. So a chain
has fewer links than there are types; the bound under which bases are listed is never reached, and
the list of bases is the whole chain.
-/

namespace MemberMapping.Schema

/-- The types met on the way along base links to a type without a declared base, nearest base
first. -/
inductive BaseChain (s : Schema) : TypeDef → List TypeDef → Prop
  | ended {d : TypeDef} (root : s.baseOf? d = none) : BaseChain s d []
  | link {d base : TypeDef} {rest : List TypeDef} (direct : s.baseOf? d = some base)
      (further : BaseChain s base rest) : BaseChain s d (base :: rest)

/-- `ancestor` is met on the way along base links from `heir`. -/
def Inherits (s : Schema) (heir ancestor : TypeDef) : Prop :=
  Relation.TransGen (fun d base => s.baseOf? d = some base) heir ancestor

variable {s : Schema}

lemma BaseChain.unique {d : TypeDef} {one two : List TypeDef} (first : s.BaseChain d one)
    (second : s.BaseChain d two) : one = two := by
  induction first generalizing two with
  | ended root =>
    cases second with
    | ended => rfl
    | link direct => cases root.symm.trans direct
  | link direct _ ih =>
    cases second with
    | ended root => cases direct.symm.trans root
    | link direct' further' =>
      cases Option.some.inj (direct.symm.trans direct')
      rw [ih further']

lemma BaseChain.mem_iff {d : TypeDef} {bases : List TypeDef} (chain : s.BaseChain d bases)
    {ancestor : TypeDef} : ancestor ∈ bases ↔ s.Inherits d ancestor := by
  induction chain with
  | ended root =>
    refine iff_of_false List.not_mem_nil fun above => ?_
    obtain ⟨base, direct, _⟩ := Relation.TransGen.head'_iff.mp above
    cases root.symm.trans direct
  | link direct _ ih =>
    rw [List.mem_cons, ih]
    constructor
    · rintro (rfl | further)
      · exact .single direct
      · exact further.head direct
    · intro above
      obtain ⟨next, step, reached⟩ := Relation.TransGen.head'_iff.mp above
      cases Option.some.inj (direct.symm.trans step)
      exact Relation.reflTransGen_iff_eq_or_transGen.mp reached

lemma BaseChain.declared {d base : TypeDef} {bases : List TypeDef} (chain : s.BaseChain d bases)
    (met : base ∈ bases) : base ∈ s.types := by
  induction chain with
  | ended => cases met
  | link direct _ ih =>
    rcases List.mem_cons.mp met with rfl | later
    · obtain ⟨_, _, known, _⟩ := mem_of_baseOf? direct
      exact known
    · exact ih later

lemma BaseChain.basesWithin_eq {d : TypeDef} {bases : List TypeDef} (chain : s.BaseChain d bases)
    {limit : Nat} (short : bases.length ≤ limit) : s.basesWithin limit d = bases := by
  induction chain generalizing limit with
  | ended root =>
    cases limit with
    | zero => rfl
    | succ limit => simp only [basesWithin, root]
  | @link _ base rest direct _ ih =>
    cases limit with
    | zero => cases short
    | succ limit => simp only [basesWithin, direct, ih (Nat.le_of_succ_le_succ short)]

/-- Names of declared types without repetition are no more than the types. -/
lemma length_le_of_declared {visited : List String} (distinct : visited.Nodup)
    (declared : visited ⊆ s.types.map (·.fullName)) : visited.length ≤ s.types.length := by
  simpa using (List.subperm_of_subset distinct declared).length_le

/-- A walk that is allowed more links than there are types and finds no fault has met the end of
the chain. The names visited stay distinct, so they bound what is left of the chain. -/
lemma chain_of_checkChain {start : String} {limit : Nat} {visited : List String}
    {current : TypeDef} (distinct : visited.Nodup)
    (declared : visited ⊆ s.types.map (·.fullName))
    (enough : s.types.length < limit + visited.length)
    (faultless : s.checkChain start limit visited current = .ok ()) :
    ∃ bases, s.BaseChain current bases ∧ visited.length + bases.length ≤ s.types.length := by
  induction limit generalizing visited current with
  | zero =>
    -- More distinct names would have been visited than there are types.
    have bound := length_le_of_declared distinct declared
    omega
  | succ limit ih =>
    rw [checkChain] at faultless
    cases written : current.base with
    | none =>
      have root : s.baseOf? current = none := by rw [baseOf?, written, Option.bind_none]
      exact ⟨[], .ended root, length_le_of_declared distinct declared⟩
    | some path =>
      simp only [written] at faultless
      cases found : s.typeDef? path with
      | none => rw [found] at faultless; cases faultless
      | some next =>
        simp only [found] at faultless
        split at faultless
        · cases faultless
        · rename_i unseen
          have direct : s.baseOf? current = some next := by
            rw [baseOf?, written, Option.bind_some, found]
          have known : next.fullName ∈ s.types.map (·.fullName) :=
            List.mem_map_of_mem (mem_of_find? found).1
          have fresh : next.fullName ∉ visited := by simpa using unseen
          obtain ⟨bases, chain, bound⟩ := ih (List.nodup_cons.mpr ⟨fresh, distinct⟩)
            (List.cons_subset.mpr ⟨known, declared⟩)
            (by rw [List.length_cons]; omega) faultless
          refine ⟨next :: bases, .link direct chain, ?_⟩
          simp only [List.length_cons] at bound ⊢
          omega

theorem chain_bases (checked : s.checkBases = .ok ()) (d : TypeDef) :
    s.BaseChain d (s.bases d) := by
  have short : ∃ bases, s.BaseChain d bases ∧ bases.length ≤ s.types.length := by
    cases direct : s.baseOf? d with
    | none => exact ⟨[], .ended direct, Nat.zero_le _⟩
    | some base =>
      -- The type itself need not be one of the schema, but its base is, and was walked from.
      obtain ⟨_, _, known, _⟩ := mem_of_baseOf? direct
      have faultless := checkBases_iff.mp checked base known
      obtain ⟨bases, chain, bound⟩ := chain_of_checkChain (List.nodup_singleton base.fullName)
        (by simpa using ⟨base, known, rfl⟩) (Nat.lt_succ_of_le (Nat.le_succ _)) faultless
      refine ⟨base :: bases, .link direct chain, ?_⟩
      simpa [Nat.add_comm] using bound
  obtain ⟨bases, chain, bound⟩ := short
  rw [Schema.bases, chain.basesWithin_eq bound]
  exact chain

end MemberMapping.Schema
