import MemberMapping.Proofs.TypeGraph

/-!
Which type is blamed for a cycle of base links.

The walk from a type stops at the first type that it meets again, and the type at which it began is
blamed. So the type that is blamed leads into a cycle, but need not be part of it: of all types that
lead into a cycle it is the first one declared.
-/

namespace MemberMapping

/-- A type that inherits from itself: its base links lead back to it. -/
def OnCycle (types : List TypeDef) (name : String) : Prop :=
  Relation.TransGen (LinksTo types) name name

/-- Base links lead from a type to one that inherits from itself, perhaps the type itself. -/
def LeadsIntoCycle (types : List TypeDef) (name : String) : Prop :=
  ∃ met, Relation.ReflTransGen (LinksTo types) name met ∧ OnCycle types met

/-- Every base that is referred to is declared. -/
def BasesDeclared (types : List TypeDef) : Prop :=
  ∀ d ∈ types, ∀ path, d.base = some path → path.definitionName ∈ types.map (·.fullName)

/-- `d` leads into a cycle, and no type that is declared before it does. -/
structure FirstIntoCycle (types before : List TypeDef) (d : TypeDef) (after : List TypeDef) :
    Prop where
  declared : types = before ++ d :: after
  leads : LeadsIntoCycle types d.fullName
  first : ∀ earlier ∈ before, ¬ LeadsIntoCycle types earlier.fullName

lemma leadsIntoCycle_stamped (types : List TypeDef) :
    LeadsIntoCycle (types.map TypeDef.stamped) = LeadsIntoCycle types := by
  funext name
  simp only [LeadsIntoCycle, OnCycle, linksTo_stamped]

section Perm

variable {types others : List TypeDef} (same : types.Perm others)

include same

lemma linksTo_of_perm : LinksTo types = LinksTo others := by
  funext heir base
  simp only [LinksTo, same.mem_iff]

lemma onCycle_of_perm : OnCycle types = OnCycle others := by
  funext name
  rw [OnCycle, OnCycle, linksTo_of_perm same]

lemma leadsIntoCycle_of_perm : LeadsIntoCycle types = LeadsIntoCycle others := by
  funext name
  rw [LeadsIntoCycle, LeadsIntoCycle, onCycle_of_perm same, linksTo_of_perm same]

end Perm

namespace Schema

variable {s : Schema}

lemma Inherits.declared {heir ancestor : TypeDef} (above : s.Inherits heir ancestor) :
    ancestor ∈ s.types := by
  obtain ⟨last, _, direct⟩ := Relation.TransGen.tail'_iff.mp above
  obtain ⟨_, _, known, _⟩ := mem_of_baseOf? direct
  exact known

section Declared

variable (distinct : (s.types.map (·.fullName)).Nodup) (bases : BasesDeclared s.types)

include distinct bases

lemma exists_base_of_linksTo {d : TypeDef} (known : d ∈ s.types) {name : String}
    (linked : LinksTo s.types d.fullName name) :
    ∃ base, s.baseOf? d = some base ∧ base.fullName = name := by
  obtain ⟨path, written, rfl⟩ := base_of_linksTo distinct known linked
  obtain ⟨base, listed, named⟩ := List.mem_map.mp (bases d known path written)
  refine ⟨base, ?_, named⟩
  rw [baseOf?, written, Option.bind_some, typeDef?, ← named]
  exact find?_of_mem distinct listed

lemma exists_inherits_of_links {d : TypeDef} (known : d ∈ s.types) {name : String}
    (links : Relation.TransGen (LinksTo s.types) d.fullName name) :
    ∃ ancestor, s.Inherits d ancestor ∧ ancestor.fullName = name := by
  induction links with
  | single linked =>
    obtain ⟨base, direct, named⟩ := exists_base_of_linksTo distinct bases known linked
    exact ⟨base, .single direct, named⟩
  | tail _ linked ih =>
    obtain ⟨ancestor, above, rfl⟩ := ih
    obtain ⟨base, direct, named⟩ :=
      exists_base_of_linksTo distinct bases above.declared linked
    exact ⟨base, above.tail direct, named⟩

lemma BaseChain.not_leadsIntoCycle {d : TypeDef} {chain : List TypeDef} (known : d ∈ s.types)
    (ends : s.BaseChain d chain) : ¬ LeadsIntoCycle s.types d.fullName := by
  -- The chain of a declared type that ends does not come back to it.
  have apart : ∀ e ∈ s.types, ∀ rest, s.BaseChain e rest → ¬ OnCycle s.types e.fullName := by
    intro e listed rest further cycle
    obtain ⟨again, above, same⟩ := exists_inherits_of_links distinct bases listed cycle
    obtain rfl : again = e := List.inj_on_of_nodup_map distinct above.declared listed same
    exact further.not_mem_self (further.mem_iff.mpr above)
  rintro ⟨met, reached, cycle⟩
  rcases Relation.reflTransGen_iff_eq_or_transGen.mp reached with rfl | links
  · exact apart d known chain ends cycle
  · obtain ⟨ancestor, above, rfl⟩ := exists_inherits_of_links distinct bases known links
    obtain ⟨rest, further, _⟩ := ends.shorter (ends.mem_iff.mpr above)
    exact apart ancestor above.declared rest further cycle

end Declared

/-- A walk from a type whose bases are all declared finds no fault, or blames the type at which it
began. -/
lemma checkChain_cases (distinct : (s.types.map (·.fullName)).Nodup)
    (bases : BasesDeclared s.types) {start : String} {limit : Nat} {visited : List String}
    {current : TypeDef} (known : current ∈ s.types) :
    s.checkChain start limit visited current = .ok () ∨
      s.checkChain start limit visited current = .error (.inheritsFromItself start) := by
  induction limit generalizing visited current with
  | zero => exact Or.inl rfl
  | succ limit ih =>
    rw [checkChain]
    cases written : current.base with
    | none => exact Or.inl rfl
    | some path =>
      obtain ⟨next, listed, named⟩ := List.mem_map.mp (bases current known path written)
      have found : s.typeDef? path = some next := by
        rw [typeDef?, ← named]
        exact find?_of_mem distinct listed
      simp only [found]
      by_cases met : visited.contains next.fullName
      · rw [if_pos met]
        exact Or.inr rfl
      · rw [if_neg met]
        exact ih listed

/-- A walk that blames its start has met a cycle. The types visited are those that lead to where it
stands, so a link to one of them closes the cycle. -/
lemma leadsIntoCycle_of_checkChain {start : String} {limit : Nat} {visited : List String}
    {current : TypeDef} (known : current ∈ s.types)
    (behind : ∀ name ∈ visited, Relation.ReflTransGen (LinksTo s.types) name current.fullName)
    (began : start ∈ visited) {name : String}
    (blamed : s.checkChain start limit visited current = .error (.inheritsFromItself name)) :
    LeadsIntoCycle s.types start := by
  induction limit generalizing visited current with
  | zero => cases blamed
  | succ limit ih =>
    rw [checkChain] at blamed
    cases written : current.base with
    | none => rw [written] at blamed; cases blamed
    | some path =>
      simp only [written] at blamed
      cases found : s.typeDef? path with
      | none => rw [found] at blamed; cases blamed
      | some next =>
        obtain ⟨listed, named⟩ := mem_of_find? found
        have linked : LinksTo s.types current.fullName next.fullName :=
          ⟨current, known, rfl, path, written, named.symm⟩
        simp only [found] at blamed
        split at blamed
        · rename_i met
          have visitedBefore : next.fullName ∈ visited := by simpa using met
          exact ⟨next.fullName, (behind start began).tail linked,
            .tail' (behind _ visitedBefore) linked⟩
        · refine ih listed ?_ (List.mem_cons_of_mem _ began) blamed
          intro earlier among
          rcases List.mem_cons.mp among with rfl | before
          · exact .refl
          · exact (behind earlier before).tail linked

lemma checkChain_of_declared (distinct : (s.types.map (·.fullName)).Nodup)
    (bases : BasesDeclared s.types) {d : TypeDef} (known : d ∈ s.types) :
    (LeadsIntoCycle s.types d.fullName →
      s.checkChain d.fullName (s.types.length + 1) [d.fullName] d =
        .error (.inheritsFromItself d.fullName)) ∧
    (¬ LeadsIntoCycle s.types d.fullName →
      s.checkChain d.fullName (s.types.length + 1) [d.fullName] d = .ok ()) := by
  have outcomes : s.checkChain d.fullName (s.types.length + 1) [d.fullName] d = .ok () ∨ _ :=
    checkChain_cases distinct bases known
  rcases outcomes with faultless | blamed
  · obtain ⟨chain, ends, _⟩ := chain_of_checkChain (List.nodup_singleton d.fullName)
      (by simpa using ⟨d, known, rfl⟩) (Nat.lt_succ_of_le (Nat.le_succ _)) faultless
    exact ⟨fun leads => absurd leads (ends.not_leadsIntoCycle distinct bases known),
      fun _ => faultless⟩
  · have leads : LeadsIntoCycle s.types d.fullName := by
      refine leadsIntoCycle_of_checkChain known ?_ (List.mem_singleton.mpr rfl) blamed
      intro name among
      rw [List.mem_singleton.mp among]
    exact ⟨fun _ => blamed, fun free => absurd leads free⟩

/-- A check of all elements fails with the fault of the first one that has a fault. -/
lemma forM_eq_error_iff {check : TypeDef → Except SchemaFault Unit} {types : List TypeDef}
    {fault : SchemaFault} :
    types.forM check = .error fault ↔ ∃ before d after, types = before ++ d :: after ∧
      check d = .error fault ∧ ∀ earlier ∈ before, check earlier = .ok () := by
  induction types with
  | nil => simp [pure, Except.pure]
  | cons head rest ih =>
    rw [List.forM]
    cases outcome : check head with
    | error own =>
      simp only [bind, Except.bind, Except.error.injEq]
      constructor
      · rintro rfl
        exact ⟨[], head, rest, rfl, outcome, by simp⟩
      · rintro ⟨before, d, after, split, failed, passed⟩
        rcases List.cons_eq_append_iff.mp split with ⟨rfl, same⟩ | ⟨others, rfl, _⟩
        · cases same
          exact Except.error.inj (outcome.symm.trans failed)
        · cases outcome.symm.trans (passed head List.mem_cons_self)
    | ok _ =>
      simp only [bind, Except.bind, ih]
      constructor
      · rintro ⟨before, d, after, rfl, failed, passed⟩
        exact ⟨head :: before, d, after, rfl, failed, List.forall_mem_cons.mpr ⟨outcome, passed⟩⟩
      · rintro ⟨before, d, after, split, failed, passed⟩
        rcases List.cons_eq_append_iff.mp split with ⟨rfl, same⟩ | ⟨others, rfl, rest⟩
        · cases same
          cases outcome.symm.trans failed
        · exact ⟨others, d, after, rest, failed, (List.forall_mem_cons.mp passed).2⟩

/-- A schema whose bases are all declared is refused for the first type that leads into a cycle. -/
theorem checkBases_eq_error_iff (distinct : (s.types.map (·.fullName)).Nodup)
    (bases : BasesDeclared s.types) {fault : SchemaFault} :
    s.checkBases = .error fault ↔ ∃ before d after,
      FirstIntoCycle s.types before d after ∧ fault = .inheritsFromItself d.fullName := by
  rw [checkBases, forM_eq_error_iff]
  refine exists_congr fun before => exists_congr fun d => exists_congr fun after => ?_
  constructor
  · rintro ⟨split, failed, passed⟩
    have known : d ∈ s.types := split ▸ List.mem_append_right before List.mem_cons_self
    obtain ⟨blames, passes⟩ := checkChain_of_declared distinct bases known
    have leads : LeadsIntoCycle s.types d.fullName := by
      by_contra free
      cases failed.symm.trans (passes free)
    refine ⟨⟨split, leads, ?_⟩, Except.error.inj (failed.symm.trans (blames leads))⟩
    intro earlier among leads'
    have listed : earlier ∈ s.types := split ▸ List.mem_append_left _ among
    obtain ⟨blames', _⟩ := checkChain_of_declared distinct bases listed
    cases (passed earlier among).symm.trans (blames' leads')
  · rintro ⟨⟨split, leads, first⟩, rfl⟩
    have known : d ∈ s.types := split ▸ List.mem_append_right before List.mem_cons_self
    refine ⟨split, (checkChain_of_declared distinct bases known).1 leads, ?_⟩
    intro earlier among
    have listed : earlier ∈ s.types := split ▸ List.mem_append_left _ among
    exact (checkChain_of_declared distinct bases listed).2 (first earlier among)

end Schema

/-- Of declarations of which some lead into a cycle there is a first one. -/
lemma exists_firstIntoCycle {types : List TypeDef} {d : TypeDef} (known : d ∈ types)
    (leads : LeadsIntoCycle types d.fullName) :
    ∃ before first after, FirstIntoCycle types before first after := by
  classical
  cases found : types.find? fun e => decide (LeadsIntoCycle types e.fullName) with
  | none =>
    have free := List.find?_eq_none.mp found d known
    exact absurd (decide_eq_true leads) free
  | some first =>
    obtain ⟨leads, before, after, split, passed⟩ := List.find?_eq_some_iff_append.mp found
    exact ⟨before, first, after, split, of_decide_eq_true leads, by simpa using passed⟩

/-- Where declarations are stamped, the first that leads into a cycle stays in its place. -/
lemma exists_firstIntoCycle_stamped {types : List TypeDef} {name : String} :
    (∃ before d after, FirstIntoCycle (types.map TypeDef.stamped) before d after ∧
      name = d.fullName) ↔
      ∃ before d after, FirstIntoCycle types before d after ∧ name = d.fullName := by
  constructor
  · rintro ⟨_, _, _, ⟨split, leads, first⟩, rfl⟩
    obtain ⟨before, others, rfl, rfl, rest⟩ := List.map_eq_append_iff.mp split
    obtain ⟨d, after, rfl, rfl, rfl⟩ := List.map_eq_cons_iff.mp rest
    rw [leadsIntoCycle_stamped] at leads
    refine ⟨before, d, after, ⟨rfl, leads, fun earlier among => ?_⟩, rfl⟩
    rw [← leadsIntoCycle_stamped]
    exact first earlier.stamped (List.mem_map_of_mem among)
  · rintro ⟨before, d, after, ⟨rfl, leads, first⟩, rfl⟩
    refine ⟨before.map TypeDef.stamped, d.stamped, after.map TypeDef.stamped, ⟨by simp, ?_, ?_⟩,
      rfl⟩
    · rw [leadsIntoCycle_stamped]
      exact leads
    · intro _ among
      obtain ⟨earlier, listed, rfl⟩ := List.mem_map.mp among
      rw [leadsIntoCycle_stamped]
      exact first earlier listed

/-- Declarations with distinct names and declared bases are refused only for a cycle. -/
lemma Builder.build_eq_error_iff {b : Builder} (distinct : (b.types.map (·.fullName)).Nodup)
    (bases : BasesDeclared b.types) {fault : SchemaFault} :
    b.build = .error fault ↔ ∃ before d after,
      FirstIntoCycle b.types before d after ∧ fault = .inheritsFromItself d.fullName := by
  have names : (b.types.map TypeDef.stamped).map (·.fullName) = b.types.map (·.fullName) := by
    rw [List.map_map]
    rfl
  have built : b.build =
      (Schema.mk b.known (b.types.map TypeDef.stamped)).checkBases.map fun _ =>
        ⟨b.known, b.types.map TypeDef.stamped⟩ := by
    rw [build, stampAll_of_distinct distinct (by simp)]
    rfl
  have refused : b.build = .error fault ↔
      (Schema.mk b.known (b.types.map TypeDef.stamped)).checkBases = .error fault := by
    rw [built]
    cases (Schema.mk b.known (b.types.map TypeDef.stamped)).checkBases <;> simp [Except.map]
  have bases' : BasesDeclared (b.types.map TypeDef.stamped) := by
    rw [BasesDeclared, names]
    exact List.forall_mem_map.mpr bases
  rw [refused, Schema.checkBases_eq_error_iff (by rw [names]; exact distinct) bases']
  cases fault with
  | inheritsFromItself name =>
    simp only [SchemaFault.inheritsFromItself.injEq]
    exact exists_firstIntoCycle_stamped
  | declaredTwice _ | baseNotDeclared _ _ =>
    constructor <;> rintro ⟨_, _, _, _, other⟩ <;> cases other

/-- Declarations with distinct names and declared bases are refused if and only if one of them
leads into a cycle, and then the first one that does is blamed. So in every order of the
declarations a type on a cycle is blamed, if and only if no type leads into a cycle without being
part of it. -/
theorem blamed_type_iff {b : Builder} (distinct : (b.types.map (·.fullName)).Nodup)
    (bases : BasesDeclared b.types) :
    (∀ name, b.build = .error (.inheritsFromItself name) ↔
      ∃ before d after, FirstIntoCycle b.types before d after ∧ name = d.fullName) ∧
    ((∃ s, b.build = .ok s) ↔ ∀ d ∈ b.types, ¬ LeadsIntoCycle b.types d.fullName) ∧
    ((∀ types name, b.types.Perm types →
        Builder.build { b with types := types } = .error (.inheritsFromItself name) →
        OnCycle types name) ↔
      ∀ d ∈ b.types, LeadsIntoCycle b.types d.fullName → OnCycle b.types d.fullName) := by
  -- Distinct names and declared bases survive a reordering, so the fault is known in every order.
  have blamed : ∀ types, b.types.Perm types → ∀ name,
      Builder.build { b with types := types } = .error (.inheritsFromItself name) ↔
        ∃ before d after, FirstIntoCycle types before d after ∧ name = d.fullName := by
    intro types same name
    have distinct' : (types.map (·.fullName)).Nodup := (same.map _).nodup_iff.mp distinct
    have bases' : BasesDeclared types := fun d known path written =>
      (same.map _).mem_iff.mp (bases d (same.mem_iff.mpr known) path written)
    rw [Builder.build_eq_error_iff (b := { b with types := types }) distinct' bases']
    simp only [SchemaFault.inheritsFromItself.injEq]
  refine ⟨blamed b.types (.refl _), ?_, ?_, ?_⟩
  · constructor
    · rintro ⟨s, built⟩ d known leads
      obtain ⟨before, first, after, position⟩ := exists_firstIntoCycle known leads
      cases built.symm.trans ((blamed b.types (.refl _) _).mpr ⟨_, _, _, position, rfl⟩)
    · intro free
      cases outcome : b.build with
      | ok s => exact ⟨s, rfl⟩
      | error fault =>
        obtain ⟨before, d, after, position, _⟩ :=
          (Builder.build_eq_error_iff distinct bases).mp outcome
        have known : d ∈ b.types :=
          position.declared ▸ List.mem_append_right before List.mem_cons_self
        exact absurd position.leads (free d known)
  · -- A type that leads into a cycle is blamed where it is declared first.
    intro right d known leads
    obtain ⟨before, after, split⟩ := List.append_of_mem known
    have same : b.types.Perm (d :: (before ++ after)) := split ▸ List.perm_middle
    rw [leadsIntoCycle_of_perm same] at leads
    have position : FirstIntoCycle (d :: (before ++ after)) [] d (before ++ after) :=
      ⟨rfl, leads, by simp⟩
    rw [onCycle_of_perm same]
    exact right _ d.fullName same ((blamed _ same _).mpr ⟨_, _, _, position, rfl⟩)
  · intro within types name same refused
    obtain ⟨before, d, after, ⟨split, leads, _⟩, rfl⟩ := (blamed types same name).mp refused
    have known : d ∈ b.types :=
      same.mem_iff.mpr (split ▸ List.mem_append_right before List.mem_cons_self)
    rw [onCycle_of_perm same, leadsIntoCycle_of_perm same] at within
    exact within d known leads

/-- A type that begins with a clause. -/
def motion : TypeDef :=
  { path := .plain ⟨"app"⟩ "Motion"
    kind := .classType
    base := some (.plain ⟨"app"⟩ "Clause") }

/-- A clause and an annex, each of which is the base of the other. -/
def clause : TypeDef :=
  { path := .plain ⟨"app"⟩ "Clause"
    kind := .classType
    base := some (.plain ⟨"app"⟩ "Annex") }

def annex : TypeDef :=
  { path := .plain ⟨"app"⟩ "Annex"
    kind := .classType
    base := some clause.path }

/-- The motion is declared before the cycle into which it leads. -/
def motionFirst : Builder :=
  { types := [motion, clause, annex] }

lemma motionFirst_distinct : (motionFirst.types.map (·.fullName)).Nodup := by decide +kernel

lemma motionFirst_bases : BasesDeclared motionFirst.types := by
  intro d known path written
  have all : ∀ d ∈ motionFirst.types, ∀ path ∈ d.base,
      path.definitionName ∈ motionFirst.types.map (·.fullName) := by decide +kernel
  exact all d known path written

/-- The motion is blamed, the first of the types that lead into the cycle. -/
theorem motion_first_into_cycle :
    (motionFirst.types.map (·.fullName)).Nodup ∧ BasesDeclared motionFirst.types ∧
    motionFirst.build = .error (.inheritsFromItself "app::Motion") ∧
    (∃ before d after, FirstIntoCycle motionFirst.types before d after ∧
      "app::Motion" = d.fullName) ∧
    ¬ ∃ s, motionFirst.build = .ok s := by
  obtain ⟨blamed, _, _⟩ := blamed_type_iff motionFirst_distinct motionFirst_bases
  have refused : motionFirst.build = .error (.inheritsFromItself "app::Motion") := by rfl
  refine ⟨motionFirst_distinct, motionFirst_bases, refused, (blamed _).mp refused, ?_⟩
  rintro ⟨s, built⟩
  cases refused.symm.trans built

/-- The motion is blamed for inheriting from itself, though no base link leads to it. -/
theorem motion_blamed_off_cycle :
    (motionFirst.types.map (·.fullName)).Nodup ∧ BasesDeclared motionFirst.types ∧
    motionFirst.build = .error (.inheritsFromItself "app::Motion") ∧
    ¬ OnCycle motionFirst.types "app::Motion" := by
  refine ⟨motionFirst_distinct, motionFirst_bases, by rfl, ?_⟩
  intro cycle
  obtain ⟨_, _, d, known, _, path, written, named⟩ := Relation.TransGen.tail'_iff.mp cycle
  have others : ∀ d ∈ motionFirst.types, ∀ path ∈ d.base,
      path.definitionName ≠ "app::Motion" := by decide +kernel
  exact others d known path written named

end MemberMapping
