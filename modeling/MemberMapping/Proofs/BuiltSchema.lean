import MemberMapping.Proofs.Table
import MemberMapping.Schema.Builder

/-!
What a built schema holds: the declarations in their order, each with its members stamped, and no
full name twice.
-/

namespace MemberMapping

@[simp] lemma TypeDef.stamped_fullName (d : TypeDef) : d.stamped.fullName = d.fullName := rfl

lemma TypeDef.mem_stamped {d : TypeDef} {member : Member} (present : member ∈ d.stamped.members) :
    member.declaredIn = d.fullName ∧ ∃ declared ∈ d.members, declared.name = member.name := by
  obtain ⟨declared, known, rfl⟩ := List.mem_map.mp present
  exact ⟨rfl, declared, known, rfl⟩

lemma stampAll_ok {seen : List String} {types stamped : List TypeDef}
    (ok : stampAll seen types = .ok stamped) :
    stamped = types.map TypeDef.stamped ∧ (types.map (·.fullName)).Nodup ∧
      ∀ d ∈ types, d.fullName ∉ seen := by
  induction types generalizing seen stamped with
  | nil =>
    cases ok
    exact ⟨rfl, List.nodup_nil, by simp⟩
  | cons d rest ih =>
    rw [stampAll] at ok
    split at ok
    · cases ok
    · rename_i new
      cases others : stampAll (d.fullName :: seen) rest with
      | error fault => rw [others] at ok; cases ok
      | ok tail =>
        rw [others] at ok
        cases ok
        obtain ⟨rfl, distinct, unseen⟩ := ih others
        refine ⟨rfl, List.nodup_cons.mpr ⟨?_, distinct⟩, ?_⟩
        · intro again
          obtain ⟨other, present, same⟩ := List.mem_map.mp again
          exact unseen other present (same ▸ List.mem_cons_self)
        · intro other present
          rcases List.mem_cons.mp present with rfl | later
          · simpa using new
          · exact fun old => unseen other later (List.mem_cons_of_mem d.fullName old)

lemma stampAll_of_distinct {seen : List String} {types : List TypeDef}
    (distinct : (types.map (·.fullName)).Nodup) (fresh : ∀ d ∈ types, d.fullName ∉ seen) :
    stampAll seen types = .ok (types.map TypeDef.stamped) := by
  induction types generalizing seen with
  | nil => rfl
  | cons d rest ih =>
    obtain ⟨other, distinct⟩ := List.nodup_cons.mp distinct
    have unseen : ∀ later ∈ rest, later.fullName ∉ d.fullName :: seen := by
      intro later present again
      rcases List.mem_cons.mp again with same | old
      · exact other (List.mem_map.mpr ⟨later, present, same⟩)
      · exact fresh later (List.mem_cons_of_mem d present) old
    have new : ¬ seen.contains d.fullName := by simpa using fresh d List.mem_cons_self
    rw [stampAll, if_neg new, ih distinct unseen]
    rfl

/-- A builder builds if the full names are distinct and the schema of the stamped declarations
passes the check of its bases. -/
theorem Builder.build_eq_ok_iff {b : Builder} {s : Schema} :
    b.build = .ok s ↔ (b.types.map (·.fullName)).Nodup ∧
      s = ⟨b.known, b.types.map TypeDef.stamped⟩ ∧ s.checkBases = .ok () := by
  rw [build]
  constructor
  · intro built
    cases stamps : stampAll [] b.types with
    | error fault => rw [stamps] at built; cases built
    | ok types =>
      obtain ⟨rfl, distinct, _⟩ := stampAll_ok stamps
      cases checked : (Schema.mk b.known (b.types.map TypeDef.stamped)).checkBases with
      | error fault =>
        simp only [stamps, bind, Except.bind, checked] at built
        cases built
      | ok _ =>
        simp only [stamps, bind, Except.bind, checked, pure, Except.pure, Except.ok.injEq] at built
        cases built
        exact ⟨distinct, rfl, checked⟩
  · rintro ⟨distinct, rfl, checked⟩
    rw [stampAll_of_distinct distinct (by simp)]
    simp only [bind, Except.bind, checked, pure, Except.pure]

theorem Builder.build_ok {b : Builder} {s : Schema} (built : b.build = .ok s) :
    s.types = b.types.map TypeDef.stamped ∧ (s.types.map (·.fullName)).Nodup ∧
      s.checkBases = .ok () := by
  obtain ⟨distinct, rfl, checked⟩ := build_eq_ok_iff.mp built
  refine ⟨rfl, ?_, checked⟩
  rw [List.map_map]
  exact distinct

namespace Schema

variable {s : Schema}

lemma checkBases_iff : s.checkBases = .ok () ↔ ∀ d ∈ s.types,
    s.checkChain d.fullName (s.types.length + 1) [d.fullName] d = .ok () := by
  have all : ∀ (check : TypeDef → Except SchemaFault Unit) (types : List TypeDef),
      types.forM check = .ok () ↔ ∀ d ∈ types, check d = .ok () := by
    intro check types
    induction types with
    | nil => simp [pure, Except.pure]
    | cons d rest ih =>
      rw [List.forM, List.forall_mem_cons, ← ih]
      cases check d <;> simp [bind, Except.bind]
  exact all _ s.types

lemma find?_of_mem (distinct : (s.types.map (·.fullName)).Nodup) {d : TypeDef}
    (present : d ∈ s.types) : s.find? d.fullName = some d :=
  find?_of_distinct distinct present

lemma mem_of_find? {name : String} {d : TypeDef} (found : s.find? name = some d) :
    d ∈ s.types ∧ d.fullName = name :=
  ⟨List.mem_of_find?_eq_some found, by simpa using List.find?_some found⟩

lemma mem_of_baseOf? {d base : TypeDef} (inherited : s.baseOf? d = some base) :
    ∃ path, d.base = some path ∧ base ∈ s.types ∧ base.fullName = path.definitionName := by
  obtain ⟨path, written, found⟩ := Option.bind_eq_some_iff.mp inherited
  exact ⟨path, written, mem_of_find? found⟩

lemma mem_types_of_bases {base : TypeDef} (met : base ∈ s.bases d) : base ∈ s.types := by
  have within : ∀ limit d, base ∈ s.basesWithin limit d → base ∈ s.types := by
    intro limit
    induction limit with
    | zero => intro d met; cases met
    | succ limit ih =>
      intro d met
      rw [basesWithin] at met
      cases direct : s.baseOf? d with
      | none => rw [direct] at met; cases met
      | some next =>
        rw [direct] at met
        rcases List.mem_cons.mp met with rfl | later
        · obtain ⟨_, _, known, _⟩ := mem_of_baseOf? direct
          exact known
        · exact ih next later
  exact within _ d met

end Schema

end MemberMapping
