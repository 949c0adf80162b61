import MemberMapping.Proofs.Lists
import MemberMapping.Table

/-!
Looking up, setting and changing entries of a table, and what becomes of their order.
-/

namespace MemberMapping

namespace Table

variable {α β : Type} {t : Table α} {key : String} {value : α}

lemma get?_cons (entry : String × α) (rest : Table α) (key : String) :
    get? (entry :: rest) key = if entry.1 = key then some entry.2 else get? rest key := by
  rw [get?, List.find?_cons]
  by_cases same : entry.1 = key
  · simp [same]
  · have missed : (entry.1 == key) = false := beq_false_of_ne same
    rw [missed, if_neg same, get?]

lemma mem_of_get? (found : t.get? key = some value) : (key, value) ∈ t := by
  obtain ⟨entry, first, rfl⟩ := Option.map_eq_some_iff.mp found
  have same : entry.1 = key := by simpa using List.find?_some first
  rw [← same]
  exact List.mem_of_find?_eq_some first

lemma get?_of_mem (distinct : t.keys.Nodup) (present : (key, value) ∈ t) :
    t.get? key = some value := by
  have found : t.find? (·.1 == key) = some (key, value) := find?_of_distinct distinct present
  rw [get?, found, Option.map_some]

lemma exists_get?_of_mem_keys (present : key ∈ t.keys) : ∃ value, t.get? key = some value := by
  obtain ⟨entry, listed, rfl⟩ := List.mem_map.mp present
  cases found : t.get? entry.1 with
  | some value => exact ⟨value, rfl⟩
  | none =>
    have missed := List.find?_eq_none.mp (Option.map_eq_none_iff.mp found) entry listed
    exact absurd (beq_self_eq_true entry.1) missed

lemma mem_set {entry : String × α} (present : entry ∈ t.set key value) :
    entry = (key, value) ∨ entry ∈ t := by
  induction t with
  | nil => exact Or.inl (List.mem_singleton.mp present)
  | cons head rest ih =>
    rw [set] at present
    split at present
    · rcases List.mem_cons.mp present with new | old
      · exact Or.inl new
      · exact Or.inr (List.mem_cons_of_mem head old)
    · rcases List.mem_cons.mp present with first | later
      · exact Or.inr (first ▸ List.mem_cons_self)
      · exact (ih later).imp id (List.mem_cons_of_mem head)

lemma get?_set_self (t : Table α) (key : String) (value : α) :
    (t.set key value).get? key = some value := by
  induction t with
  | nil => rw [set, get?_cons, if_pos rfl]
  | cons head rest ih =>
    rw [set]
    split
    · rw [get?_cons, if_pos rfl]
    · rw [get?_cons, if_neg ‹_›, ih]

lemma get?_set_of_ne {other : String} (different : other ≠ key) :
    (t.set key value).get? other = t.get? other := by
  induction t with
  | nil => rw [set, get?_cons, if_neg different.symm]
  | cons head rest ih =>
    rw [set]
    split
    · rename_i same
      rw [get?_cons, get?_cons, if_neg different.symm, if_neg (same ▸ different.symm)]
    · rw [get?_cons, get?_cons, ih]

lemma get?_foldl_set {entries : List β} {keyOf : β → String} {valueOf : β → α}
    (found : (entries.foldl (fun t entry => t.set (keyOf entry) (valueOf entry)) t).get? key =
      some value) :
    t.get? key = some value ∨ ∃ entry ∈ entries, keyOf entry = key ∧ valueOf entry = value := by
  induction entries generalizing t with
  | nil => exact Or.inl found
  | cons entry rest ih =>
    rcases ih found with before | ⟨later, listed, known⟩
    · by_cases same : key = keyOf entry
      · rw [same, get?_set_self] at before
        exact Or.inr ⟨entry, List.mem_cons_self, same.symm, Option.some.inj before⟩
      · rw [get?_set_of_ne same] at before
        exact Or.inl before
    · exact Or.inr ⟨later, List.mem_cons_of_mem entry listed, known⟩

lemma mem_update {entry : String × α} {change : α → α} (present : entry ∈ t.update key change) :
    entry ∈ t ∨ ∃ before, (key, before) ∈ t ∧ entry = (key, change before) := by
  obtain ⟨old, known, rfl⟩ := List.mem_map.mp present
  by_cases same : old.1 = key
  · rw [if_pos same]
    exact Or.inr ⟨old.2, same ▸ known, same ▸ rfl⟩
  · rw [if_neg same]
    exact Or.inl known

lemma get?_map (t : Table α) (change : String → α → β) (key : String) :
    get? (t.map fun entry => (entry.1, change entry.1 entry.2)) key =
      (t.get? key).map (change key) := by
  induction t with
  | nil => rfl
  | cons entry rest ih =>
    rw [List.map_cons, get?_cons, get?_cons, ih]
    by_cases same : entry.1 = key
    · simp [same]
    · simp [same]

/-- A change is seen under its key alone. -/
lemma get?_update (t : Table α) (key : String) (change : α → α) (other : String) :
    (t.update key change).get? other =
      (t.get? other).map fun value => if other = key then change value else value := by
  have pointwise : t.update key change =
      t.map fun entry => (entry.1, if entry.1 = key then change entry.2 else entry.2) := by
    apply List.map_congr_left
    intro entry _
    by_cases same : entry.1 = key
    · rw [if_pos same, if_pos same]
    · rw [if_neg same, if_neg same]
  rw [pointwise]
  exact get?_map t (fun key' value => if key' = key then change value else value) other

lemma keys_set_sublist (t : Table α) (key : String) (value : α) :
    (t.set key value).keys.Sublist (t.keys ++ [key]) := by
  induction t with
  | nil => exact List.Sublist.refl _
  | cons entry rest ih =>
    rw [set]
    by_cases same : entry.1 = key
    · rw [if_pos same]
      have kept : keys ((key, value) :: rest) = keys (entry :: rest) := by
        simp only [keys, List.map_cons, same]
      rw [kept]
      exact List.sublist_append_left _ _
    · rw [if_neg same]
      exact ih.cons_cons entry.1

lemma keys_set_nodup {key : String} {value : α} (distinct : t.keys.Nodup) :
    (t.set key value).keys.Nodup := by
  induction t with
  | nil => exact List.nodup_singleton key
  | cons entry rest ih =>
    obtain ⟨other, later⟩ := List.nodup_cons.mp distinct
    rw [set]
    by_cases same : entry.1 = key
    · rw [if_pos same]
      exact List.nodup_cons.mpr ⟨same ▸ other, later⟩
    · rw [if_neg same]
      refine List.nodup_cons.mpr ⟨?_, ih later⟩
      intro again
      rcases List.mem_append.mp ((keys_set_sublist rest key value).subset again) with old | new
      · exact other old
      · exact same (List.mem_singleton.mp new)

lemma values_of_distinct (distinct : t.keys.Nodup) : t.values = t.keys.filterMap (t.get? ·) := by
  have each : ∀ entry ∈ t, t.get? entry.1 = some entry.2 :=
    fun entry listed => get?_of_mem distinct listed
  rw [keys, List.filterMap_map]
  calc t.values = t.filterMap (some ∘ Prod.snd) := (congrFun List.filterMap_eq_map t).symm
    _ = t.filterMap ((t.get? ·) ∘ Prod.fst) :=
      List.filterMap_congr fun entry listed => (each entry listed).symm

/-- A change leaves the keys alone. -/
lemma keys_update (t : Table α) (key : String) (change : α → α) :
    (t.update key change).keys = t.keys := by
  rw [update, keys, List.map_map]
  apply List.map_congr_left
  intro entry _
  by_cases same : entry.1 = key
  · simp [same]
  · simp [same]

lemma filter_set_sublist (keep : α → Bool) (t : Table α) (key : String) {value : α}
    (out : keep value = false) :
    ((t.set key value).filter (keep ·.2)).Sublist (t.filter (keep ·.2)) := by
  induction t with
  | nil => simp [set, out]
  | cons entry rest ih =>
    rw [set]
    by_cases same : entry.1 = key
    · rw [if_pos same, List.filter_cons_of_neg (by simp [out])]
      exact (List.sublist_cons_self entry rest).filter _
    · rw [if_neg same, List.filter_cons, List.filter_cons]
      by_cases kept : keep entry.2 = true
      · rw [if_pos kept, if_pos kept]
        exact ih.cons_cons entry
      · rw [if_neg kept, if_neg kept]
        exact ih

lemma map_set (f : α → β) (t : Table α) (key : String) (value : α) :
    (t.set key value).map (fun entry => (entry.1, f entry.2)) =
      set key (f value) (t.map fun entry => (entry.1, f entry.2)) := by
  induction t with
  | nil => rfl
  | cons entry rest ih =>
    rw [set, List.map_cons, set]
    by_cases same : entry.1 = key
    · rw [if_pos same, if_pos same, List.map_cons]
    · rw [if_neg same, if_neg same, List.map_cons, ih]

lemma map_foldl_set {γ : Type} (f : α → β) (keyOf : γ → String) (valueOf : γ → α)
    (entries : List γ) (t : Table α) :
    (entries.foldl (fun t entry => set (keyOf entry) (valueOf entry) t) t).map
        (fun entry => (entry.1, f entry.2)) =
      entries.foldl (fun t entry => set (keyOf entry) (f (valueOf entry)) t)
        (t.map fun entry => (entry.1, f entry.2)) := by
  induction entries generalizing t with
  | nil => rfl
  | cons entry rest ih => rw [List.foldl_cons, List.foldl_cons, ih, map_set]

/-- What a change leaves alone does not change in the table. -/
lemma map_update {f : α → β} {change : α → α} (alone : ∀ a, f (change a) = f a) (t : Table α)
    (key : String) :
    (t.update key change).map (fun entry => (entry.1, f entry.2)) =
      t.map fun entry => (entry.1, f entry.2) := by
  rw [update, List.map_map]
  apply List.map_congr_left
  intro entry _
  by_cases same : entry.1 = key
  · simp [same, alone]
  · simp [same]

lemma map_update_comm {f : α → β} {change : α → α} {change' : β → β}
    (comm : ∀ a, f (change a) = change' (f a)) (t : Table α) (key : String) :
    (t.update key change).map (fun entry => (entry.1, f entry.2)) =
      update (t.map fun entry => (entry.1, f entry.2)) key change' := by
  rw [update, update, List.map_map, List.map_map]
  apply List.map_congr_left
  intro entry _
  by_cases same : entry.1 = key
  · simp [same, comm]
  · simp [same]

lemma set_of_new (new : key ∉ t.keys) : t.set key value = t ++ [(key, value)] := by
  induction t with
  | nil => rfl
  | cons entry rest ih =>
    obtain ⟨other, later⟩ := List.ne_and_not_mem_of_not_mem_cons new
    rw [set, if_neg (Ne.symm other), ih later, List.cons_append]

lemma keys_set_of_mem (present : key ∈ t.keys) : (t.set key value).keys = t.keys := by
  induction t with
  | nil => cases present
  | cons entry rest ih =>
    rw [set]
    by_cases same : entry.1 = key
    · rw [if_pos same, keys, keys, List.map_cons, List.map_cons, same]
    · rw [if_neg same]
      have later := (List.mem_cons.mp present).resolve_left (Ne.symm same)
      exact congrArg (entry.1 :: ·) (ih later)

section Fold

variable (keyOf : β → String) (valueOf : β → α)

/-- Entries that are set one by one stand in the order of their keys, each key at its first
place. -/
lemma keys_foldl_set (entries : List β) (distinct : t.keys.eraseDups = t.keys) :
    (entries.foldl (fun t entry => t.set (keyOf entry) (valueOf entry)) t).keys =
      (t.keys ++ entries.map keyOf).eraseDups := by
  induction entries generalizing t with
  | nil => rw [List.foldl_nil, List.map_nil, List.append_nil, distinct]
  | cons entry rest ih =>
    rw [List.foldl_cons, List.map_cons]
    by_cases present : keyOf entry ∈ t.keys
    · rw [ih (by rw [keys_set_of_mem present, distinct]), keys_set_of_mem present,
        eraseDups_append_cons_of_mem present]
    · have added : (t.set (keyOf entry) (valueOf entry)).keys = t.keys ++ [keyOf entry] := by
        rw [set_of_new present, keys, List.map_append]
        rfl
      have distinct' := eraseDups_append_singleton distinct present
      rw [ih (by rw [added, distinct']), added, List.append_assoc, List.singleton_append]

lemma get?_foldl_set_last (entries : List β) (key : String) :
    (entries.foldl (fun t entry => t.set (keyOf entry) (valueOf entry)) t).get? key =
      (((entries.filter (keyOf · == key)).getLast?).map valueOf).or (t.get? key) := by
  induction entries generalizing t with
  | nil => rfl
  | cons entry rest ih =>
    rw [List.foldl_cons, ih, List.filter_cons]
    by_cases same : keyOf entry = key
    · subst same
      rw [get?_set_self, if_pos (by simp), List.getLast?_cons]
      cases (rest.filter (keyOf · == keyOf entry)).getLast? <;> rfl
    · rw [get?_set_of_ne (Ne.symm same), if_neg (by simpa using same)]

lemma foldl_set_of_distinct {entries : List β} (apart : (entries.map keyOf).Nodup)
    (new : ∀ entry ∈ entries, keyOf entry ∉ t.keys) :
    entries.foldl (fun t entry => t.set (keyOf entry) (valueOf entry)) t =
      t ++ entries.map fun entry => (keyOf entry, valueOf entry) := by
  induction entries generalizing t with
  | nil => rw [List.foldl_nil, List.map_nil, List.append_nil]
  | cons entry rest ih =>
    obtain ⟨other, apart⟩ := List.nodup_cons.mp apart
    have fresh := new entry List.mem_cons_self
    rw [List.foldl_cons, set_of_new fresh, ih apart, List.append_assoc]
    · rfl
    · intro later listed again
      rw [keys, List.map_append, List.mem_append] at again
      rcases again with old | same
      · exact new later (List.mem_cons_of_mem entry listed) old
      · have known : keyOf later = keyOf entry := List.mem_singleton.mp same
        exact other (known ▸ List.mem_map_of_mem listed)

end Fold

end Table

end MemberMapping
