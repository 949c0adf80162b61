import Mathlib.Data.List.Forall2
import Mathlib.Data.List.Induction
import Mathlib.Data.List.Nodup
import Mathlib.Data.List.Perm.Subperm

/-!
Lists: first elements of a kind, elements beside their results, repetitions, and folds that choose.
-/

namespace MemberMapping

lemma find?_of_distinct {α : Type} {key : α → String} {l : List α} (distinct : (l.map key).Nodup)
    {a : α} (present : a ∈ l) : l.find? (key · == key a) = some a := by
  cases found : l.find? (key · == key a) with
  | none => simpa using List.find?_eq_none.mp found a present
  | some other =>
    have same : key other = key a := by simpa using List.find?_some found
    have known := List.mem_of_find?_eq_some found
    rw [List.inj_on_of_nodup_map distinct known present same]

/-- What a look-up by key finds, where keys are distinct, is all that has the key. -/
lemma filter_eq_of_find? {α : Type} {key : α → String} {l : List α}
    (distinct : (l.map key).Nodup) {k : String} {a : α} (found : l.find? (key · == k) = some a) :
    l.filter (key · == k) = [a] := by
  have named : key a = k := by simpa using List.find?_some found
  have present : a ∈ l.filter (key · == k) :=
    List.mem_filter.mpr ⟨List.mem_of_find?_eq_some found, by simpa using named⟩
  have others : ∀ b ∈ l.filter (key · == k), b = a := by
    intro b listed
    obtain ⟨known, same⟩ := List.mem_filter.mp listed
    have again := find?_of_distinct distinct known
    rw [beq_iff_eq.mp same, found] at again
    exact (Option.some.inj again).symm
  have once : (l.filter (key · == k)).Nodup := distinct.of_map.filter _
  exact List.perm_singleton.mp <| (List.perm_ext_iff_of_nodup once (List.nodup_singleton a)).mpr
    fun b => ⟨fun listed => List.mem_singleton.mpr (others b listed),
      fun same => List.mem_singleton.mp same ▸ present⟩

lemma foldl_mem_of_choice {α : Type} {choose : α → α → α}
    (chooses : ∀ a b, choose a b = a ∨ choose a b = b) (first : α) (rest : List α) :
    rest.foldl choose first ∈ first :: rest := by
  induction rest generalizing first with
  | nil => exact List.mem_cons_self
  | cons second rest ih =>
    rw [List.foldl_cons]
    rcases List.mem_cons.mp (ih (choose first second)) with found | later
    · rw [found]
      rcases chooses first second with same | same
      · rw [same]
        exact List.mem_cons_self
      · rw [same]
        exact List.mem_cons_of_mem first List.mem_cons_self
    · exact List.mem_cons_of_mem first (List.mem_cons_of_mem second later)

lemma exists_last {α : Type} {P : α → Prop} {l : List α} (some : ∃ a ∈ l, P a) :
    ∃ before a after, l = before ++ a :: after ∧ P a ∧ ∀ later ∈ after, ¬ P later := by
  induction l with
  | nil =>
    obtain ⟨a, present, _⟩ := some
    cases present
  | cons head rest ih =>
    by_cases further : ∃ a ∈ rest, P a
    · obtain ⟨before, a, after, rfl, holds, last⟩ := ih further
      exact ⟨head :: before, a, after, rfl, holds, last⟩
    · obtain ⟨a, present, holds⟩ := some
      rcases List.mem_cons.mp present with rfl | later
      · exact ⟨[], a, rest, rfl, holds, fun b among other => further ⟨b, among, other⟩⟩
      · exact absurd ⟨a, later, holds⟩ further

section FilterMap

variable {α β : Type} {f : α → Option β}

/-- Where every element has a result, the results stand beside the elements. -/
lemma forall₂_filterMap {R : α → β → Prop} {l : List α}
    (each : ∀ a ∈ l, ∃ b, f a = some b ∧ R a b) : List.Forall₂ R l (l.filterMap f) := by
  induction l with
  | nil => exact .nil
  | cons a rest ih =>
    obtain ⟨b, found, related⟩ := each a List.mem_cons_self
    rw [List.filterMap_cons_some found]
    exact .cons related (ih fun x later => each x (List.mem_cons_of_mem a later))

/-- Where it is known which elements have a result, the results stand beside these elements. -/
lemma forall₂_filter_filterMap {p : α → Bool} {l : List α}
    (agree : ∀ a ∈ l, p a = (f a).isSome) :
    List.Forall₂ (fun a b => f a = some b) (l.filter p) (l.filterMap f) := by
  have whole : (l.filter p).filterMap f = l.filterMap f := by
    rw [List.filterMap_filter]
    apply List.filterMap_congr
    intro a present
    rw [agree a present]
    cases f a <;> rfl
  rw [← whole]
  apply forall₂_filterMap
  intro a chosen
  obtain ⟨present, has⟩ := List.mem_filter.mp chosen
  obtain ⟨b, found⟩ := Option.isSome_iff_exists.mp ((agree a present).symm.trans has)
  exact ⟨b, found, found⟩

/-- The result beside the first element of a kind is the result of that element. -/
lemma find?_zip_of_forall₂ {as : List α} {bs : List β}
    (beside : List.Forall₂ (fun a b => f a = some b) as bs) (p : α → Bool) :
    ((as.zip bs).find? (p ·.1)).map (·.2) = (as.find? p).bind f := by
  induction beside with
  | nil => rfl
  | @cons a b as bs result _ ih =>
    rw [List.zip_cons_cons, List.find?_cons, List.find?_cons]
    cases p a with
    | true => simp [result]
    | false => exact ih

lemma map_some_of_forall₂ {as : List α} {bs : List β}
    (beside : List.Forall₂ (fun a b => f a = some b) as bs) : bs.map some = as.map f := by
  induction beside with
  | nil => rfl
  | cons result _ ih => rw [List.map_cons, List.map_cons, result, ih]

/-- Where each pair gives what its second element gives, so do the pairs in a row. -/
lemma zipWith_of_forall₂ {γ : Type} {pair : α → β → γ} {alone : β → γ} {as : List α} {bs : List β}
    (beside : List.Forall₂ (fun a b => pair a b = alone b) as bs) :
    List.zipWith pair as bs = bs.map alone := by
  induction beside with
  | nil => rfl
  | cons same _ ih => rw [List.zipWith_cons_cons, List.map_cons, same, ih]

/-- A function that has results only where another has the same ones has a part of them. -/
lemma filterMap_sublist_of_imp {g : α → Option β} {l : List α}
    (imp : ∀ a ∈ l, ∀ b, f a = some b → g a = some b) :
    (l.filterMap f).Sublist (l.filterMap g) := by
  induction l with
  | nil => exact List.Sublist.refl _
  | cons a rest ih =>
    have later := ih fun a present => imp a (List.mem_cons_of_mem _ present)
    cases result : f a with
    | some b =>
      rw [List.filterMap_cons_some result,
        List.filterMap_cons_some (imp a List.mem_cons_self b result)]
      exact later.cons_cons b
    | none =>
      rw [List.filterMap_cons_none result]
      cases other : g a with
      | none => rw [List.filterMap_cons_none other]; exact later
      | some b => rw [List.filterMap_cons_some other]; exact later.cons b

lemma exists_beside {R : α → β → Prop} {as : List α} {bs : List β} (beside : List.Forall₂ R as bs)
    {a : α} (present : a ∈ as) : ∃ b ∈ bs, R a b := by
  induction beside with
  | nil => cases present
  | @cons first b rest _ related _ ih =>
    rcases List.mem_cons.mp present with rfl | later
    · exact ⟨b, List.mem_cons_self, related⟩
    · obtain ⟨other, listed, known⟩ := ih later
      exact ⟨other, List.mem_cons_of_mem b listed, known⟩

end FilterMap

section Beside

variable {α β γ : Type} {f f' : α → Option β} {g : β → γ} {as as' : List α}

lemma cases_of_map_eq {h : α → γ} {one other : Option α} (agree : one.map h = other.map h) :
    (one = none ∧ other = none) ∨ ∃ a a', one = some a ∧ other = some a' ∧ h a = h a' := by
  cases one with
  | none =>
    rw [Option.map_none, eq_comm, Option.map_eq_none_iff] at agree
    exact Or.inl ⟨rfl, agree⟩
  | some a =>
    rw [Option.map_some, eq_comm, Option.map_eq_some_iff] at agree
    obtain ⟨a', there, same⟩ := agree
    exact Or.inr ⟨a, a', rfl, there, same.symm⟩

lemma forall₂_eq_iff {h h' : α → γ} :
    List.Forall₂ (fun a a' => h a = h' a') as as' ↔ as.map h = as'.map h' := by
  rw [← List.forall₂_eq_eq_eq, List.forall₂_map_left_iff, List.forall₂_map_right_iff]

lemma forall₂_mem {R : α → α → Prop} (beside : List.Forall₂ R as as') :
    List.Forall₂ (fun a a' => (a ∈ as ∧ a' ∈ as') ∧ R a a') as as' := by
  induction beside with
  | nil => exact .nil
  | @cons a a' _ _ related _ ih =>
    refine .cons ⟨⟨List.mem_cons_self, List.mem_cons_self⟩, related⟩ (ih.imp ?_)
    rintro b b' ⟨⟨listed, listed'⟩, known⟩
    exact ⟨⟨List.mem_cons_of_mem a listed, List.mem_cons_of_mem a' listed'⟩, known⟩

/-- What comes to the same for elements that are related does so for lists of them. -/
lemma forall₂_congr_of_beside {R P Q : α → α → Prop} (beside : List.Forall₂ R as as')
    (congr : ∀ a a', R a a' → (P a a' ↔ Q a a')) :
    List.Forall₂ P as as' ↔ List.Forall₂ Q as as' :=
  ⟨beside.mp fun a a' related => (congr a a' related).mp,
    beside.mp fun a a' related => (congr a a' related).mpr⟩

lemma map_filterMap_of_forall₂
    (agree : List.Forall₂ (fun a a' => (f a).map g = (f' a').map g) as as') :
    (as.filterMap f).map g = (as'.filterMap f').map g := by
  have whole : ∀ (h : α → Option γ) (l : List α), l.filterMap h = (l.map h).filterMap id := by
    intro h l
    rw [List.filterMap_map, Function.id_comp]
  rw [List.map_filterMap, List.map_filterMap, whole, whole, forall₂_eq_iff.mp agree]

/-- Where it agrees which elements have results, and the lists of results agree, each result agrees
with the one beside it. -/
lemma forall₂_of_map_filterMap
    (has : List.Forall₂ (fun a a' => (f a).isSome = (f' a').isSome) as as')
    (agree : (as.filterMap f).map g = (as'.filterMap f').map g) :
    List.Forall₂ (fun a a' => (f a).map g = (f' a').map g) as as' := by
  induction has with
  | nil => exact .nil
  | @cons a a' rest rest' same _ ih =>
    cases result : f a with
    | none =>
      rw [result, Option.isSome_none, eq_comm, Option.isSome_eq_false_iff,
        Option.isNone_iff_eq_none] at same
      rw [List.filterMap_cons_none result, List.filterMap_cons_none same] at agree
      exact .cons (by rw [result, same]) (ih agree)
    | some b =>
      rw [result, Option.isSome_some, eq_comm, Option.isSome_iff_exists] at same
      obtain ⟨b', result'⟩ := same
      rw [List.filterMap_cons_some result, List.filterMap_cons_some result', List.map_cons,
        List.map_cons, List.cons.injEq] at agree
      exact .cons (by rw [result, result', Option.map_some, Option.map_some, agree.1])
        (ih agree.2)

/-- The first results of elements whose results agree do so. -/
lemma map_findSome?_of_forall₂
    (agree : List.Forall₂ (fun a a' => (f a).map g = (f' a').map g) as as') :
    (as.findSome? f).map g = (as'.findSome? f').map g := by
  have whole : ∀ (h : α → Option γ) (l : List α), l.findSome? h = (l.map h).findSome? id := by
    intro h l
    rw [List.findSome?_map, Function.id_comp]
  rw [List.map_findSome?, List.map_findSome?, whole, whole]
  exact congrArg (List.findSome? id) (forall₂_eq_iff.mp agree)

lemma rel_find?_of_forall₂ {R : α → α → Prop} {p p' : α → Bool} (beside : List.Forall₂ R as as')
    (agree : ∀ a a', R a a' → p a = p' a') : Option.Rel R (as.find? p) (as'.find? p') := by
  induction beside with
  | nil => exact .none
  | @cons a a' rest rest' related _ ih =>
    rw [List.find?_cons, List.find?_cons, ← agree a a' related]
    cases p a with
    | true => exact .some related
    | false => exact ih

end Beside

section EraseDups

variable {α : Type} [BEq α] [LawfulBEq α] {as rest : List α} {a : α}

/-- An element that is there already counts at its first place alone. -/
lemma eraseDups_append_cons_of_mem (present : a ∈ as) :
    (as ++ a :: rest).eraseDups = (as ++ rest).eraseDups := by
  rw [List.eraseDups_append, List.eraseDups_append]
  congr 2
  simp [List.removeAll, present]

lemma eraseDups_append_singleton (distinct : as.eraseDups = as) (new : a ∉ as) :
    (as ++ [a]).eraseDups = as ++ [a] := by
  simp [List.eraseDups_append, distinct, List.removeAll, new, List.eraseDups_cons]

lemma nodup_eraseDups (as : List α) : as.eraseDups.Nodup := by
  induction as using List.reverseRecOn with
  | nil => exact List.nodup_nil
  | append_singleton as a ih =>
    by_cases present : a ∈ as
    · rw [eraseDups_append_cons_of_mem present, List.append_nil]
      exact ih
    · have last : (as ++ [a]).eraseDups = as.eraseDups ++ [a] := by
        simp [List.eraseDups_append, List.removeAll, present, List.eraseDups_cons]
      rw [last, List.nodup_append_comm]
      exact List.nodup_cons.mpr ⟨fun again => present (List.mem_eraseDups.mp again), ih⟩

lemma length_eraseDups_iff : as.eraseDups.length = as.length ↔ as.Nodup := by
  have some : as.eraseDups.Subperm as :=
    List.subperm_of_subset (nodup_eraseDups as) fun _ => List.mem_eraseDups.mp
  constructor
  · intro same
    have all := some.perm_of_length_le (Nat.le_of_eq same.symm)
    exact all.nodup_iff.mp (nodup_eraseDups as)
  · intro distinct
    have every : as.Subperm as.eraseDups :=
      List.subperm_of_subset distinct fun _ => List.mem_eraseDups.mpr
    exact Nat.le_antisymm some.length_le every.length_le

/-- What is left of some of the elements stands in the order of the first places in the whole
list. -/
lemma pairwise_idxOf_eraseDups (keep : α → Bool) (as : List α) :
    (as.filter keep).eraseDups.Pairwise fun a b => as.idxOf a < as.idxOf b := by
  induction as generalizing keep with
  | nil => exact List.Pairwise.nil
  | cons a rest ih =>
    -- Every element but the first is one place further on than in the rest.
    have shift : ∀ {kept : List α}, (∀ b ∈ kept, b ≠ a) →
        kept.Pairwise (fun b c => rest.idxOf b < rest.idxOf c) →
        kept.Pairwise (fun b c => (a :: rest).idxOf b < (a :: rest).idxOf c) := by
      intro kept other ordered
      refine ordered.imp_of_mem ?_
      intro b c here there before
      rw [List.idxOf_cons_ne _ (other b here).symm, List.idxOf_cons_ne _ (other c there).symm]
      exact Nat.succ_lt_succ before
    cases kept : keep a with
    | false =>
      rw [List.filter_cons_of_neg (by simp [kept])]
      refine shift ?_ (ih keep)
      rintro b present rfl
      have chosen := (List.mem_filter.mp (List.mem_eraseDups.mp present)).2
      rw [kept] at chosen
      cases chosen
    | true =>
      rw [List.filter_cons_of_pos kept, List.eraseDups_cons, List.filter_filter]
      have other : ∀ b ∈ (rest.filter fun b => !b == a && keep b).eraseDups, b ≠ a := by
        rintro b present rfl
        have chosen := (List.mem_filter.mp (List.mem_eraseDups.mp present)).2
        simp at chosen
      refine List.pairwise_cons.mpr ⟨?_, shift other (ih _)⟩
      intro b present
      rw [List.idxOf_cons_self, List.idxOf_cons_ne _ (other b present).symm]
      exact Nat.succ_pos _

end EraseDups

/-- Mapping twice by what changes nothing the second time is mapping once. -/
lemma map_map_of_idempotent {α : Type} {f : α → α} (again : ∀ a, f (f a) = f a) (as : List α) :
    (as.map f).map f = as.map f := by
  rw [List.map_map]
  exact List.map_congr_left fun a _ => again a

end MemberMapping
