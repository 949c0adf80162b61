import MemberMapping.Imports
import MemberMapping.Proofs.Lists

/-!
Imports in the order of their first use.

Registering namespaces one by one, with a look at what is there already, leaves the list of all
that count, each at its first place. Nothing is removed on the way.
-/

namespace MemberMapping

namespace Imports

/-- The namespaces that can be imported by code in `current`. -/
def relevant (current : Namespace) (namespaces : List Namespace) : List Namespace :=
  namespaces.filter fun ns => !ns.isGlobal && ns != current

theorem registerAll_append (imports : Imports) (first second : List Namespace) :
    imports.registerAll (first ++ second) = (imports.registerAll first).registerAll second :=
  List.foldl_append

theorem registerAll_types (imports : Imports) (types : List Ty) :
    types.foldl Imports.registerTy imports = imports.registerAll (types.flatMap Ty.scopes) := by
  induction types generalizing imports with
  | nil => rfl
  | cons ty rest ih =>
    rw [List.foldl_cons, ih, List.flatMap_cons, registerAll_append]
    rfl

/-- A namespace is put behind the entries, or they are left as they are; whoever adds it is told
which. -/
lemma insert_cases (imports : Imports) (ns : Namespace) :
    imports.insert ns = ({ imports with entries := imports.entries ++ [ns] }, true) ∨
      imports.insert ns = (imports, false) := by
  rw [insert]
  cases imports.admits ns with
  | true => exact .inl rfl
  | false => exact .inr rfl

lemma register_of_admitted {imports : Imports} {ns : Namespace} (new : imports.admits ns = true) :
    imports.register ns = { imports with entries := imports.entries ++ [ns] } := by
  rw [register, insert, if_pos new]

lemma register_of_refused {imports : Imports} {ns : Namespace} (known : imports.admits ns = false) :
    imports.register ns = imports := by
  rw [register, insert, known]
  rfl

lemma register_of_irrelevant {imports : Imports} {ns : Namespace}
    (skipped : (!ns.isGlobal && ns != imports.current) = false) :
    imports.register ns = imports := by
  have refused : imports.admits ns = false := by rw [admits, skipped, Bool.false_and]
  exact register_of_refused refused

lemma entries_prefix_register (imports : Imports) (ns : Namespace) :
    imports.entries <+: (imports.register ns).entries := by
  rcases imports.insert_cases ns with added | left
  · have longer : (imports.register ns).entries = imports.entries ++ [ns] := by
      rw [register, added]
    exact longer ▸ List.prefix_append imports.entries [ns]
  · have same : imports.register ns = imports := by rw [register, left]
    exact same.symm ▸ List.prefix_rfl

theorem entries_prefix_registerAll (imports : Imports) (namespaces : List Namespace) :
    imports.entries <+: (imports.registerAll namespaces).entries := by
  induction namespaces generalizing imports with
  | nil => exact List.prefix_rfl
  | cons ns rest ih => exact (entries_prefix_register imports ns).trans (ih (imports.register ns))

theorem registerAll_entries (imports : Imports) (namespaces : List Namespace)
    (distinct : imports.entries.eraseDups = imports.entries) :
    (imports.registerAll namespaces).entries =
      (imports.entries ++ relevant imports.current namespaces).eraseDups := by
  induction namespaces generalizing imports with
  | nil => simpa [registerAll, relevant] using distinct.symm
  | cons ns rest ih =>
    change ((imports.register ns).registerAll rest).entries = _
    cases counts : (!ns.isGlobal && ns != imports.current) with
    | false =>
      rw [register_of_irrelevant counts, ih imports distinct]
      simp [relevant, counts]
    | true =>
      have kept : relevant imports.current (ns :: rest) = ns :: relevant imports.current rest := by
        simp [relevant, counts]
      by_cases present : ns ∈ imports.entries
      · have same : imports.register ns = imports :=
          register_of_refused (by simp [admits, present])
        rw [same, ih imports distinct, kept, eraseDups_append_cons_of_mem present]
      · have added : imports.register ns = { imports with entries := imports.entries ++ [ns] } := by
          apply register_of_admitted
          rw [admits, counts]
          simp [present]
        have distinct' := eraseDups_append_singleton distinct present
        rw [added, ih { imports with entries := imports.entries ++ [ns] } distinct', kept]
        simp

/-- The entries are those of the namespaces met that code in `current` can import, once each, in the
order in which they are met for the first time. -/
structure FirstUses (current : Namespace) (met entries : List Namespace) : Prop where
  exactly : entries = (relevant current met).eraseDups
  mem_iff : ∀ ns, ns ∈ entries ↔ ns ∈ met ∧ ns.isGlobal = false ∧ ns ≠ current
  distinct : entries.Nodup
  ordered : entries.Pairwise fun ns later => met.idxOf ns < met.idxOf later

lemma FirstUses.of_relevant (current : Namespace) (met : List Namespace) :
    FirstUses current met (relevant current met).eraseDups := by
  refine ⟨rfl, ?_, nodup_eraseDups _, pairwise_idxOf_eraseDups _ met⟩
  intro ns
  rw [List.mem_eraseDups, relevant, List.mem_filter, Bool.and_eq_true, Bool.not_eq_true',
    bne_iff_ne]

end Imports

end MemberMapping
