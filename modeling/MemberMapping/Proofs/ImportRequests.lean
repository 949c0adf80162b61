import MemberMapping.Proofs.ImportOrder

/-!
Imports under any requests.

A request names a namespace or a type. Whatever is asked for, the entries are the namespaces met in
the requests, behind those of the runtime and of the support library, each at its first place. An
entry stays where it is, and whoever asks for a namespace is told whether it was added.
-/

namespace MemberMapping

namespace Imports

/-- What imports are asked to hold: a namespace, or the namespaces of a type and its arguments. -/
inductive Request
  | scope (ns : Namespace)
  | type (ty : Ty)

/-- The namespaces met in a request. A type comes before its arguments. -/
def Request.namespacesMet : Request → List Namespace
  | scope ns => [ns]
  | type ty => ty.namespacesMet

/-- Meets one request and tells whether a namespace was added. Of a type nothing is told. -/
def meet (imports : Imports) : Request → Imports × Option Bool
  | .scope ns => ((imports.insert ns).1, some (imports.insert ns).2)
  | .type ty => (imports.registerTy ty, none)

/-- Meets requests in order, and gives what was told about each of them. -/
def meetAll (imports : Imports) : List Request → Imports × List (Option Bool)
  | [] => (imports, [])
  | request :: rest =>
    let later := (imports.meet request).1.meetAll rest
    (later.1, (imports.meet request).2 :: later.2)

lemma meet_eq (imports : Imports) (request : Request) :
    (imports.meet request).1 = imports.registerAll request.namespacesMet := by
  cases request with
  | scope ns => rfl
  | type ty => exact congrArg imports.registerAll ty.scopes_eq

lemma meetAll_eq (imports : Imports) (requests : List Request) :
    (imports.meetAll requests).1 =
      imports.registerAll (requests.flatMap Request.namespacesMet) := by
  induction requests generalizing imports with
  | nil => rfl
  | cons request rest ih => rw [meetAll, ih, meet_eq, List.flatMap_cons, registerAll_append]

/-- What is told about a request depends on the requests before it alone. -/
lemma told_of_meetAll (imports : Imports) (earlier : List Request) (request : Request)
    (later : List Request) :
    (imports.meetAll (earlier ++ request :: later)).2[earlier.length]? =
      some ((imports.meetAll earlier).1.meet request).2 := by
  induction earlier generalizing imports with
  | nil => rfl
  | cons first earlier ih => exact ih (imports.meet first).1

/-- What is told about a namespace: whether it was put behind the entries, which were left as they
are otherwise. -/
structure Tells (before : Imports) (ns : Namespace) (after : Imports) (added : Bool) : Prop where
  added_iff : added = true ↔ after.entries = before.entries ++ [ns]
  left_iff : added = false ↔ after.entries = before.entries

lemma tells_insert (imports : Imports) (ns : Namespace) :
    imports.Tells ns (imports.insert ns).1 (imports.insert ns).2 := by
  rcases imports.insert_cases ns with added | left
  · rw [added]
    exact ⟨by simp, by simp⟩
  · rw [left]
    exact ⟨by simp, by simp⟩

/-- The namespaces met by requests: those of the runtime and of the support library, then those
that the requests name. -/
def namespacesMet (known : WellKnown) (requests : List Request) : List Namespace :=
  [known.runtimeScope, known.supportScope] ++ requests.flatMap Request.namespacesMet

/-- After any requests the entries are the first uses of the namespaces met. Further requests add
entries behind them, and each request for a namespace is told whether it was added. -/
theorem requests_append_first_uses (current : Namespace) (known : WellKnown) :
    (∀ requests, FirstUses current (namespacesMet known requests)
      ((initial current known).meetAll requests).1.entries) ∧
    (∀ earlier later, ((initial current known).meetAll earlier).1.entries <+:
      ((initial current known).meetAll (earlier ++ later)).1.entries) ∧
    ∀ earlier ns later, ∃ added,
      ((initial current known).meetAll (earlier ++ .scope ns :: later)).2[earlier.length]? =
        some (some added) ∧
      ((initial current known).meetAll earlier).1.Tells ns
        ((initial current known).meetAll (earlier ++ [.scope ns])).1 added := by
  refine ⟨?_, ?_, ?_⟩
  · intro requests
    have entries : ((initial current known).meetAll requests).1.entries =
        (relevant current (namespacesMet known requests)).eraseDups := by
      rw [meetAll_eq, initial, ← registerAll_append,
        registerAll_entries ⟨current, []⟩ _ rfl, List.nil_append]
      rfl
    rw [entries]
    exact .of_relevant current _
  · intro earlier later
    rw [meetAll_eq, meetAll_eq, List.flatMap_append, registerAll_append]
    exact entries_prefix_registerAll _ _
  · intro earlier ns later
    refine ⟨_, told_of_meetAll _ earlier (.scope ns) later, ?_⟩
    have next : ((initial current known).meetAll (earlier ++ [.scope ns])).1 =
        (((initial current known).meetAll earlier).1.insert ns).1 := by
      rw [meetAll_eq, meetAll_eq, List.flatMap_append, registerAll_append]
      rfl
    rw [next]
    exact tells_insert _ ns

end Imports

end MemberMapping
