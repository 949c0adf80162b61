import MemberMapping.Proofs.Resolution

/-!
Calls on one resolver, in any order.

A resolver is asked for members in either direction, takes in diagnostics and registers imports.
What it has gathered stays: later calls add behind it. Asking in the reverse direction adds no
diagnostic, asking in the forward direction adds the first one alone, and after that nothing but
direct assignment is answered.
-/

namespace MemberMapping

inductive Call
  | resolve (member : Member) (candidates : List Member)
  | resolveReverse (source : Member) (targets : List Member)
  | report (d : Diagnostic)
  | register (ns : Namespace)
  | registerTy (ty : Ty)

inductive Answer
  | resolved (outcome : Resolution)
  | reversed (entry : Option MappedMember)
  | done

def Answer.mapping? : Answer → Option MappedMember
  | resolved (.mapped entry) => some entry
  | reversed entry => entry
  | _ => none

def Call.asks : Call → Bool
  | resolve _ _ | resolveReverse _ _ => true
  | report _ | register _ | registerTy _ => false

namespace Resolver

/-- The answer to a call and the state after it. -/
def perform (s : Schema) (target : TypeDef) (r : Resolver) : Call → Answer × Resolver
  | .resolve member candidates => (r.resolve s target member candidates).map .resolved id
  | .resolveReverse source targets => (r.resolveReverse s target source targets).map .reversed id
  | .report d => (.done, r.report d)
  | .register ns => (.done, r.register ns)
  | .registerTy ty => (.done, { r with imports := r.imports.registerTy ty })

/-- The state after calls in order. -/
def run (s : Schema) (target : TypeDef) (r : Resolver) (calls : List Call) : Resolver :=
  calls.foldl (fun r call => (r.perform s target call).2) r

/-- All that a call can answer and do. -/
inductive Step (r : Resolver) : Call → Answer → Resolver → Prop
  | unmatched {member : Member} {candidates : List Member} :
      Step r (.resolve member candidates) (.resolved .unmatched) r
  | mapped {member : Member} {candidates : List Member} {entry : MappedMember}
      (namespaces : List Namespace) (direct : r.diagnostics ≠ [] → entry.conversion = .direct) :
      Step r (.resolve member candidates) (.resolved (.mapped entry)) (r.importing namespaces)
  | reported {member : Member} {candidates : List Member} (clean : r.diagnostics = [])
      (d : Diagnostic) : Step r (.resolve member candidates) (.resolved .unresolved) (r.report d)
  | skipped {member : Member} {candidates : List Member} (failed : r.diagnostics ≠ []) :
      Step r (.resolve member candidates) (.resolved .unresolved) r
  | written {source : Member} {targets : List Member} {entry : MappedMember}
      (namespaces : List Namespace) (direct : r.diagnostics ≠ [] → entry.conversion = .direct) :
      Step r (.resolveReverse source targets) (.reversed (some entry)) (r.importing namespaces)
  | unwritten {source : Member} {targets : List Member} :
      Step r (.resolveReverse source targets) (.reversed none) r
  | report (d : Diagnostic) : Step r (.report d) .done (r.report d)
  | register (ns : Namespace) : Step r (.register ns) .done (r.importing [ns])
  | registerTy (ty : Ty) : Step r (.registerTy ty) .done (r.importing ty.scopes)

variable (s : Schema) (target : TypeDef)

/-- A pair is mapped, directly where there is a diagnostic; or the state stays as it was; or there
was no diagnostic and one is reported. -/
lemma resolvePair_cases (r : Resolver) (member source : Member) (reports : Bool) :
    (∃ entry namespaces, (r.diagnostics ≠ [] → entry.conversion = .direct) ∧
      resolvePair s target r member source reports = (some entry, r.importing namespaces)) ∨
    ((reports = true → r.diagnostics ≠ []) ∧
      resolvePair s target r member source reports = (none, r)) ∨
    (reports = true ∧ r.diagnostics = [] ∧
      ∃ d, resolvePair s target r member source reports = (none, r.report d)) := by
  by_cases clean : r.diagnostics = []
  · rw [resolvePair_of_clean s target member source reports clean]
    cases s.conversion? source member with
    | some c => exact Or.inl ⟨_, _, fun failed => absurd clean failed, rfl⟩
    | none =>
      cases reports with
      | true => exact Or.inr (Or.inr ⟨rfl, clean, _, rfl⟩)
      | false => exact Or.inr (Or.inl ⟨nofun, rfl⟩)
  · rw [resolvePair, conversion_of_failed s target member source clean]
    by_cases direct : s.isCompatible source.ty member.ty = true
    · simp only [if_pos direct, Imports.registerAll_types]
      exact Or.inl ⟨_, _, fun _ => rfl, rfl⟩
    · rw [if_neg direct]
      exact Or.inr (Or.inl ⟨fun _ => clean, rfl⟩)

theorem step_of_perform (r : Resolver) (call : Call) :
    r.Step call (r.perform s target call).1 (r.perform s target call).2 := by
  cases call with
  | resolve member candidates =>
    simp only [perform, resolve]
    cases findSource? candidates member with
    | none => exact .unmatched
    | some source =>
      rcases resolvePair_cases s target r member source true with
        ⟨entry, namespaces, direct, outcome⟩ | ⟨failed, outcome⟩ | ⟨_, clean, d, outcome⟩
      · simp only [outcome]
        exact .mapped namespaces direct
      · simp only [outcome]
        exact .skipped (failed rfl)
      · simp only [outcome]
        exact .reported clean d
  | resolveReverse source targets =>
    simp only [perform, resolveReverse]
    cases findTarget? targets source with
    | none => exact .unwritten
    | some member =>
      rcases resolvePair_cases s target r member source false with
        ⟨entry, namespaces, direct, outcome⟩ | ⟨_, outcome⟩ | ⟨reports, _⟩
      · simp only [outcome]
        exact .written namespaces direct
      · simp only [outcome]
        exact .unwritten
      · cases reports
  | report d => exact .report d
  | register ns => exact .register ns
  | registerTy ty => exact .registerTy ty

/-- What was gathered is still there, in its place. -/
structure Kept (r after : Resolver) : Prop where
  diagnostics : r.diagnostics <+: after.diagnostics
  entries : r.imports.entries <+: after.imports.entries

lemma Kept.refl (r : Resolver) : r.Kept r := ⟨List.prefix_rfl, List.prefix_rfl⟩

lemma Kept.trans {r between after : Resolver} (first : r.Kept between)
    (second : between.Kept after) : r.Kept after :=
  ⟨first.diagnostics.trans second.diagnostics, first.entries.trans second.entries⟩

lemma kept_importing (r : Resolver) (namespaces : List Namespace) :
    r.Kept (r.importing namespaces) :=
  ⟨List.prefix_rfl, r.imports.entries_prefix_registerAll namespaces⟩

lemma kept_report (r : Resolver) (d : Diagnostic) : r.Kept (r.report d) :=
  ⟨List.prefix_append r.diagnostics [d], List.prefix_rfl⟩

lemma Step.kept {r after : Resolver} {call : Call} {answer : Answer}
    (step : r.Step call answer after) : r.Kept after := by
  cases step with
  | unmatched | skipped | unwritten => exact .refl r
  | mapped namespaces | written namespaces => exact kept_importing r namespaces
  | register ns => exact kept_importing r [ns]
  | registerTy ty => exact kept_importing r ty.scopes
  | reported _ d => exact kept_report r d
  | report d => exact kept_report r d

theorem run_kept (r : Resolver) (calls : List Call) : r.Kept (r.run s target calls) := by
  induction calls generalizing r with
  | nil => exact .refl r
  | cons call rest ih =>
    exact (step_of_perform s target r call).kept.trans (ih (r.perform s target call).2)

lemma Step.direct {r after : Resolver} {call : Call} {answer : Answer} {entry : MappedMember}
    (step : r.Step call answer after) (failed : r.diagnostics ≠ [])
    (yields : answer.mapping? = some entry) : entry.conversion = .direct := by
  cases step with
  | mapped _ direct | written _ direct =>
    cases yields
    exact direct failed
  | unmatched | reported | skipped | unwritten | report | register | registerTy => cases yields

lemma Step.imports {r after : Resolver} {call : Call} {answer : Answer}
    (step : r.Step call answer after) (asks : call.asks = true) (none : answer.mapping? = none) :
    after.imports = r.imports := by
  cases step with
  | unmatched | reported | skipped | unwritten => rfl
  | mapped | written => cases none
  | report | register | registerTy => cases asks

/-- Asking in the forward direction reports at most one diagnostic, the first of all, and only for
a member that is not resolved. -/
lemma Step.diagnostics_of_resolve {r after : Resolver} {member : Member}
    {candidates : List Member} {answer : Answer}
    (step : r.Step (.resolve member candidates) answer after) :
    after.diagnostics = r.diagnostics ∨
      (r.diagnostics = [] ∧ answer = .resolved .unresolved ∧ ∃ d, after.diagnostics = [d]) := by
  cases step with
  | unmatched | mapped | skipped => exact Or.inl rfl
  | reported clean d =>
    exact Or.inr ⟨clean, rfl, d, by rw [Resolver.report, clean, List.nil_append]⟩

lemma Step.diagnostics_of_reverse {r after : Resolver} {source : Member} {targets : List Member}
    {answer : Answer} (step : r.Step (.resolveReverse source targets) answer after) :
    after.diagnostics = r.diagnostics := by
  cases step with
  | written | unwritten => rfl

lemma Step.of_unmatched {r after : Resolver} {call : Call}
    (step : r.Step call (.resolved .unmatched) after) : after = r := by
  cases step with
  | unmatched => rfl

end Resolver

/-- Whatever calls went before: what was gathered is kept by all calls that follow; the reverse
direction reports nothing, and the forward direction at most the first diagnostic; once there is
one, every mapping that any later call yields is direct; a member that is asked for in vain imports
nothing, and an unmatched one changes nothing at all. -/
theorem calls_keep (s : Schema) (target : TypeDef) (calls later : List Call) :
    let r := (Resolver.initial s target).run s target calls
    r.Kept (r.run s target later) ∧
    (∀ source targets,
      (r.perform s target (.resolveReverse source targets)).2.diagnostics = r.diagnostics) ∧
    (∀ member candidates,
      let outcome := r.perform s target (.resolve member candidates)
      outcome.2.diagnostics = r.diagnostics ∨
        (r.diagnostics = [] ∧ outcome.1 = .resolved .unresolved ∧
          ∃ d, outcome.2.diagnostics = [d])) ∧
    (r.diagnostics ≠ [] → ∀ call entry,
      ((r.run s target later).perform s target call).1.mapping? = some entry →
        entry.conversion = .direct) ∧
    (∀ call, call.asks = true → (r.perform s target call).1.mapping? = none →
      (r.perform s target call).2.imports = r.imports) ∧
    (∀ call, (r.perform s target call).1 = .resolved .unmatched →
      (r.perform s target call).2 = r) := by
  intro r
  have step := Resolver.step_of_perform s target r
  refine ⟨Resolver.run_kept s target r later,
    fun source targets => (step (.resolveReverse source targets)).diagnostics_of_reverse,
    fun member candidates => (step (.resolve member candidates)).diagnostics_of_resolve, ?_,
    fun call => (step call).imports, ?_⟩
  · intro failed call entry yields
    have kept := (Resolver.run_kept s target r later).diagnostics
    have still : (r.run s target later).diagnostics ≠ [] := fun none =>
      failed (List.prefix_nil.mp (none ▸ kept))
    exact (Resolver.step_of_perform s target _ call).direct still yields
  · intro call unmatched
    have own := step call
    rw [unmatched] at own
    exact own.of_unmatched

end MemberMapping
