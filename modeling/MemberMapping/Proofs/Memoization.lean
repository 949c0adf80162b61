import Mathlib.Data.Finset.Card
import Mathlib.Data.Finset.Dedup
import Mathlib.Data.Set.Card
import Mathlib.Logic.Relation
import MemberMapping.Context.ObjectGraph

/-!
Memoization is transparent: a context that starts empty changes no value, and every key that is
reached is mapped once.

A key is an instance with its type and the type mapped to; any finite graph of keys without cycles
is a mapping. A call registers its value only when it returns, so that in the middle of a run there
are keys entered without a value. They are of greater rank than the key called for, hence not below
it, and a key without a value that is called for was never entered.
-/

namespace MemberMapping

variable {κ α : Type}

def MappingContext.keys (context : MappingContext κ α) : List κ := context.entries.map Prod.fst

/-- The session once the mapping function of `k` is entered. -/
def Session.entering (s : Session κ α) (k : κ) : Session κ α :=
  { s with entered := k :: s.entered }

namespace Mapping

/-- The mapping functions take nothing but the values of the children from the context: a value
does not depend on the number of the entry. -/
def Plain (m : Mapping κ α) : Prop :=
  ∀ k n n' values, m.build k n values = m.build k n' values

/-- The value of a key by plain recursion, without a context. -/
def value (m : Mapping κ α) (k : κ) : α :=
  m.build k 0 ((m.children k).attach.map fun c => m.value c.1)
termination_by m.rank k
decreasing_by exact m.rank_lt k c.1 c.2

/-- A key is reached from another when it is the other or below one of its children. -/
def Reaches (m : Mapping κ α) : κ → κ → Prop :=
  Relation.ReflTransGen fun k c => c ∈ m.children k

/-- What holds between two calls: the values are those of the plain recursion, every key with a
value was entered, once, and what is below it has a value too. -/
structure Sound (m : Mapping κ α) (s : Session κ α) : Prop where
  keys_nodup : s.context.keys.Nodup
  entered_nodup : s.entered.Nodup
  value_eq : ∀ k a, (k, a) ∈ s.context.entries → a = m.value k
  entered_of_key : ∀ k ∈ s.context.keys, k ∈ s.entered
  closed : ∀ k ∈ s.context.keys, ∀ c ∈ m.children k, c ∈ s.context.keys

/-- A key may be called for when the calls in progress are for keys of greater rank. -/
def Ready (m : Mapping κ α) (k : κ) (s : Session κ α) : Prop :=
  ∀ e ∈ s.entered, e ∈ s.context.keys ∨ m.rank k < m.rank e

/-- What mapping some keys does: they have values from then on, whatever had one keeps it, every
call has returned, and only what is reached from the keys is registered. -/
structure Mapped (m : Mapping κ α) (ks : List κ) (s : Session κ α)
    (r : List α × Session κ α) : Prop where
  values : r.1 = ks.map m.value
  sound : m.Sound r.2
  kept : s.context.entries <:+ r.2.context.entries
  entered_kept : s.entered <:+ r.2.entered
  returned : ∀ e ∈ r.2.entered, e ∈ s.entered ∨ e ∈ r.2.context.keys
  covered : ∀ k ∈ ks, k ∈ r.2.context.keys
  traced : ∀ e ∈ r.2.context.keys, e ∈ s.context.keys ∨ ∃ k ∈ ks, m.Reaches k e

variable {m : Mapping κ α}

theorem value_eq (m : Mapping κ α) (k : κ) :
    m.value k = m.build k 0 ((m.children k).map m.value) := by
  rw [value]
  simp

theorem Reaches.rank_le {j k : κ} (h : m.Reaches j k) : m.rank k ≤ m.rank j := by
  induction h with
  | refl => exact Nat.le_refl _
  | tail _ child ih => exact Nat.le_trans (Nat.le_of_lt (m.rank_lt _ _ child)) ih

theorem Mapped.keys_kept {ks : List κ} {s : Session κ α} {r : List α × Session κ α}
    (h : m.Mapped ks s r) : ∀ e ∈ s.context.keys, e ∈ r.2.context.keys :=
  fun _ he => (h.kept.map Prod.fst).subset he

theorem Mapped.nil {s : Session κ α} (sound : m.Sound s) : m.Mapped [] s ([], s) where
  values := rfl
  sound := sound
  kept := List.suffix_rfl
  entered_kept := List.suffix_rfl
  returned := fun _ he => .inl he
  covered := by simp
  traced := fun _ he => .inl he

theorem Mapped.append {ks ls : List κ} {s : Session κ α} {r q : List α × Session κ α}
    (first : m.Mapped ks s r) (others : m.Mapped ls r.2 q) :
    m.Mapped (ks ++ ls) s (r.1 ++ q.1, q.2) where
  values := by rw [first.values, others.values, List.map_append]
  sound := others.sound
  kept := first.kept.trans others.kept
  entered_kept := first.entered_kept.trans others.entered_kept
  returned := by
    intro e he
    rcases others.returned e he with old | new
    · rcases first.returned e old with older | had
      · exact .inl older
      · exact .inr (others.keys_kept e had)
    · exact .inr new
  covered := by
    intro k hk
    rcases List.mem_append.1 hk with hk | hk
    · exact others.keys_kept k (first.covered k hk)
    · exact others.covered k hk
  traced := by
    intro e he
    rcases others.traced e he with old | ⟨k, hk, path⟩
    · rcases first.traced e old with older | ⟨k, hk, path⟩
      · exact .inl older
      · exact .inr ⟨k, List.mem_append_left ls hk, path⟩
    · exact .inr ⟨k, List.mem_append_right ks hk, path⟩

/-- Whatever was mapped in between, a key that may be called for still may. -/
theorem Ready.after {k : κ} {ks : List κ} {s : Session κ α} {r : List α × Session κ α}
    (ready : m.Ready k s) (done : m.Mapped ks s r) : m.Ready k r.2 := by
  intro e he
  rcases done.returned e he with old | returned
  · rcases ready e old with had | above
    · exact .inl (done.keys_kept e had)
    · exact .inr above
  · exact .inl returned

/-- A key without a value that may be called for was never entered. -/
theorem Sound.entering {k : κ} {s : Session κ α} (sound : m.Sound s) (ready : m.Ready k s)
    (new : k ∉ s.context.keys) : m.Sound (s.entering k) where
  keys_nodup := sound.keys_nodup
  entered_nodup := by
    refine List.nodup_cons.2 ⟨?_, sound.entered_nodup⟩
    intro before
    rcases ready k before with had | above
    · exact new had
    · exact Nat.lt_irrefl _ above
  value_eq := sound.value_eq
  entered_of_key := fun e he => List.mem_cons_of_mem k (sound.entered_of_key e he)
  closed := sound.closed

theorem Ready.entering {k c : κ} {s : Session κ α} (ready : m.Ready k s)
    (child : c ∈ m.children k) : m.Ready c (s.entering k) := by
  have below := m.rank_lt k c child
  intro e he
  rcases List.mem_cons.1 he with rfl | old
  · exact .inr below
  · rcases ready e old with had | above
    · exact .inl had
    · exact .inr (Nat.lt_trans below above)

/-- What the children of a key register is below it, so that the key is still without a value. -/
theorem Mapped.unset {k : κ} {s : Session κ α} {r : List α × Session κ α}
    (below : m.Mapped (m.children k) (s.entering k) r) (new : k ∉ s.context.keys) :
    k ∉ r.2.context.keys := by
  intro set
  rcases below.traced k set with had | ⟨c, child, path⟩
  · exact new had
  · have := m.rank_lt k c child
    have := path.rank_le
    omega

theorem sound_empty (m : Mapping κ α) : m.Sound {} := by
  constructor <;> simp [MappingContext.keys]

theorem ready_empty (m : Mapping κ α) (k : κ) : m.Ready k {} := by
  simp [Ready]

/-- What is registered when every call has returned, starting from an empty context, is what the
keys called for reach. -/
theorem Mapped.mem_keys_iff {ks : List κ} {r : List α × Session κ α} (h : m.Mapped ks {} r)
    (k : κ) : k ∈ r.2.context.keys ↔ ∃ root ∈ ks, m.Reaches root k := by
  constructor
  · intro hk
    rcases h.traced k hk with old | reached
    · cases old
    · exact reached
  · rintro ⟨root, hroot, path⟩
    induction path with
    | refl => exact h.covered root hroot
    | tail _ child ih => exact h.sound.closed _ ih _ child

def below (children : κ → List κ) (k : κ) : Set κ :=
  {e | Relation.TransGen (fun a b => b ∈ children a) k e}

/-- Every finite graph without cycles is a mapping, whose rank is the number of keys below. -/
theorem exists_of_acyclic [Finite κ] (children : κ → List κ) (build : κ → Nat → List α → α)
    (acyclic : ∀ k, k ∉ below children k) :
    ∃ m : Mapping κ α, m.children = children ∧ m.build = build := by
  have fewer : ∀ k, ∀ c ∈ children k, (below children c).ncard < (below children k).ncard := by
    intro k c child
    apply Set.ncard_lt_ncard _ (Set.toFinite _)
    refine ⟨fun e path => .head child path, fun all => ?_⟩
    exact acyclic c (all (.single child))
  exact ⟨⟨children, build, fun k => (below children k).ncard, fewer⟩, rfl, rfl⟩

end Mapping

variable [DecidableEq κ]

namespace MappingContext

theorem lookup?_eq_none_iff {context : MappingContext κ α} {k : κ} :
    context.lookup? k = none ↔ k ∉ context.keys := by
  simp only [lookup?, keys, List.lookup_eq_none_iff, List.mem_map, not_exists, not_and]
  constructor
  · intro others entry he same
    simpa [same] using others entry he
  · intro others entry he
    simpa using fun same => others entry he same.symm

theorem mem_of_lookup? {context : MappingContext κ α} {k : κ} {a : α}
    (h : context.lookup? k = some a) : (k, a) ∈ context.entries := by
  obtain ⟨before, after, split, -⟩ := List.lookup_eq_some_iff.1 h
  simp [split]

theorem lookup?_of_mem {context : MappingContext κ α} (distinct : context.keys.Nodup) {k : κ}
    {a : α} (h : (k, a) ∈ context.entries) : context.lookup? k = some a := by
  cases found : context.lookup? k with
  | none => exact absurd (List.mem_map_of_mem h) (lookup?_eq_none_iff.1 found)
  | some b =>
    have same := List.inj_on_of_nodup_map distinct (mem_of_lookup? found) h rfl
    exact congrArg some (Prod.ext_iff.1 same).2

/-- A value for a key without one is put before the others, which stay as they are. -/
theorem entries_register {context : MappingContext κ α} {k : κ} (a : α)
    (new : k ∉ context.keys) : (context.register k a).entries = (k, a) :: context.entries := by
  have others : ∀ entry ∈ context.entries, (entry.1 != k) = true := by
    intro entry he
    have hne : entry.1 ≠ k := by
      intro same
      exact new (same ▸ List.mem_map_of_mem he)
    simpa using hne
  simp only [register, List.filter_eq_self.2 others]

end MappingContext

/-- The session once the value of `k` is registered. -/
def Session.registering (s : Session κ α) (k : κ) (a : α) : Session κ α :=
  { s with context := s.context.register k a }

namespace Mapping

/-- Maps one key after the other through the same context. -/
def mapAll (m : Mapping κ α) : List κ → Session κ α → List α × Session κ α
  | [], s => ([], s)
  | k :: rest, s =>
    let first := m.map k s
    let others := m.mapAll rest first.2
    (first.1 :: others.1, others.2)

/-- `m.Call k s k' s'`: mapping `k` in the session `s` calls for `k'` in the session `s'`. That is
the call itself, and every call that the children of a key without a value make, each child in the
session that those before it leave. -/
inductive Call (m : Mapping κ α) : κ → Session κ α → κ → Session κ α → Prop
  | self (k : κ) (s : Session κ α) : Call m k s k s
  | child {k c k' : κ} {s s' : Session κ α} {before after : List κ}
      (new : k ∉ s.context.keys) (split : m.children k = before ++ c :: after)
      (call : Call m c (m.mapAll before (s.entering k)).2 k' s') : Call m k s k' s'

variable {m : Mapping κ α}

theorem mapChildren_eq (m : Mapping κ α) (k : κ) (cs : List κ) (hcs : ∀ c ∈ cs, c ∈ m.children k)
    (s : Session κ α) : m.mapChildren k cs hcs s = m.mapAll cs s := by
  induction cs generalizing s with
  | nil => rw [mapChildren, mapAll]
  | cons c rest ih => rw [mapChildren, mapAll, ih]

theorem mapAll_append (m : Mapping κ α) (before after : List κ) (s : Session κ α) :
    (m.mapAll (before ++ after) s).2 = (m.mapAll after (m.mapAll before s).2).2 := by
  induction before generalizing s with
  | nil => rfl
  | cons k rest ih => simpa only [List.cons_append, mapAll] using ih (m.map k s).2

theorem map_of_registered {k : κ} {s : Session κ α} (h : k ∈ s.context.keys) :
    ∃ a, (k, a) ∈ s.context.entries ∧ m.map k s = (a, s) := by
  cases found : s.context.lookup? k with
  | none => exact absurd h (MappingContext.lookup?_eq_none_iff.1 found)
  | some a => exact ⟨a, MappingContext.mem_of_lookup? found, by rw [map, found]⟩

theorem map_of_new {k : κ} {s : Session κ α} (h : k ∉ s.context.keys) :
    ∃ a, a = m.build k (s.entered.length + 1) (m.mapAll (m.children k) (s.entering k)).1 ∧
      m.map k s = (a, (m.mapAll (m.children k) (s.entering k)).2.registering k a) := by
  refine ⟨_, rfl, ?_⟩
  rw [map, MappingContext.lookup?_eq_none_iff.2 h]
  simp only [enter, mapChildren_eq]
  rfl

theorem mapped_mapAll_of {ks : List κ} {s : Session κ α}
    (step : ∀ k ∈ ks, ∀ s, m.Sound s → m.Ready k s → m.Mapped [k] s (m.mapAll [k] s))
    (sound : m.Sound s) (ready : ∀ k ∈ ks, m.Ready k s) : m.Mapped ks s (m.mapAll ks s) := by
  induction ks generalizing s with
  | nil => exact Mapped.nil sound
  | cons k rest ih =>
    have first := step k List.mem_cons_self s sound (ready k List.mem_cons_self)
    have others := ih (fun j hj => step j (List.mem_cons_of_mem k hj)) first.sound
      (fun j hj => (ready j (List.mem_cons_of_mem k hj)).after first)
    exact first.append others

theorem keys_registering {k : κ} {s : Session κ α} (a : α) (unset : k ∉ s.context.keys) :
    (s.registering k a).context.keys = k :: s.context.keys := by
  simp only [Session.registering, MappingContext.keys, MappingContext.entries_register a unset,
    List.map_cons]

theorem sound_registering {k : κ} {s : Session κ α} {r : List α × Session κ α} {a : α}
    (new : k ∉ s.context.keys) (below : m.Mapped (m.children k) (s.entering k) r)
    (value : a = m.value k) : m.Sound (r.2.registering k a) where
  keys_nodup := by
    rw [keys_registering a (below.unset new)]
    exact List.nodup_cons.2 ⟨below.unset new, below.sound.keys_nodup⟩
  entered_nodup := below.sound.entered_nodup
  value_eq := by
    intro e b h
    rw [Session.registering, MappingContext.entries_register a (below.unset new)] at h
    rcases List.mem_cons.1 h with same | old
    · obtain ⟨rfl, rfl⟩ := Prod.ext_iff.1 same
      exact value
    · exact below.sound.value_eq e b old
  entered_of_key := by
    intro e he
    rw [keys_registering a (below.unset new)] at he
    rcases List.mem_cons.1 he with rfl | old
    · exact below.entered_kept.subset List.mem_cons_self
    · exact below.sound.entered_of_key e old
  closed := by
    rw [keys_registering a (below.unset new)]
    intro e he c child
    apply List.mem_cons_of_mem k
    rcases List.mem_cons.1 he with rfl | old
    · exact below.covered c child
    · exact below.sound.closed e old c child

theorem mapped_registering {k : κ} {s : Session κ α} {r : List α × Session κ α} {a : α}
    (new : k ∉ s.context.keys) (below : m.Mapped (m.children k) (s.entering k) r)
    (value : a = m.value k) : m.Mapped [k] s ([a], r.2.registering k a) where
  values := by simp [value]
  sound := sound_registering new below value
  kept := by
    simp only [Session.registering, MappingContext.entries_register a (below.unset new)]
    exact below.kept.trans (List.suffix_cons _ _)
  entered_kept := (List.suffix_cons _ _).trans below.entered_kept
  returned := by
    intro e he
    rw [keys_registering a (below.unset new)]
    rcases below.returned e he with old | returned
    · rcases List.mem_cons.1 old with rfl | older
      · exact .inr List.mem_cons_self
      · exact .inl older
    · exact .inr (List.mem_cons_of_mem k returned)
  covered := by
    intro e he
    rw [List.mem_singleton.1 he, keys_registering a (below.unset new)]
    exact List.mem_cons_self
  traced := by
    intro e he
    rw [keys_registering a (below.unset new)] at he
    rcases List.mem_cons.1 he with rfl | old
    · exact .inr ⟨e, List.mem_singleton_self e, .refl⟩
    · rcases below.traced e old with older | ⟨c, child, path⟩
      · exact .inl older
      · exact .inr ⟨k, List.mem_singleton_self k, .head child path⟩

/-- One call, by induction on the rank: the children come first, each through the context that
those before it leave. -/
theorem mapped_map (plain : m.Plain) {k : κ} {s : Session κ α} (sound : m.Sound s)
    (ready : m.Ready k s) : m.Mapped [k] s (m.mapAll [k] s) := by
  induction rank : m.rank k using Nat.strong_induction_on generalizing k s with
  | _ n ih =>
    subst rank
    by_cases registered : k ∈ s.context.keys
    · obtain ⟨a, present, whole⟩ := map_of_registered (m := m) registered
      simp only [mapAll, whole]
      have same := Mapped.nil sound
      refine { same with values := ?_, covered := ?_, traced := fun _ he => .inl he }
      · rw [sound.value_eq k a present]
        rfl
      · intro e he
        exact List.mem_singleton.1 he ▸ registered
    · obtain ⟨a, built, whole⟩ := map_of_new (m := m) registered
      have below := mapped_mapAll_of
        (fun c child s sound ready => ih _ (m.rank_lt k c child) sound ready rfl)
        (sound.entering ready registered) (fun c child => ready.entering child)
      have value : a = m.value k := by
        rw [built, below.values, m.value_eq k]
        exact plain k _ _ _
      simpa only [mapAll, whole] using mapped_registering registered below value

theorem mapped_mapAll (plain : m.Plain) {ks : List κ} {s : Session κ α} (sound : m.Sound s)
    (ready : ∀ k ∈ ks, m.Ready k s) : m.Mapped ks s (m.mapAll ks s) :=
  mapped_mapAll_of (fun _ _ _ sound ready => mapped_map plain sound ready) sound ready

/-- Mapping some keys in order: where the one in the middle is called for, and what it leaves. -/
theorem mapped_middle (plain : m.Plain) {before after : List κ} {k : κ} {s : Session κ α}
    (sound : m.Sound s) (ready : ∀ j ∈ before ++ k :: after, m.Ready j s) :
    m.Sound (m.mapAll before s).2 ∧ m.Ready k (m.mapAll before s).2 ∧
      (m.map k (m.mapAll before s).2).2.context.entries <:+
        (m.mapAll (before ++ k :: after) s).2.context.entries := by
  have earlier := mapped_mapAll plain sound fun j hj => ready j (List.mem_append_left _ hj)
  have called := (ready k (by simp)).after earlier
  have current := mapped_map plain earlier.sound called
  have waiting : ∀ j ∈ after, m.Ready j (m.mapAll [k] (m.mapAll before s).2).2 :=
    fun j hj => ((ready j (by simp [hj])).after earlier).after current
  have later := mapped_mapAll plain current.sound waiting
  refine ⟨earlier.sound, called, ?_⟩
  rw [mapAll_append, mapAll]
  exact later.kept

/-- Every call that a call makes starts between two calls again, and the values registered when it
returns are among those registered in the end. -/
theorem Call.within (plain : m.Plain) {k k' : κ} {s s' : Session κ α} (call : m.Call k s k' s')
    (sound : m.Sound s) (ready : m.Ready k s) :
    m.Sound s' ∧ m.Ready k' s' ∧
      (m.map k' s').2.context.entries <:+ (m.map k s).2.context.entries := by
  induction call with
  | self k s => exact ⟨sound, ready, List.suffix_rfl⟩
  | @child k c k' s s' before after new split call ih =>
    have start := sound.entering ready new
    have children : ∀ d ∈ m.children k, m.Ready d (s.entering k) := fun d => ready.entering
    have below := mapped_mapAll plain start children
    obtain ⟨between, called, middle⟩ := mapped_middle plain start (split ▸ children)
    -- The calls before the child leave a sound context, which is what the induction asks for.
    obtain ⟨sound', ready', within⟩ := ih between called
    obtain ⟨a, -, whole⟩ := map_of_new (m := m) new
    have entries : (m.map k s).2.context.entries =
        (k, a) :: (m.mapAll (m.children k) (s.entering k)).2.context.entries := by
      simp only [whole, Session.registering, MappingContext.entries_register a (below.unset new)]
    refine ⟨sound', ready', ?_⟩
    rw [entries, split]
    exact (within.trans middle).trans (List.suffix_cons _ _)

/-- A context that starts empty is transparent for mapping functions that use it for their children
alone. Every call, however deep, gives the value of the plain recursion; no call changes or removes
a value registered before it, and what it leaves stays to the end; no mapping function is entered
twice for a key; and the context holds one value for each key that is reached. -/
theorem mapAll_transparent (m : Mapping κ α) (plain : m.Plain) (ks : List κ) :
    let final := (m.mapAll ks {}).2
    (m.mapAll ks {}).1 = ks.map m.value ∧
    (∀ before root after, ks = before ++ root :: after →
      ∀ k s, m.Call root (m.mapAll before {}).2 k s →
        (m.map k s).1 = m.value k ∧
        ∀ e a,
          (s.context.lookup? e = some a → (m.map k s).2.context.lookup? e = some a) ∧
          ((m.map k s).2.context.lookup? e = some a → final.context.lookup? e = some a)) ∧
    final.entered.Nodup ∧
    ∃ reached : Finset κ,
      (∀ k, k ∈ reached ↔ ∃ root ∈ ks, m.Reaches root k) ∧
      (∀ k, k ∈ reached ↔ k ∈ final.entered) ∧
      final.context.size = reached.card := by
  have ready : ∀ k ∈ ks, m.Ready k {} := fun k _ => m.ready_empty k
  have done := mapped_mapAll plain m.sound_empty ready
  refine ⟨done.values, ?_, done.sound.entered_nodup, (m.mapAll ks {}).2.context.keys.toFinset,
    ?_, ?_, ?_⟩
  · rintro before root after rfl k s call
    obtain ⟨between, called, middle⟩ := mapped_middle plain m.sound_empty ready
    obtain ⟨sound, called, within⟩ := call.within plain between called
    have inner := mapped_map plain sound called
    refine ⟨by simpa [mapAll] using inner.values, fun e a => ⟨fun h => ?_, fun h => ?_⟩⟩
    · exact MappingContext.lookup?_of_mem inner.sound.keys_nodup
        (inner.kept.subset (MappingContext.mem_of_lookup? h))
    · exact MappingContext.lookup?_of_mem done.sound.keys_nodup
        ((within.trans middle).subset (MappingContext.mem_of_lookup? h))
  · intro k
    rw [List.mem_toFinset, done.mem_keys_iff]
  · intro k
    rw [List.mem_toFinset]
    refine ⟨done.sound.entered_of_key k, fun he => ?_⟩
    rcases done.returned k he with old | returned
    · cases old
    · exact returned
  · rw [List.toFinset_card_of_nodup done.sound.keys_nodup]
    simp [MappingContext.size, MappingContext.keys]

/-- Three nodes, of which the last refers to the first both itself and through the second. The
values do not say which call built them. -/
def diamond : Mapping ObjectGraph.Key ObjectGraph.Value :=
  let nodes : List ObjectGraph.Node := [⟨5, []⟩, ⟨3, [0]⟩, ⟨1, [0, 1]⟩]
  { ObjectGraph.mapping nodes with
    build := fun k _ values => ObjectGraph.valueOf nodes k 0 values }

/-- The last and the middle node of the diamond, each as a sum and as a view. -/
def diamondRoots : List ObjectGraph.Key := [⟨2, .sum⟩, ⟨2, .view⟩, ⟨1, .sum⟩, ⟨1, .view⟩]

def middleView : ObjectGraph.Value :=
  .nodeView 0 (.tagView 0 3) [.nodeView 0 (.tagView 0 5) []]

lemma diamond_sums : diamond.value ⟨1, .sum⟩ = .sum 0 8 ∧ diamond.value ⟨2, .sum⟩ = .sum 0 14 := by
  have first : diamond.value ⟨0, .sum⟩ = .sum 0 5 := diamond.value_eq ⟨0, .sum⟩
  have second : diamond.value ⟨1, .sum⟩ = .sum 0 8 := by
    rw [value_eq]
    change diamond.build _ 0 [diamond.value ⟨0, .sum⟩] = _
    rw [first]
    rfl
  refine ⟨second, ?_⟩
  rw [value_eq]
  change diamond.build _ 0 [diamond.value ⟨0, .sum⟩, diamond.value ⟨1, .sum⟩] = _
  rw [first, second]
  rfl

lemma diamond_views : diamond.value ⟨1, .view⟩ = middleView ∧ diamond.value ⟨2, .view⟩ =
    .nodeView 0 (.tagView 0 1) [.nodeView 0 (.tagView 0 5) [], middleView] := by
  have tag : ∀ i, diamond.value ⟨i, .tag⟩ = diamond.build ⟨i, .tag⟩ 0 [] :=
    fun i => diamond.value_eq ⟨i, .tag⟩
  have first : diamond.value ⟨0, .view⟩ = .nodeView 0 (.tagView 0 5) [] := by
    rw [value_eq]
    change diamond.build _ 0 [diamond.value ⟨0, .tag⟩] = _
    rw [tag]
    rfl
  have second : diamond.value ⟨1, .view⟩ = middleView := by
    rw [value_eq]
    change diamond.build _ 0 [diamond.value ⟨1, .tag⟩, diamond.value ⟨0, .view⟩] = _
    rw [tag, first]
    rfl
  refine ⟨second, ?_⟩
  rw [value_eq]
  change diamond.build _ 0
    [diamond.value ⟨2, .tag⟩, diamond.value ⟨0, .view⟩, diamond.value ⟨1, .view⟩] = _
  rw [tag, first, second]
  rfl

/-- The first node of the diamond is shared by the other two. It counts twice in the sum of the
last and is shown twice in its view, and for each of the two types it is entered once. -/
theorem diamond_shared_once :
    diamond.Plain ∧
    let run := diamond.mapAll diamondRoots {}
    run.1 = [.sum 0 14,
      .nodeView 0 (.tagView 0 1) [.nodeView 0 (.tagView 0 5) [], middleView],
      .sum 0 8, middleView] ∧
    run.2.entered.Nodup ∧ ⟨0, .sum⟩ ∈ run.2.entered ∧ ⟨0, .view⟩ ∈ run.2.entered := by
  have plain : diamond.Plain := fun _ _ _ _ => rfl
  obtain ⟨values, -, once, reached, reaches, enters, -⟩ :=
    mapAll_transparent diamond plain diamondRoots
  have entered : ∀ root ∈ diamondRoots, ∀ k, diamond.Reaches root k →
      k ∈ (diamond.mapAll diamondRoots {}).2.entered :=
    fun root among k leads => (enters k).mp ((reaches k).mpr ⟨root, among, leads⟩)
  refine ⟨plain, ?_, once, ?_, ?_⟩
  · rw [values, diamondRoots]
    simp only [List.map_cons, List.map_nil, diamond_sums, diamond_views]
  · exact entered ⟨2, .sum⟩ (by decide) _ (.head (by decide) .refl)
  · exact entered ⟨2, .view⟩ (by decide) _ (.head (by decide) .refl)

end Mapping

end MemberMapping
