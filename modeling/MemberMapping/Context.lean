/-!
The mapping context: values mapped so far while one object graph is built.

A source instance that is reached again is not mapped again; the value of the first time is used.
Values are kept by key: the instance with its type and the type mapped to. A mapping says which
keys a value is built from, and builds it from their values; the keys it is built from have a
smaller rank, so that every mapping ends.
-/

namespace MemberMapping

structure Mapping (κ α : Type) where
  children : κ → List κ
  /-- The value of a key, from the number of the entry into its mapping function and the values
  of its children. -/
  build : κ → Nat → List α → α
  rank : κ → Nat
  rank_lt : ∀ k, ∀ c ∈ children k, rank c < rank k

/-- The values registered, each key once. -/
structure MappingContext (κ α : Type) where
  entries : List (κ × α) := []

namespace MappingContext

variable {κ α : Type} [BEq κ]

def lookup? (context : MappingContext κ α) (k : κ) : Option α :=
  context.entries.lookup k

/-- Records the value of a key, in place of an earlier one. -/
def register (context : MappingContext κ α) (k : κ) (a : α) : MappingContext κ α :=
  ⟨(k, a) :: context.entries.filter fun entry => entry.1 != k⟩

def size (context : MappingContext κ α) : Nat := context.entries.length

end MappingContext

/-- A context, and the keys whose mapping functions have been entered, the latest first. -/
structure Session (κ α : Type) where
  context : MappingContext κ α := {}
  entered : List κ := []

namespace Mapping

variable {κ α : Type} [BEq κ]

mutual

/-- Runs the mapping function of a key: its children are mapped through the context, in order,
and the value is built from theirs. -/
def enter (m : Mapping κ α) (k : κ) (s : Session κ α) : α × Session κ α :=
  let serial := s.entered.length + 1
  let start : Session κ α := { s with entered := k :: s.entered }
  let mapped := m.mapChildren k (m.children k) (fun _ h => h) start
  (m.build k serial mapped.1, mapped.2)
termination_by (m.rank k, 1, 0)

/-- Maps some of the children of `k` through the context. -/
def mapChildren (m : Mapping κ α) (k : κ) (cs : List κ) (hcs : ∀ c ∈ cs, c ∈ m.children k)
    (s : Session κ α) : List α × Session κ α :=
  match cs with
  | [] => ([], s)
  | c :: rest =>
    have hc : c ∈ m.children k := hcs c List.mem_cons_self
    have := m.rank_lt k c hc
    let first := m.map c s
    let others := m.mapChildren k rest (fun x hx => hcs x (List.mem_cons_of_mem c hx)) first.2
    (first.1 :: others.1, others.2)
termination_by (m.rank k, 0, cs.length)

/-- The value of a key: the registered one, or else the one its mapping function gives, which is
then registered. -/
def map (m : Mapping κ α) (k : κ) (s : Session κ α) : α × Session κ α :=
  match s.context.lookup? k with
  | some a => (a, s)
  | none =>
    let result := m.enter k s
    (result.1, { result.2 with context := result.2.context.register k result.1 })
termination_by (m.rank k, 2, 0)

end

/-- The value of a key with a context of its own for the whole of it. -/
def mapAfresh (m : Mapping κ α) (k : κ) (s : Session κ α) : α × Session κ α :=
  let result := m.enter k { s with context := {} }
  (result.1, { result.2 with context := s.context })

end Mapping

end MemberMapping
