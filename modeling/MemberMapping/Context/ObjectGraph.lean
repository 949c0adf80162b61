import MemberMapping.Context

/-!
An object graph of nodes with tags, and the targets it maps to: a view of a tag, a view of a node
with its tag and children, and a sum over a node and its children. Every value carries the serial
number of the call that built it, so that shared values can be told from equal ones.
-/

namespace MemberMapping.ObjectGraph

/-- A node with an integer and children among the nodes before it. Its tag has the same integer. -/
structure Node where
  id : Int64
  children : List Nat

/-- The targets, each with its source type: the tag of a node, or the node. -/
inductive Target
  /-- A tag as a tag view. -/
  | tag
  /-- A node as a tag view with the negated integer. -/
  | nodeTag
  /-- A node as a view. -/
  | view
  /-- A node as a sum. -/
  | sum
deriving DecidableEq, Repr

structure Key where
  node : Nat
  target : Target
deriving DecidableEq, Repr

inductive Value where
  | tagView (serial : Nat) (id : Int64)
  | nodeView (serial : Nat) (tag : Value) (children : List Value)
  | sum (serial : Nat) (total : Int64)

def Value.total : Value → Int64
  | .sum _ total => total
  | _ => 0

/-- The nodes a node refers to; only nodes before it count. -/
def childrenOf (nodes : List Node) (i : Nat) : List Nat :=
  match nodes[i]? with
  | some node => node.children.filter (· < i)
  | none => []

def idOf (nodes : List Node) (i : Nat) : Int64 :=
  match nodes[i]? with
  | some node => node.id
  | none => 0

def keysBelow (nodes : List Node) (k : Key) : List Key :=
  match k.target with
  | .tag | .nodeTag => []
  | .view => ⟨k.node, .tag⟩ :: (childrenOf nodes k.node).map (⟨·, .view⟩)
  | .sum => (childrenOf nodes k.node).map (⟨·, .sum⟩)

def valueOf (nodes : List Node) (k : Key) (serial : Nat) (values : List Value) : Value :=
  let id := idOf nodes k.node
  match k.target with
  | .tag => .tagView serial id
  | .nodeTag => .tagView serial (-id)
  | .view =>
    match values with
    | [] => .tagView serial id
    | tag :: children => .nodeView serial tag children
  | .sum => .sum serial ((values.map Value.total).foldl (· + ·) id)

def rankOf (k : Key) : Nat :=
  match k.target with
  | .tag => 0
  | _ => k.node + 1

theorem rank_keysBelow (nodes : List Node) (k c : Key) (h : c ∈ keysBelow nodes k) :
    rankOf c < rankOf k := by
  obtain ⟨i, target⟩ := k
  have below : ∀ j ∈ childrenOf nodes i, j < i := by
    intro j hj
    unfold childrenOf at hj
    split at hj
    · simpa using (List.mem_filter.1 hj).2
    · simp at hj
  cases target with
  | tag => simp [keysBelow] at h
  | nodeTag => simp [keysBelow] at h
  | view =>
    rcases List.mem_cons.1 h with rfl | h
    · simp [rankOf]
    · obtain ⟨j, hj, rfl⟩ := List.mem_map.1 h
      have := below j hj
      simp only [rankOf]
      omega
  | sum =>
    obtain ⟨j, hj, rfl⟩ := List.mem_map.1 h
    have := below j hj
    simp only [rankOf]
    omega

def mapping (nodes : List Node) : Mapping Key Value where
  children := keysBelow nodes
  build := valueOf nodes
  rank := rankOf
  rank_lt := fun k c h => rank_keysBelow nodes k c h

/-- The value for a key that holds a given integer and was built by no call. -/
def given (target : Target) (n : Int64) : Value :=
  match target with
  | .tag | .nodeTag => .tagView 0 n
  | .view => .nodeView 0 (.tagView 0 n) []
  | .sum => .sum 0 n

end MemberMapping.ObjectGraph
