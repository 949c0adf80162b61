import Mathlib.Data.List.Forall2
import MemberMapping.Proofs.ModuleWalk

/-!
The items of a tree of modules in source order.

A place in the tree is the position of an item among those of the outermost module or, for an item
within a module, the position of that module and a place in it. Places in their lexicographic order
are the source order. The two walks over the modules give every item of a kind, in this order, the
namespace that the names of the modules around its place stand for.
-/

namespace MemberMapping

/-- What stands at a place: the names of the modules around it, outermost first, and the item. -/
def Item.at? : List Item → List Nat → Option (List String × Item)
  | _, [] => none
  | items, [position] => items[position]?.map fun item => ([], item)
  | items, position :: next :: place =>
    match items[position]? with
    | some (.module _ _ name _ inner) =>
      (Item.at? inner (next :: place)).map fun found => (name :: found.1, found.2)
    | _ => none

/-- A kind of items that are collected: which items are of it, and where they are put. -/
structure ItemKind (α : Type) where
  of? : Item → Option α
  among : ScopedItems → List (Scoped α)
  of_module : ∀ attributes front name innerAttributes items,
    of? (.module attributes front name innerAttributes items) = none
  among_nil : among {} = []
  among_append : ∀ first second, among (first ++ second) = among first ++ among second
  among_scoped : ∀ current item, item.isModule = false →
    among (item.scoped current) = (of? item).toList.map (⟨current, ·⟩)

namespace ItemKind

def structs : ItemKind StructItem where
  of? item := match item with
    | .struct item => some item
    | _ => none
  among := ScopedItems.structs
  of_module _ _ _ _ _ := rfl
  among_nil := rfl
  among_append _ _ := rfl
  among_scoped current item leaf := by
    cases item with
    | module => cases leaf
    | _ => rfl

def enums : ItemKind EnumItem where
  of? item := match item with
    | .enum item => some item
    | _ => none
  among := ScopedItems.enums
  of_module _ _ _ _ _ := rfl
  among_nil := rfl
  among_append _ _ := rfl
  among_scoped current item leaf := by
    cases item with
    | module => cases leaf
    | _ => rfl

def traits : ItemKind TraitItem where
  of? item := match item with
    | .trait item => some item
    | _ => none
  among := ScopedItems.traits
  of_module _ _ _ _ _ := rfl
  among_nil := rfl
  among_append _ _ := rfl
  among_scoped current item leaf := by
    cases item with
    | module => cases leaf
    | _ => rfl

def impls : ItemKind ImplItem where
  of? item := match item with
    | .impl item => some item
    | _ => none
  among := ScopedItems.impls
  of_module _ _ _ _ _ := rfl
  among_nil := rfl
  among_append _ _ := rfl
  among_scoped current item leaf := by
    cases item with
    | module => cases leaf
    | _ => rfl

variable {α : Type} (k : ItemKind α)

/-- The item of the kind at a place, with the namespace that the names of the modules around it
stand for. -/
def at? (root : Namespace) (items : List Item) (place : List Nat) : Option (Scoped α) :=
  (Item.at? items place).bind fun found => (k.of? found.2).map (⟨root.descend found.1, ·⟩)

/-- All items of the kind, one for each place where one stands, in source order. -/
def ListsAll (root : Namespace) (items : List Item) (found : List (Scoped α)) : Prop :=
  ∃ places : List (List Nat), places.Pairwise (· < ·) ∧
    (∀ place, place ∈ places ↔ (k.at? root items place).isSome) ∧
    List.Forall₂ (fun place placed => k.at? root items place = some placed) places found

end ItemKind

/-! ## Places among further items -/

def nextPlace : List Nat → List Nat
  | [] => []
  | position :: place => (position + 1) :: place

lemma nextPlace_lt {one two : List Nat} (before : one < two) : nextPlace one < nextPlace two := by
  cases two with
  | nil => exact absurd before (List.not_lt_nil one)
  | cons n two =>
    cases one with
    | nil => exact List.nil_lt_cons (n + 1) two
    | cons m one =>
      rw [List.cons_lt_cons_iff] at before
      rw [nextPlace, nextPlace, List.cons_lt_cons_iff]
      rcases before with less | ⟨rfl, less⟩
      · exact Or.inl (Nat.succ_lt_succ less)
      · exact Or.inr ⟨rfl, less⟩

namespace Item

lemma at?_nextPlace (item : Item) (rest : List Item) (place : List Nat) :
    at? (item :: rest) (nextPlace place) = at? rest place := by
  cases place with
  | nil => rfl
  | cons position place =>
    cases place with
    | nil => rfl
    | cons next place => rfl

lemma at?_first (item : Item) (rest : List Item) (place : List Nat) :
    at? (item :: rest) (0 :: place) = at? [item] (0 :: place) := by
  cases place with
  | nil => rfl
  | cons next place => rfl

lemma at?_nil (place : List Nat) : at? [] place = none := by
  cases place with
  | nil => rfl
  | cons position place =>
    cases place with
    | nil => rfl
    | cons next place => rfl

end Item

namespace ItemKind

variable {α : Type} {k : ItemKind α} {root : Namespace}

lemma at?_nextPlace (item : Item) (rest : List Item) (place : List Nat) :
    k.at? root (item :: rest) (nextPlace place) = k.at? root rest place := by
  rw [at?, Item.at?_nextPlace, at?]

lemma at?_first (item : Item) (rest : List Item) (place : List Nat) :
    k.at? root (item :: rest) (0 :: place) = k.at? root [item] (0 :: place) := by
  rw [at?, Item.at?_first, at?]

lemma at?_nil (place : List Nat) : k.at? root [] place = none := by
  rw [at?, Item.at?_nil, Option.bind_none]

/-- Whatever stands at a place among one item stands in it. -/
lemma exists_of_at?_single {item : Item} {place : List Nat}
    (stands : (k.at? root [item] place).isSome) : ∃ rest, place = 0 :: rest := by
  cases place with
  | nil => cases stands
  | cons position place =>
    cases position with
    | zero => exact ⟨place, rfl⟩
    | succ position =>
      have beyond : k.at? root [item] ((position + 1) :: place) = none :=
        (at?_nextPlace item [] (position :: place)).trans (at?_nil _)
      rw [beyond] at stands
      cases stands

lemma ListsAll.nil : k.ListsAll root [] [] := by
  refine ⟨[], List.Pairwise.nil, fun place => ?_, .nil⟩
  simp [at?_nil]

lemma ListsAll.cons {item : Item} {rest : List Item} {first others : List (Scoped α)}
    (head : k.ListsAll root [item] first) (tail : k.ListsAll root rest others) :
    k.ListsAll root (item :: rest) (first ++ others) := by
  obtain ⟨here, sorted, here_iff, beside⟩ := head
  obtain ⟨there, sorted', there_iff, beside'⟩ := tail
  -- The places in the first item begin with zero, so they stand before those of the rest, which
  -- are moved on by one.
  have begins : ∀ place ∈ here, ∃ inner, place = 0 :: inner :=
    fun place listed => exists_of_at?_single ((here_iff place).mp listed)
  refine ⟨here ++ there.map nextPlace, ?_, ?_, ?_⟩
  · refine List.pairwise_append.mpr ⟨sorted, sorted'.map nextPlace fun _ _ => nextPlace_lt, ?_⟩
    intro place listed later listed'
    obtain ⟨inner, rfl⟩ := begins place listed
    obtain ⟨before, among, rfl⟩ := List.mem_map.mp listed'
    cases before with
    | nil => cases (there_iff []).mp among
    | cons position before =>
      exact List.cons_lt_cons_iff.mpr (Or.inl (Nat.succ_pos position))
  · intro place
    rw [List.mem_append, here_iff, List.mem_map]
    constructor
    · rintro (stands | ⟨before, among, rfl⟩)
      · obtain ⟨inner, rfl⟩ := exists_of_at?_single stands
        rwa [at?_first]
      · rw [at?_nextPlace]
        exact (there_iff before).mp among
    · intro stands
      rcases place with _ | ⟨_ | position, place⟩
      · cases stands
      · exact Or.inl (by rwa [at?_first] at stands)
      · have same : k.at? root (item :: rest) ((position + 1) :: place) =
            k.at? root rest (position :: place) := at?_nextPlace item rest (position :: place)
        rw [same] at stands
        exact Or.inr ⟨position :: place, (there_iff _).mpr stands, rfl⟩
  · refine List.rel_append (beside.imp fun place placed stands => ?_)
      (List.forall₂_map_left_iff.mpr (beside'.imp fun place placed stands => ?_))
    · obtain ⟨inner, rfl⟩ := exists_of_at?_single (Option.isSome_of_eq_some stands)
      rwa [at?_first]
    · rwa [at?_nextPlace]

lemma ListsAll.leaf {item : Item} (leaf : item.isModule = false) :
    k.ListsAll root [item] ((k.of? item).toList.map (⟨root, ·⟩)) := by
  have alone : k.at? root [item] [0] = (k.of? item).map (⟨root, ·⟩) := rfl
  have only : ∀ place, (k.at? root [item] place).isSome → place = [0] := by
    intro place stands
    obtain ⟨inner, rfl⟩ := exists_of_at?_single stands
    cases inner with
    | nil => rfl
    | cons next inner =>
      cases item with
      | module => cases leaf
      | _ => cases stands
  cases own : k.of? item with
  | none =>
    rw [own] at alone
    refine ⟨[], List.Pairwise.nil, fun place => iff_of_false List.not_mem_nil ?_, .nil⟩
    intro stands
    rw [only place stands, alone] at stands
    cases stands
  | some a =>
    rw [own] at alone
    refine ⟨[[0]], List.pairwise_singleton _ _, fun place => ?_, .cons alone .nil⟩
    rw [List.mem_singleton]
    constructor
    · rintro rfl
      rw [alone]
      rfl
    · exact only place

lemma ListsAll.module {attributes : List Attribute} {front : List Code} {name : String}
    {innerAttributes : List Attribute} {items : List Item} {found : List (Scoped α)}
    (inner : k.ListsAll (root.join name) items found) :
    k.ListsAll root [.module attributes front name innerAttributes items] found := by
  obtain ⟨places, sorted, mem_iff, beside⟩ := inner
  have within : ∀ place,
      k.at? root [.module attributes front name innerAttributes items] (0 :: place) =
        k.at? (root.join name) items place := by
    intro place
    cases place with
    | nil => exact Option.map_eq_none_iff.mpr (k.of_module ..)
    | cons next place => exact Option.bind_map
  refine ⟨places.map (0 :: ·), ?_, fun place => ?_, ?_⟩
  · exact sorted.map _ fun _ _ before => List.cons_lt_cons_iff.mpr (Or.inr ⟨rfl, before⟩)
  · rw [List.mem_map]
    constructor
    · rintro ⟨place, listed, rfl⟩
      rw [within]
      exact (mem_iff place).mp listed
    · intro stands
      obtain ⟨place, rfl⟩ := exists_of_at?_single stands
      rw [within] at stands
      exact ⟨place, (mem_iff place).mpr stands, rfl⟩
  · refine List.forall₂_map_left_iff.mpr (beside.imp fun place placed stands => ?_)
    rwa [within]

mutual

lemma listsAll_scoped (k : ItemKind α) (current : Namespace) (item : Item) :
    k.ListsAll current [item] (k.among (item.scoped current)) := by
  cases shape : item.isModule with
  | true =>
    cases item with
    | module attributes front name innerAttributes items =>
      exact .module (listsAll_scopedIn k (current.join name) items)
    | _ => cases shape
  | false =>
    rw [k.among_scoped current item shape]
    exact .leaf shape

lemma listsAll_scopedIn (k : ItemKind α) (current : Namespace) (items : List Item) :
    k.ListsAll current items (k.among (Item.scopedIn current items)) := by
  cases items with
  | nil =>
    rw [Item.scopedIn, k.among_nil]
    exact .nil
  | cons item rest =>
    rw [Item.scopedIn, k.among_append]
    exact .cons (listsAll_scoped k current item) (listsAll_scopedIn k current rest)

end

end ItemKind

/-- The second walk over the modules of a tree takes exactly the namespaces of the first, and so
lists all structs, enums, traits and implementations in the modules, those of each kind in source
order, with the namespaces that the names of the modules around them stand for. -/
theorem walks_list_all (root : Namespace) (items : List Item) :
    collect (namespaces root items) items = some (scopedItems root items, []) ∧
      ItemKind.structs.ListsAll root items (scopedItems root items).structs ∧
      ItemKind.enums.ListsAll root items (scopedItems root items).enums ∧
      ItemKind.traits.ListsAll root items (scopedItems root items).traits ∧
      ItemKind.impls.ListsAll root items (scopedItems root items).impls := by
  have aligned : collect (namespaces root items) items =
      some (Item.scopedIn root items, []) := by
    have whole := Item.collectAll_eq root [] items
    rwa [List.append_nil] at whole
  rw [scopedItems_eq]
  exact ⟨aligned, ItemKind.structs.listsAll_scopedIn root items,
    ItemKind.enums.listsAll_scopedIn root items, ItemKind.traits.listsAll_scopedIn root items,
    ItemKind.impls.listsAll_scopedIn root items⟩

end MemberMapping
