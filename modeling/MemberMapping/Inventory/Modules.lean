import MemberMapping.Program.Item
import MemberMapping.TypeRef

/-!
The modules of a program: their namespaces, and the items in them with the namespace of each.

The namespaces are listed by one walk over the tree of modules, each before those of the modules in
it. A second walk takes them from that list one by one as it enters the modules.
-/

namespace MemberMapping

mutual

/-- The namespaces of the modules in an item that stands in `current`. -/
def Item.namespaces (current : Namespace) : Item → List Namespace
  | .module _ _ name _ items => current.join name :: Item.namespacesIn (current.join name) items
  | _ => []

/-- The namespaces of the modules in items that stand in `current`. -/
def Item.namespacesIn (current : Namespace) : List Item → List Namespace
  | [] => []
  | item :: rest => item.namespaces current ++ Item.namespacesIn current rest

end

/-- The namespaces of a tree of modules, outer ones before inner ones. -/
def namespaces (root : Namespace) (items : List Item) : List Namespace :=
  root :: Item.namespacesIn root items

structure Scoped (α : Type) where
  scope : Namespace
  item : α

/-- The items of a tree of modules that a mapping looks into, by kind and in source order. -/
structure ScopedItems where
  structs : List (Scoped StructItem) := []
  enums : List (Scoped EnumItem) := []
  traits : List (Scoped TraitItem) := []
  impls : List (Scoped ImplItem) := []

def ScopedItems.append (first second : ScopedItems) : ScopedItems :=
  ⟨first.structs ++ second.structs, first.enums ++ second.enums, first.traits ++ second.traits,
    first.impls ++ second.impls⟩

instance : Append ScopedItems := ⟨ScopedItems.append⟩

mutual

/-- Collects an item that stands in `current`. A module takes its namespace from those `pending`;
what is left of them is handed on. -/
def Item.collect (current : Namespace) (pending : List Namespace) :
    Item → Option (ScopedItems × List Namespace)
  | .struct item => some ({ structs := [⟨current, item⟩] }, pending)
  | .enum item => some ({ enums := [⟨current, item⟩] }, pending)
  | .trait item => some ({ traits := [⟨current, item⟩] }, pending)
  | .impl item => some ({ impls := [⟨current, item⟩] }, pending)
  | .module _ _ _ _ items =>
    match pending with
    | [] => none
    | scope :: pending => Item.collectAll scope pending items
  | _ => some ({}, pending)

/-- Collects items that stand in `current`. -/
def Item.collectAll (current : Namespace) (pending : List Namespace) :
    List Item → Option (ScopedItems × List Namespace)
  | [] => some ({}, pending)
  | item :: rest =>
    match item.collect current pending with
    | none => none
    | some (first, pending) =>
      match Item.collectAll current pending rest with
      | none => none
      | some (others, pending) => some (first ++ others, pending)

end

/-- Collects the items of a tree of modules with its namespaces, and gives the namespaces back that
were not needed; nothing where they do not suffice. -/
def collect (namespaces : List Namespace) (items : List Item) :
    Option (ScopedItems × List Namespace) :=
  match namespaces with
  | [] => none
  | root :: pending => Item.collectAll root pending items

def scopedItems (root : Namespace) (items : List Item) : ScopedItems :=
  ((collect (namespaces root items) items).map (·.1)).getD {}

end MemberMapping
