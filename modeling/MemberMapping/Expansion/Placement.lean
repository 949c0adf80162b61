import MemberMapping.Program.Item
import MemberMapping.TypeRef

/-!
Placing generated code in a tree of modules.

The code of a module stands behind its other items. Inner modules are served before outer ones, and
of several modules of one name the first takes all.
-/

namespace MemberMapping

/-- Generated code that is not placed yet, with the module that it belongs to. -/
abbrev Pending := List (Namespace × MappingCode)

namespace Pending

def itemsFor (pending : Pending) (scope : Namespace) : List Item :=
  (pending.filter (·.1 == scope)).map fun (_, code) => .generated code

def without (pending : Pending) (scope : Namespace) : Pending :=
  pending.filter (·.1 != scope)

end Pending

mutual

/-- Places code in the modules within an item that stands in `current`. -/
def Item.place (current : Namespace) (pending : Pending) : Item → Item × Pending
  | .module attributes front name innerAttributes items =>
    let scope := current.join name
    let (inner, pending) := Item.placeWithin scope pending items
    (.module attributes front name innerAttributes (inner ++ pending.itemsFor scope),
      pending.without scope)
  | item => (item, pending)

/-- Places code in the modules within items that stand in `current`. -/
def Item.placeWithin (current : Namespace) (pending : Pending) : List Item → List Item × Pending
  | [] => ([], pending)
  | item :: rest =>
    let (item, pending) := item.place current pending
    let (rest, pending) := Item.placeWithin current pending rest
    (item :: rest, pending)

end

/-- Places code in a tree of modules. What belongs to none of them is left. -/
def place (root : Namespace) (pending : Pending) (items : List Item) : List Item × Pending :=
  let (items, pending) := Item.placeWithin root pending items
  (items ++ pending.itemsFor root, pending.without root)

end MemberMapping
