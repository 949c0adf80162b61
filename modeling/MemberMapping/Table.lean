/-!
Tables: entries by key, in the order in which their keys were first set.
-/

namespace MemberMapping

abbrev Table (α : Type) := List (String × α)

namespace Table

variable {α : Type}

def get? (t : Table α) (key : String) : Option α :=
  (t.find? (·.1 == key)).map (·.2)

def contains (t : Table α) (key : String) : Bool :=
  t.any (·.1 == key)

/-- Sets the entry of a key. A key that is there already keeps its place. -/
def set (key : String) (value : α) : Table α → Table α
  | [] => [(key, value)]
  | entry :: rest =>
    if entry.1 = key then (key, value) :: rest else entry :: set key value rest

/-- Changes the entry of a key, if there is one. -/
def update (t : Table α) (key : String) (change : α → α) : Table α :=
  t.map fun entry => if entry.1 = key then (entry.1, change entry.2) else entry

def keys (t : Table α) : List String := t.map (·.1)

def values (t : Table α) : List α := t.map (·.2)

end Table

end MemberMapping
