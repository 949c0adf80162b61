/-!
Sets of characters written as ranges of code points.

A set of a standard is a table of ranges in ascending order. Tables hold code points from 128 up;
the ASCII part of a set is written out by the set itself.
-/

namespace MemberMapping.Text

/-- Ranges of code points, both ends included. -/
abbrev CodePoints := List (Nat × Nat)

/-- Ranges of code points that take every first or every second one: first, last and distance. -/
abbrev SpacedCodePoints := List (Nat × Nat × Nat)

def CodePoints.contains (table : CodePoints) (c : Char) : Bool :=
  table.any fun (first, last) => first ≤ c.toNat && c.toNat ≤ last

def SpacedCodePoints.contains (table : SpacedCodePoints) (c : Char) : Bool :=
  table.any fun (first, last, step) =>
    first ≤ c.toNat && c.toNat ≤ last && (c.toNat - first) % step == 0

end MemberMapping.Text
