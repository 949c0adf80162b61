import MemberMapping.Declaration

/-!
Members that belong together: a target member reads the source member that has its lookup name.
-/

namespace MemberMapping

/-- The first candidate with the lookup name of `target`. -/
def findSource? (candidates : List Member) (target : Member) : Option Member :=
  candidates.find? (·.name == target.lookupName)

/-- The first target whose lookup name is the name of `source`. -/
def findTarget? (targets : List Member) (source : Member) : Option Member :=
  targets.find? (·.lookupName == source.name)

end MemberMapping
