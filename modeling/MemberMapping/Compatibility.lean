import MemberMapping.Schema

/-!
Which values can be assigned without an explicit conversion: those of the same type, scalars that
widen without loss, the content of an optional, and implementations of a boxed interface.
-/

namespace MemberMapping

namespace Schema

/-- A value of type `source` can be assigned to a member of type `target` as it is. -/
def isCompatible (s : Schema) (source target : Ty) : Bool :=
  source == target ||
    match source, target with
    | .primitive p, .primitive q => p.widensTo q
    | _, .path wrapper =>
      s.known.isOptional wrapper && wrapper.args.head? == some source
    | .path path, .dyn interface => s.implements path interface
    | _, _ => false

end Schema

namespace Ty

/-- The assignment widens or lifts the value. Boxing does neither. -/
def needsConversion (source target : Ty) : Bool :=
  source != target && !target matches .dyn _

end Ty

end MemberMapping
