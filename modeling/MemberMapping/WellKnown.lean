import MemberMapping.TypeRef

/-!
Well-known types, which get a treatment of their own.

They are recognized by name and, where the reference has a scope, by scope as well: an unqualified
reference is taken for the well-known type of that name.
-/

namespace MemberMapping

/-- The types treated specially in one run. -/
structure WellKnown where
  /-- The context threaded through generated constructors. -/
  mappingContext : TypePath := .plain ⟨"mapto"⟩ "MappingContext"
  /-- The conversion capability of converters, from its first argument to its second. -/
  typeConverter : TypePath := .plain ⟨"mapto"⟩ "TypeConverter"
  /-- Collections mapped element by element. -/
  enumerables : List TypePath :=
    [ .plain ⟨"std::vec"⟩ "Vec",
      .plain ⟨"std::collections"⟩ "VecDeque",
      .plain ⟨"std::collections"⟩ "LinkedList",
      .plain ⟨"std::collections"⟩ "HashSet",
      .plain ⟨"std::collections"⟩ "BTreeSet",
      .plain ⟨"std::collections"⟩ "BinaryHeap" ]
  /-- The optional wrapper. -/
  optional : TypePath := .plain ⟨"std::option"⟩ "Option"
  /-- The namespace of the runtime, imported everywhere. -/
  runtimeScope : Namespace := ⟨"std"⟩
  /-- The namespace of the support library, imported everywhere. -/
  supportScope : Namespace := ⟨"mapto"⟩

namespace WellKnown

/-- The reference `path` means the type `known`. Arguments do not count. -/
def recognizes (known path : TypePath) : Bool :=
  known.name == path.name && (path.scope.isGlobal || known.scope == path.scope)

def isEnumerable (w : WellKnown) (path : TypePath) : Bool :=
  w.enumerables.any (recognizes · path)

def isTypeConverter (w : WellKnown) (path : TypePath) : Bool :=
  recognizes w.typeConverter path

def isMappingContext (w : WellKnown) (path : TypePath) : Bool :=
  recognizes w.mappingContext path

def isOptional (w : WellKnown) (path : TypePath) : Bool :=
  path.args.length == 1 && recognizes w.optional path

def withEnumerable (w : WellKnown) (path : TypePath) : WellKnown :=
  { w with enumerables := w.enumerables ++ [path] }

end WellKnown

end MemberMapping
