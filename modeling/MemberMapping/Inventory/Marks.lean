import MemberMapping.Inventory.Arguments

/-!
What the attributes of a struct, a field or a parameter say about the mapping.

The attributes are read in order. One that cannot be used says nothing, and the faults of all are
reported together.
-/

namespace MemberMapping

/-- What the attributes before some point say, and the faults of those that say nothing. -/
structure Marked (α : Type) where
  marks : α
  faults : List AttributeFault := []

namespace Marked

variable {α : Type}

def take (m : Marked α) : Except AttributeFault α → Marked α
  | .ok marks => ⟨marks, m.faults⟩
  | .error fault => ⟨m.marks, m.faults ++ [fault]⟩

def result (m : Marked α) : Except (List AttributeFault) α :=
  if m.faults.isEmpty then .ok m.marks else .error m.faults

def step (add : α → Attribute → Except AttributeFault α) (m : Marked α) (a : Attribute) :
    Marked α :=
  m.take (add m.marks a)

/-- Reads attributes in order. -/
def ofAttributes (add : α → Attribute → Except AttributeFault α) (start : α)
    (attributes : List Attribute) : Except (List AttributeFault) α :=
  (attributes.foldl (step add) ⟨start, []⟩).result

end Marked

structure TypeMarks where
  /-- The source type as it is written. -/
  source : Option PathExpr := none
  update : Bool := false
  json : Bool := false

namespace TypeMarks

def add (marks : TypeMarks) (a : Attribute) : Except AttributeFault TypeMarks :=
  if a.path.isName "map_from" then
    if marks.source.isSome then .error (.duplicate "map_from")
    else do
      let source ← a.readArguments "map_from" fun g => g.path false
      return { marks with source := some source }
  else if a.path.isName "use_update" then do
    return { marks with update := ← a.flag "use_update" marks.update }
  else if a.path.isName "json_extension" then do
    return { marks with json := ← a.flag "json_extension" marks.json }
  else .ok marks

def ofAttributes : List Attribute → Except (List AttributeFault) TypeMarks :=
  Marked.ofAttributes add {}

def isEmpty (marks : TypeMarks) : Bool :=
  marks.source.isNone && !marks.update && !marks.json

end TypeMarks

structure MemberMarks where
  /-- The name of the source member. -/
  rename : Option String := none
  ignored : Bool := false
  converter : Option ConverterMark := none
  readOnly : Bool := false
  /-- The field holds what the type inherits. -/
  base : Bool := false

namespace MemberMarks

def sourceSetting (_ : Option String) (name : NamePath) : ArgumentReader (Option String) := do
  if name.isName "source" then return some (← ArgumentReader.textValue)
  else throw .expectedSource

def renameRule : ArgumentReader String := do
  match ← ArgumentReader.settings sourceSetting none with
  | some source => return source
  | none => throw .expectedSource

def add (marks : MemberMarks) (a : Attribute) : Except AttributeFault MemberMarks :=
  if a.path.isName "map_property" then
    if marks.rename.isSome then .error (.duplicate "map_property")
    else do
      let source ← a.readArguments "map_property" fun _ => renameRule
      return { marks with rename := some source }
  else if a.path.isName "converter" then
    if marks.converter.isSome then .error (.duplicate "converter")
    else do
      let converter ← a.readArguments "converter" ConverterMark.rule
      return { marks with converter := some converter }
  else if a.path.isName "ignore_member" then do
    return { marks with ignored := ← a.flag "ignore_member" marks.ignored }
  else if a.path.isName "read_only" then do
    return { marks with readOnly := ← a.flag "read_only" marks.readOnly }
  else if a.path.isName "map_base" then do
    return { marks with base := ← a.flag "map_base" marks.base }
  else .ok marks

def ofAttributes : List Attribute → Except (List AttributeFault) MemberMarks :=
  Marked.ofAttributes add {}

end MemberMarks

end MemberMapping
