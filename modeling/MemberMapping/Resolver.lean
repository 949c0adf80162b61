import MemberMapping.Compatibility
import MemberMapping.Diagnostic
import MemberMapping.Imports
import MemberMapping.Matching
import MemberMapping.Model

/-!
Resolving the members of one target type against its source.

A resolver carries the diagnostics and imports gathered so far. Conversions are tried in a fixed
order and the first that applies is taken: direct assignment, the converter of the member, the
mapping of its type, the mapping of its elements. Once there is a diagnostic, direct assignment
alone is tried.
-/

namespace MemberMapping

namespace Schema

/-- The declaration of `target` is mapped from `source`. -/
def mapsFrom (s : Schema) (target source : Ty) : Bool :=
  match s.typeOf? target, source.asPath? with
  | some d, some path =>
    match d.mapFrom? with
    | some mapped => mapped.definitionName == path.definitionName
    | none => false
  | _, _ => false

/-- The converter is declared and has the converter capability from exactly `source` to exactly
`target`, itself or through a base. -/
def isValidConverter (s : Schema) (converter : TypePath) (source target : Ty) : Bool :=
  match s.typeDef? converter with
  | some d => (s.allInterfaces d).any fun interface =>
      s.known.isTypeConverter interface && interface.args == [source, target]
  | none => false

/-- The conversion by the mapping of the type or, for collections, of their elements. -/
def nestedConversion? (s : Schema) (source target : Ty) : Option Conversion :=
  if s.mapsFrom target source then some (.nested source)
  else if target.isPrimitive then none
  else
    match s.enumerableElement? target, s.enumerableElement? source with
    | some element, some sourceElement =>
      if s.mapsFrom element sourceElement then some (.enumerable sourceElement element) else none
    | _, _ => none

end Schema

/-- The state while one target type is resolved. -/
structure Resolver where
  diagnostics : Diagnostics
  imports : Imports

inductive Resolution
  | mapped (member : MappedMember)
  /-- It has no counterpart. -/
  | unmatched
  /-- It has a counterpart but no conversion applies. -/
  | unresolved

namespace Resolver

/-- The state before the first member of `target`. -/
def initial (s : Schema) (target : TypeDef) : Resolver :=
  ⟨[], .initial target.scope s.known⟩

def report (r : Resolver) (d : Diagnostic) : Resolver :=
  { r with diagnostics := r.diagnostics ++ [d] }

def register (r : Resolver) (ns : Namespace) : Resolver :=
  { r with imports := r.imports.register ns }

/-- The conversion of a pair of members; where there is none, the diagnostic that says so. -/
def conversion (s : Schema) (target : TypeDef) (r : Resolver) (member source : Member) :
    Except (Option Diagnostic) Conversion :=
  if s.isCompatible source.ty member.ty then .ok .direct
  else if !r.diagnostics.isEmpty then .error none
  else
    match member.converter? with
    | some (converter, parameters) =>
      if s.isValidConverter converter source.ty member.ty then .ok (.converter converter parameters)
      else .error (some (.invalidConverterGenericArguments target member source converter))
    | none =>
      match s.nestedConversion? source.ty member.ty with
      | some conversion => .ok conversion
      | none => .error (some (.noMatchingPropertyTypeFound target member))

/-- The types whose scopes a mapped member brings in, in order. -/
def importedTypes (member : Member) : Conversion → List Ty
  | .nested source => [member.ty, source]
  | .enumerable sourceElement element => [member.ty, element, sourceElement]
  | _ => [member.ty]

/-- Maps a pair of members. Without a conversion the diagnostic is kept only if `reports`. -/
def resolvePair (s : Schema) (target : TypeDef) (r : Resolver) (member source : Member)
    (reports : Bool) : Option MappedMember × Resolver :=
  match conversion s target r member source with
  | .ok conversion =>
    let mapped : MappedMember :=
      { name := member.name, ty := member.ty, sourceName := source.name, sourceTy := source.ty,
        conversion := conversion, readOnly := member.readOnly }
    let imports := (importedTypes member conversion).foldl Imports.registerTy r.imports
    (some mapped, { r with imports := imports })
  | .error (some d) => (none, if reports then r.report d else r)
  | .error none => (none, r)

/-- Resolves a target member against the source candidates. -/
def resolve (s : Schema) (target : TypeDef) (r : Resolver) (member : Member)
    (candidates : List Member) : Resolution × Resolver :=
  match findSource? candidates member with
  | none => (.unmatched, r)
  | some source =>
    match resolvePair s target r member source true with
    | (some mapped, after) => (.mapped mapped, after)
    | (none, after) => (.unresolved, after)

/-- Resolves the target member that maps from `source`, without reporting. -/
def resolveReverse (s : Schema) (target : TypeDef) (r : Resolver) (source : Member)
    (targets : List Member) : Option MappedMember × Resolver :=
  match findTarget? targets source with
  | none => (none, r)
  | some member => resolvePair s target r member source false

end Resolver

end MemberMapping
