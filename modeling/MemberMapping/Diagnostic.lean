import MemberMapping.Declaration

/-!
Diagnostics: why a type could not be mapped. They are collected per type, in the order in which
they arise; a type with diagnostics is left out, and the others are not touched by it.
-/

namespace MemberMapping

inductive DiagnosticKind
  /-- The type to be mapped is not declared. -/
  | typeNotFound
  /-- There is no source type, or it is not declared. -/
  | mapFromAttributeNotFound
  /-- No member of the target has a counterpart. -/
  | noMatchingPropertyFound
  /-- A member has a counterpart but no conversion applies. -/
  | noMatchingPropertyTypeFound
  /-- A converter does not convert between the types of the two members. -/
  | invalidConverterGenericArguments
  /-- A constructor taking the source does not hand on a context and the source. -/
  | missingConstructorArgument
deriving DecidableEq, Repr

namespace DiagnosticKind

def code : DiagnosticKind → String
  | typeNotFound => "MT0001"
  | mapFromAttributeNotFound => "MT0002"
  | noMatchingPropertyFound => "MT0003"
  | noMatchingPropertyTypeFound => "MT0004"
  | invalidConverterGenericArguments => "MT0005"
  | missingConstructorArgument => "MT0006"

def title : DiagnosticKind → String
  | typeNotFound => "type not found"
  | mapFromAttributeNotFound => "map-from source type not found"
  | noMatchingPropertyFound => "no matching property found"
  | noMatchingPropertyTypeFound => "no matching property type found"
  | invalidConverterGenericArguments => "invalid converter generic arguments"
  | missingConstructorArgument => "missing constructor argument"

def name : DiagnosticKind → String
  | typeNotFound => "type_not_found"
  | mapFromAttributeNotFound => "map_from_attribute_not_found"
  | noMatchingPropertyFound => "no_matching_property_found"
  | noMatchingPropertyTypeFound => "no_matching_property_type_found"
  | invalidConverterGenericArguments => "invalid_converter_generic_arguments"
  | missingConstructorArgument => "missing_constructor_argument"

end DiagnosticKind

inductive Severity
  | warning | error
deriving DecidableEq, Repr

def Severity.name : Severity → String
  | warning => "warning"
  | error => "error"

def DiagnosticKind.severity (_ : DiagnosticKind) : Severity := .error

/-- Where a diagnostic applies: a type and possibly one of its members. -/
structure Location where
  typeName : String
  member : Option String := none
deriving DecidableEq, Repr

def Location.display (l : Location) : String :=
  match l.member with
  | some member => l.typeName ++ "." ++ member
  | none => l.typeName

structure Diagnostic where
  kind : DiagnosticKind
  location : Location
  message : String
deriving DecidableEq, Repr

/-- Diagnostics in the order in which they arose. -/
abbrev Diagnostics := List Diagnostic

namespace Diagnostic

def typeNotFound (name : String) : Diagnostic :=
  ⟨.typeNotFound, ⟨name, none⟩, "unable to find type `" ++ name ++ "`"⟩

def mapFromAttributeNotFound (target : TypeDef) : Diagnostic :=
  let message := match target.mapFrom? with
    | some source =>
      "`" ++ target.name ++ "` maps from `" ++ source.fullName ++ "`, which is not declared"
    | none => "`" ++ target.name ++ "` has no map-from source type"
  ⟨.mapFromAttributeNotFound, ⟨target.name, none⟩, message⟩

def noMatchingPropertyFound (target source : TypeDef) : Diagnostic :=
  ⟨.noMatchingPropertyFound, ⟨target.name, none⟩,
    "type `" ++ target.name ++ "` does not have any members matching `" ++ source.name ++ "`"⟩

def noMatchingPropertyTypeFound (target : TypeDef) (member : Member) : Diagnostic :=
  ⟨.noMatchingPropertyTypeFound, ⟨target.name, some member.name⟩,
    "cannot map `" ++ member.name ++ "` because the source and destination types are not " ++
      "implicitly convertible; consider a type converter or ignoring the member"⟩

def invalidConverterGenericArguments (target : TypeDef) (member source : Member)
    (converter : TypePath) : Diagnostic :=
  ⟨.invalidConverterGenericArguments, ⟨target.name, some member.name⟩,
    "converter `" ++ converter.display ++ "` on `" ++ member.name ++
      "` must implement `TypeConverter<" ++ source.ty.display ++ ", " ++ member.ty.display ++ ">`"⟩

def missingConstructorArgument (target source : TypeDef) : Diagnostic :=
  ⟨.missingConstructorArgument, ⟨target.name, none⟩,
    "the constructor of `" ++ target.name ++ "` taking `" ++ source.name ++
      "` must forward a mapping context and the source instance"⟩

def severity (d : Diagnostic) : Severity := d.kind.severity

def isError (d : Diagnostic) : Bool := d.severity == .error

def display (d : Diagnostic) : String :=
  d.severity.name ++ "[" ++ d.kind.code ++ "] " ++ d.location.display ++ ": " ++ d.message

end Diagnostic

namespace Diagnostics

def hasErrors (ds : Diagnostics) : Bool := ds.any (·.isError)

def kinds (ds : Diagnostics) : List DiagnosticKind := ds.map (·.kind)

end Diagnostics

end MemberMapping
