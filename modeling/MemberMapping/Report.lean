import MemberMapping.Assembly
import MemberMapping.Json

/-!
Plans and diagnostics as JSON.
-/

namespace MemberMapping

def Primitive.toJson (p : Primitive) : Json :=
  .string (Text.asciiLower p.name)

mutual

def Ty.toJson : Ty → Json
  | .primitive scalar => .record [("kind", .string "primitive"), ("type", scalar.toJson)]
  | .path target => .record [("kind", .string "path"), ("type", target.toJson)]
  | .dyn interface => .record [("kind", .string "dyn"), ("type", interface.toJson)]

def TypePath.toJson : TypePath → Json
  | ⟨scope, name, args⟩ =>
    .record [("namespace", .string scope.text), ("name", .string name),
      ("args", .array (Ty.listToJson args))]

def Ty.listToJson : List Ty → List Json
  | [] => []
  | ty :: rest => ty.toJson :: Ty.listToJson rest

end

/-- A literal as a plain value; a number that is not finite has none. -/
def Literal.toJson : Literal → Json
  | bool b => .bool b
  | int n => .int n.toInt
  | float x => .float x
  | string s => .string s
  | char c => .string (String.singleton c)

def Options.toJson (o : Options) : Json :=
  .record
    [ ("generated_methods_access_modifier", .string o.access.name),
      ("support_nullable_reference_types", .bool o.nullable),
      ("generate_xml_document", .bool o.docs) ]

def Conversion.toJson : Conversion → Json
  | direct => .record [("kind", .string "direct")]
  | converter path parameters =>
    .record [("kind", .string "converter"), ("converter", path.toJson),
      ("parameters", .ofList Literal.toJson parameters)]
  | nested source => .record [("kind", .string "nested"), ("source", source.toJson)]
  | enumerable sourceElement element =>
    .record [("kind", .string "enumerable"), ("source_element", sourceElement.toJson),
      ("element", element.toJson)]

def MappedMember.toJson (m : MappedMember) : Json :=
  .record
    [ ("name", .string m.name), ("ty", m.ty.toJson), ("source_name", .string m.sourceName),
      ("source_ty", m.sourceTy.toJson), ("conversion", m.conversion.toJson),
      ("read_only", .bool m.readOnly) ]

def ExtraParameter.toJson (p : ExtraParameter) : Json :=
  .record [("name", .string p.name), ("ty", p.ty.toJson), ("read_only", .bool p.readOnly)]

def MappingModel.toJson (m : MappingModel) : Json :=
  .record
    [ ("options", m.options.toJson), ("namespace", .string m.scope.text),
      ("kind", .string m.kind.name), ("type_name", .string m.typeName),
      ("source_namespace", .string m.sourceScope.text),
      ("source_type_name", .string m.sourceTypeName),
      ("source_full_name", .string m.sourceFullName), ("updatable", .bool m.updatable),
      ("json_extension", .bool m.jsonExtension), ("has_base_class", .bool m.hasBaseClass),
      ("base_type", .ofOption TypePath.toJson m.baseType),
      ("base_source", .ofOption TypePath.toJson m.baseSource),
      ("source_members", .ofList MappedMember.toJson m.sourceMembers),
      ("type_members", .ofList MappedMember.toJson m.typeMembers),
      ("extra_parameters", .ofList ExtraParameter.toJson m.extraParameters),
      ("imports", .ofList (fun ns => .string ns.text) m.imports),
      ("generate_secondary_constructor", .bool m.generateSecondaryConstructor) ]

def Location.toJson (l : Location) : Json :=
  .record [("type_name", .string l.typeName), ("member", .ofOption .string l.member)]

def Diagnostic.toJson (d : Diagnostic) : Json :=
  .record [("kind", .string d.kind.name), ("location", d.location.toJson),
    ("message", .string d.message)]

def Generation.toJson (g : Generation) : Json :=
  .record [("models", .ofList MappingModel.toJson g.models),
    ("diagnostics", .ofList Diagnostic.toJson g.diagnostics)]

end MemberMapping
