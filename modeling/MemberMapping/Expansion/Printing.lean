import MemberMapping.Expansion.MappingCode
import MemberMapping.Text.Quoted

/-!
The tokens of generated code.

The code stands in a scope of its own, which names the support library, except for the extension
trait, which is declared next to the target so that it can be imported with it.
-/

namespace MemberMapping

namespace Printing

def name (text : String) : List Token := [.ident text]

def op (text : String) : List Token := Token.operator text

def parens (inner : List Token) : List Token := [.group .paren inner]

def brackets (inner : List Token) : List Token := [.group .bracket inner]

def braces (inner : List Token) : List Token := [.group .brace inner]

def commas (parts : List (List Token)) : List Token := separated (op ",") false parts

def namesOf (texts : List String) : List Token := texts.map .ident

/-- A path of names from the root of all crates. -/
def rootPath (names : List String) : List Token := NamePath.tokens ⟨true, names⟩

/-- A path of names from where the code stands. -/
def localPath (names : List String) : List Token := NamePath.tokens ⟨false, names⟩

def support (names : List String) : List Token := localPath ("_mapto" :: names)

def lifetime : List Token := [.lifetime "a"]

def literal : Literal → List Token
  | .bool b => name (if b then "true" else "false")
  | .int n =>
    (if n < 0 then op "-" else []) ++ [.literal (toString n.toInt.natAbs ++ "i64")]
  | .float x =>
    let text := (Decimal.NumberForm.source.write x).toList
    match text with
    | '-' :: digits => op "-" ++ [.literal (String.ofList digits ++ "f64")]
    | digits => [.literal (String.ofList digits ++ "f64")]
  | .string s => [.literal (Text.quotedInSource s)]
  | .char c => [.literal (Text.quotedChar c)]

/-- The expression that reads a field. -/
def place (p : FieldPath) : List Token :=
  .ident p.binding :: p.fields.flatMap fun field => op "." ++ [field.token]

def clone (p : FieldPath) : List Token :=
  rootPath ["core", "clone", "Clone", "clone"] ++ parens (op "&" ++ place p)

def throughContext (argument : List Token) : List Token :=
  name MappingCode.context ++ op "." ++ name "map_from_with_context" ++ parens argument

def newContext : List Token :=
  op "&" ++ name "mut" ++ support ["MappingContext", "new"] ++ parens []

def value : MemberValue → List Token
  | .cloned p => clone p
  | .boxed p => rootPath ["std", "boxed", "Box", "new"] ++ parens (clone p)
  | .lifted p => rootPath ["core", "convert", "Into", "into"] ++ parens (clone p)
  | .converted converter p parameters =>
    let prototype := op "&" ++ op "<" ++ converter.tokens ++ name "as" ++
      rootPath ["core", "default", "Default"] ++ op ">" ++ op "::" ++ name "default" ++ parens []
    let arguments := parameters.map fun parameter =>
      support ["Param", "from"] ++ parens (literal parameter)
    support ["TypeConverter", "convert"] ++
      parens (prototype ++ op "," ++ clone p ++ op "," ++ op "&" ++ brackets (commas arguments) ++
        op ",")
  | .mapped p => throughContext (op "&" ++ place p)
  | .mappedEach p =>
    place p ++ op "." ++ name "iter" ++ parens [] ++ op "." ++ name "map" ++
      parens (op "|" ++ name "element" ++ op "|" ++ throughContext (name "element")) ++
      op "." ++ name "collect" ++ parens []
  | .parameter binding => name binding
  | .unset => rootPath ["core", "default", "Default", "default"] ++ parens []

/-- The expression of what the inherited part is mapped from. -/
def partSource (source : String) : PartSource → List Token
  | .whole => name source
  | .part p => op "&" ++ place p
  | .view => rootPath ["core", "convert", "AsRef", "as_ref"] ++ parens (name source)

def partValue (source : String) (ty : TypeExpr) (origin : PartSource) : List Token :=
  op "<" ++ ty.tokens ++ name "as" ++ support ["MapFrom"] ++ op "<" ++ name "_" ++ op ">>" ++
    op "::" ++ name "map_from_with_context" ++
    parens (name MappingCode.context ++ op "," ++ partSource source origin)

/-- The expression that builds the target. -/
def construction (source : String) : Construction → List Token
  | .fields base values =>
    let inherited := match base with
      | some (field, ty, origin) =>
        name field ++ op ":" ++ partValue source ty origin ++ op ","
      | none => []
    let fields := values.map fun (field, v) => [field.token] ++ op ":" ++ value v
    name "Self" ++ braces (inherited ++ commas fields)
  | .call constructor values =>
    let callee := match constructor with
      | some written => localPath ["Self", written]
      | none => name "Self"
    callee ++ parens (commas (values.map value))
  | .unit => name "Self"

def visibility : Access → List Token
  | .publicAccess => name "pub"
  | .internalAccess => name "pub" ++ parens (name "crate")
  | .privateAccess => []

/-- A documentation attribute, where documentation is asked for. -/
def doc (options : Options) (text : String) : List Token :=
  if options.docs then
    op "#" ++ brackets (name "doc" ++ op "=" ++ [.literal (Text.quotedInSource (" " ++ text))])
  else []

def inDoc (text : String) : String := "`" ++ text ++ "`"

def contextParameter : List Token :=
  name MappingCode.context ++ op ":" ++ op "&" ++ name "mut" ++ support ["MappingContext"] ++
    op "<" ++ lifetime ++ op ">"

/-- The parameter that takes the source, for the lifetime of what the context refers to. -/
def contextSource (code : MappingCode) : List Token :=
  name code.source ++ op ":" ++ op "&" ++ lifetime ++ code.sourcePath.tokens

def sourceParameter (code : MappingCode) : List Token :=
  name code.source ++ op ":" ++ op "&" ++ code.sourcePath.tokens

def parameters (code : MappingCode) : List Token :=
  commas (code.parameters.map fun (binding, ty) => name binding ++ op ":" ++ ty.tokens)

def arguments (code : MappingCode) : List Token :=
  commas (code.parameters.map fun (binding, _) => name binding)

def returnsSelf : List Token := op "->" ++ name "Self"

def contextConstructor (code : MappingCode) : List Token :=
  doc code.options
      ("Creates a " ++ inDoc code.targetName ++ " from a " ++ inDoc code.sourceName ++
        ", reusing values already mapped through " ++ inDoc "context" ++ ".") ++
    visibility code.options.access ++ name "fn" ++ name code.contextConstructorName ++
    op "<" ++ lifetime ++ op ">" ++
    parens (contextParameter ++ op "," ++ contextSource code ++ op "," ++ parameters code) ++
    returnsSelf ++ braces (construction code.source code.construction)

def plainConstructor (code : MappingCode) : List Token :=
  doc code.options
      ("Creates a " ++ inDoc code.targetName ++ " from a " ++ inDoc code.sourceName ++ ".") ++
    visibility code.options.access ++ name "fn" ++ name code.constructorName ++
    parens (sourceParameter code ++ op "," ++ parameters code) ++ returnsSelf ++
    braces (localPath ["Self", code.contextConstructorName] ++
      parens (newContext ++ op "," ++ name code.source ++ op "," ++ arguments code))

def updateMethod (code : MappingCode) (update : UpdateCode) : List Token :=
  let context :=
    if update.needsContext then
      name "let" ++ name MappingCode.context ++ op "=" ++ newContext ++ op ";"
    else []
  let assignments := update.assignments.flatMap fun (field, v) =>
    name "self" ++ op "." ++ [field.token] ++ op "=" ++ value v ++ op ";"
  doc code.options
      ("Overwrites the writable members of this " ++ inDoc code.targetName ++
        " with the values of a " ++ inDoc code.sourceName ++ ".") ++
    visibility code.options.access ++ name "fn" ++ name code.updateName ++
    parens (op "&" ++ namesOf ["mut", "self"] ++ op "," ++ sourceParameter code) ++
    braces (context ++ assignments)

def jsonMethod (code : MappingCode) : List Token :=
  doc code.options ("Serializes this " ++ inDoc code.targetName ++ " to a JSON string.") ++
    visibility code.options.access ++ namesOf ["fn", "to_json"] ++
    parens (op "&" ++ name "self") ++ op "->" ++ support ["serde_json", "Result"] ++ op "<" ++
    rootPath ["std", "string", "String"] ++ op ">" ++
    braces (support ["serde_json", "to_string"] ++ parens (name "self"))

def methods (code : MappingCode) : List Token :=
  contextConstructor code ++
    (if code.secondary then plainConstructor code else []) ++
    ((code.update.map (updateMethod code)).getD []) ++
    (if code.writesJson then jsonMethod code else [])

/-- The body of a conversion: the constructor called with a context. -/
def callsConstructor (code : MappingCode) (context : List Token) : List Token :=
  braces (localPath ["Self", code.contextConstructorName] ++
    parens (context ++ op "," ++ name code.source))

def mapFromImpl (code : MappingCode) : List Token :=
  name "impl" ++ support ["MapFrom"] ++ op "<" ++ code.sourcePath.tokens ++ op ">" ++
    name "for" ++ name code.target ++
    braces (namesOf ["fn", "map_from_with_context"] ++ op "<" ++ lifetime ++ op ">" ++
      parens (contextParameter ++ op "," ++ contextSource code ++ op ",") ++ returnsSelf ++
      callsConstructor code (name MappingCode.context))

def fromImpl (code : MappingCode) : List Token :=
  name "impl" ++ rootPath ["core", "convert", "From"] ++ op "<" ++ op "&" ++
    code.sourcePath.tokens ++ op ">" ++ name "for" ++ name code.target ++
    braces (namesOf ["fn", "from"] ++ parens (sourceParameter code) ++ returnsSelf ++
      callsConstructor code newContext)

/-- The method of the extension trait, without body. -/
def methodHead (code : MappingCode) : List Token :=
  name "fn" ++ name code.methodName ++ parens (name "self") ++ op "->" ++
    localPath ["Self", "Output"]

def traitImpl (code : MappingCode) : List Token :=
  namesOf ["impl", code.traitName, "for"] ++ op "&" ++ code.sourcePath.tokens ++
    braces (namesOf ["type", "Output"] ++ op "=" ++ name code.target ++ op ";" ++
      methodHead code ++
      braces (op "<" ++ namesOf [code.target, "as"] ++ rootPath ["core", "convert", "From"] ++
        op "<" ++ name "Self" ++ op ">>" ++ op "::" ++ name "from" ++ parens (name "self")))

def optionalTraitImpl (code : MappingCode) : List Token :=
  let option := rootPath ["core", "option", "Option"]
  namesOf ["impl", code.traitName, "for"] ++ option ++ op "<" ++ op "&" ++
    code.sourcePath.tokens ++ op ">" ++
    braces (namesOf ["type", "Output"] ++ op "=" ++ option ++ op "<" ++ name code.target ++
      op ">" ++ op ";" ++ methodHead code ++
      braces (name "self" ++ op "." ++ name "map" ++
        parens (op "<" ++ namesOf [code.target, "as"] ++ rootPath ["core", "convert", "From"] ++
          op "<" ++ op "&" ++ code.sourcePath.tokens ++ op ">>" ++ op "::" ++ name "from")))

/-- The conversions of the target. -/
def conversions (code : MappingCode) : List Token :=
  if code.converts then
    mapFromImpl code ++ fromImpl code ++ traitImpl code ++
      (if code.options.nullable then optionalTraitImpl code else [])
  else []

def extensionTrait (code : MappingCode) : List Token :=
  if code.converts then
    doc code.options
        ("Maps a " ++ inDoc code.sourceName ++ " into a " ++ inDoc code.targetName ++ ".") ++
      visibility code.options.access ++ namesOf ["trait", code.traitName] ++
      braces (namesOf ["type", "Output"] ++ op ";" ++ methodHead code ++ op ";")
  else []

end Printing

def MappingCode.tokens (code : MappingCode) : List Token :=
  Printing.extensionTrait code ++ Printing.namesOf ["const", "_"] ++ Printing.op ":" ++
    Printing.parens [] ++ Printing.op "=" ++
    Printing.braces
      (Printing.name "use" ++ Printing.rootPath ["mapto"] ++ Printing.namesOf ["as", "_mapto"] ++
        Printing.op ";" ++ Printing.namesOf ["impl", code.target] ++
        Printing.braces (Printing.methods code) ++ Printing.conversions code) ++
    Printing.op ";"

end MemberMapping
