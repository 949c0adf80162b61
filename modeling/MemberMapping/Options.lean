import MemberMapping.Fault
import MemberMapping.Text.Blank

/-!
Options of the generated code, and how they are read from build properties.

A property names an option with the prefix `mapto_`, in any letter case and with underscores
anywhere behind the prefix; a further prefix `build_property.` is allowed. All other properties are
passed over.
-/

namespace MemberMapping

inductive Access
  | publicAccess | internalAccess | privateAccess
deriving DecidableEq, Repr

namespace Access

def name : Access → String
  | publicAccess => "public"
  | internalAccess => "internal"
  | privateAccess => "private"

def ofName? (text : String) : Option Access :=
  match Text.asciiLower text with
  | "public" | "pub" => some publicAccess
  | "internal" | "crate" | "pub(crate)" => some internalAccess
  | "private" => some privateAccess
  | _ => none

/-- The visibility of that name, or the fault that names the option. -/
def read (text : String) : Except Fault Access :=
  match ofName? text with
  | some access => .ok access
  | none => .error (.invalidOption "generated_methods_access_modifier" text)

end Access

/-- Options of the generated code. None takes part in what is mapped. -/
structure Options where
  /-- Visibility of generated constructors, update and conversion methods. -/
  access : Access := .publicAccess
  /-- An optional source can be converted, too. -/
  nullable : Bool := false
  /-- Generated items carry documentation. -/
  docs : Bool := true
deriving DecidableEq, Repr

inductive OptionName
  | access | nullable | docs
deriving DecidableEq, Repr

/-- The option of that name, written in lower case without underscores. -/
def OptionName.ofName? : String → Option OptionName
  | "generatedmethodsaccessmodifier" => some .access
  | "supportnullablereferencetypes" => some .nullable
  | "generatexmldocument" => some .docs
  | _ => none

def afterPrefix? (front : String) (text : List Char) : Option (List Char) :=
  if front.toList.isPrefixOf text then some (text.drop front.length) else none

/-- The key of a property as it is compared and reported: trimmed and in lower case. -/
def propertyKey (key : String) : String :=
  Text.asciiLower (Text.trim key)

def optionOf? (key : String) : Option OptionName :=
  let text := (propertyKey key).toList
  let inner := (afterPrefix? "build_property." text).getD text
  match afterPrefix? "mapto_" inner with
  | none => none
  | some name => OptionName.ofName? (String.ofList (name.filter (· != '_')))

def readBool? (text : String) : Option Bool :=
  match Text.asciiLower text with
  | "true" => some true
  | "false" => some false
  | _ => none

namespace Options

/-- The options with one of them set from text, where the text is a value of it. -/
def set? (o : Options) (name : OptionName) (value : String) : Option Options :=
  match name with
  | .access => (Access.ofName? value).map fun access => { o with access := access }
  | .nullable => (readBool? value).map fun nullable => { o with nullable := nullable }
  | .docs => (readBool? value).map fun docs => { o with docs := docs }

def apply (o : Options) (property : String × String) : Except Fault Options :=
  match optionOf? property.1 with
  | none => .ok o
  | some name =>
    match o.set? name (Text.trim property.2) with
    | some changed => .ok changed
    | none => .error (.invalidOption (propertyKey property.1) (Text.trim property.2))

/-- The default options changed by properties, in order. -/
def ofProperties (properties : List (String × String)) : Except Fault Options :=
  properties.foldlM apply {}

end Options

end MemberMapping
