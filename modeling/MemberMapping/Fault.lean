import MemberMapping.Text.Quoted

/-!
Faults of the input as a whole: an option with a value it cannot take, declared types that do not
fit together, a name that is not declared. A type that cannot be mapped is no fault but a
diagnostic.
-/

namespace MemberMapping

inductive Fault
  | invalidOption (key value : String)
  | invalidSchema (reason : String)
  | typeNotFound (name : String)
deriving DecidableEq, Repr

namespace Fault

def message : Fault → String
  | invalidOption key value => "invalid value `" ++ value ++ "` for option `" ++ key ++ "`"
  | invalidSchema reason => "invalid schema: " ++ reason
  | typeNotFound name => "type `" ++ name ++ "` is not declared"

def parts : Fault → String × List (String × String)
  | invalidOption key value => ("InvalidOption", [("key", key), ("value", value)])
  | invalidSchema reason => ("InvalidSchema", [("message", reason)])
  | typeNotFound name => ("TypeNotFound", [("name", name)])

def outline (fault : Fault) : String :=
  let (name, fields) := fault.parts
  let lines := fields.map fun (key, value) =>
    "            " ++ key ++ ": " ++ Text.quoted value ++ ",\n"
  "Error \x7b\n    kind: " ++ name ++ "(\n        " ++ name ++ " \x7b\n" ++ String.join lines ++
    "        \x7d,\n    ),\n\x7d"

end Fault

end MemberMapping
