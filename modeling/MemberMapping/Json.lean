import MemberMapping.Decimal.NumberForm

/-!
JSON values and their text: on one line, or with one field or element a line and two blanks a
level.
-/

namespace MemberMapping

inductive Json where
  | null
  | bool (value : Bool)
  | int (value : Int)
  | float (value : Float)
  | string (text : String)
  | array (elements : List Json)
  | object (fields : List (String × Json))
deriving Inhabited

namespace Json

/-- An object with its fields in the order of their names. -/
def record (fields : List (String × Json)) : Json :=
  .object (fields.mergeSort fun a b => !(b.1 < a.1))

/-- The JSON of an optional value: `null` where there is none. -/
def ofOption {α : Type} (write : α → Json) : Option α → Json
  | none => .null
  | some a => write a

def ofList {α : Type} (write : α → Json) (as : List α) : Json :=
  .array (as.map write)

def escape (c : Char) : List Char :=
  if c = '"' then ['\\', '"']
  else if c = '\\' then ['\\', '\\']
  else if c = '\n' then ['\\', 'n']
  else if c = '\r' then ['\\', 'r']
  else if c = '\t' then ['\\', 't']
  else if c = '\x08' then ['\\', 'b']
  else if c = '\x0c' then ['\\', 'f']
  else if c.toNat < 32 then
    let digits := Nat.toDigits 16 c.toNat
    ['\\', 'u'] ++ List.replicate (4 - digits.length) '0' ++ digits
  else [c]

def quoted (text : String) : String :=
  String.ofList (['"'] ++ text.toList.flatMap escape ++ ['"'])

/-- The text of a value that is neither array nor object; such a value has none here. -/
def scalarText : Json → String
  | null => "null"
  | bool b => if b then "true" else "false"
  | int n => toString n
  | float x => Decimal.NumberForm.json.write x
  | string s => quoted s
  | array _ => ""
  | object _ => ""

mutual

def compact : Json → String
  | array elements => "[" ++ ",".intercalate (compactElements elements) ++ "]"
  | object fields => "\x7b" ++ ",".intercalate (compactFields fields) ++ "\x7d"
  | scalar => scalar.scalarText

def compactElements : List Json → List String
  | [] => []
  | element :: rest => element.compact :: compactElements rest

def compactFields : List (String × Json) → List String
  | [] => []
  | (key, value) :: rest => (quoted key ++ ":" ++ value.compact) :: compactFields rest

end

/-- A line break and two blanks for each of `depth` levels. -/
def lineBreak (depth : Nat) : String :=
  "\n" ++ String.ofList (List.replicate (2 * depth) ' ')

/-- Parts between two brackets, a line each; the brackets alone where there are none. -/
def block (opening closing : String) (depth : Nat) (parts : List String) : String :=
  if parts.isEmpty then opening ++ closing
  else
    opening ++ lineBreak (depth + 1) ++ ("," ++ lineBreak (depth + 1)).intercalate parts ++
      lineBreak depth ++ closing

mutual

/-- The value over several lines, at a depth of `depth` levels. -/
def indented (depth : Nat) : Json → String
  | array elements => block "[" "]" depth (indentedElements (depth + 1) elements)
  | object fields => block "\x7b" "\x7d" depth (indentedFields (depth + 1) fields)
  | scalar => scalar.scalarText

/-- The elements of an array at a depth of `depth` levels. -/
def indentedElements (depth : Nat) : List Json → List String
  | [] => []
  | element :: rest => element.indented depth :: indentedElements depth rest

/-- The fields of an object at a depth of `depth` levels. -/
def indentedFields (depth : Nat) : List (String × Json) → List String
  | [] => []
  | (key, value) :: rest =>
    (quoted key ++ ": " ++ value.indented depth) :: indentedFields depth rest

end

def pretty (j : Json) : String := j.indented 0

end Json

end MemberMapping
