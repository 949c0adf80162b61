import MemberMapping.Decimal.NumberForm
import MemberMapping.Text.Quoted

/-!
Literals: the parameters handed to a converter.
-/

namespace MemberMapping

/-- A literal parameter of a converter. Integers have 64 bits. -/
inductive Literal
  | bool (value : Bool)
  | int (value : Int64)
  | float (value : Float)
  | string (value : String)
  | char (value : Char)
deriving BEq

namespace Literal

def display : Literal → String
  | bool b => if b then "true" else "false"
  | int n => toString n.toInt
  | float x => Decimal.NumberForm.message.write x
  | string s => Text.quoted s
  | char c => Text.quotedChar c

/-- The truth value, of a truth value only. -/
def asBool? : Literal → Option Bool
  | bool b => some b
  | _ => none

/-- The integer, of an integer only. -/
def asInt? : Literal → Option Int64
  | int n => some n
  | _ => none

def asFloat? : Literal → Option Float
  | float x => some x
  | int n => some n.toFloat
  | _ => none

/-- The text, of a string only. -/
def asString? : Literal → Option String
  | string s => some s
  | _ => none

/-- The character, of a character only. -/
def asChar? : Literal → Option Char
  | char c => some c
  | _ => none

end Literal

end MemberMapping
