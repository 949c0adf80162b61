import MemberMapping.Fault
import MemberMapping.Literal
import MemberMapping.Program.Reading.Items
import MemberMapping.Token.Number

/-!
Reading the arguments of the attributes that steer the generator: settings by name, converters with
their literals, and what is said where they do not fit.
-/

namespace MemberMapping

inductive AttributeFault
  /-- Its arguments cannot be read. -/
  | unreadable (fault : SyntaxFault)
  /-- It stands a second time. -/
  | duplicate (name : String)
  /-- It needs arguments and has none. -/
  | withoutArguments (name : String)
  /-- It needs arguments in brackets and has a value. -/
  | withValue (name : String)
  /-- It takes no arguments and has some. -/
  | withArguments
  | expectedSource
  | expectedParameters
  | notLiteral
  | expectedOption
  /-- An option cannot take its value. -/
  | refused (fault : Fault)
deriving DecidableEq, Repr

namespace AttributeFault

def withDots (name : String) : String := "#[" ++ name ++ "(...)]"

def message : AttributeFault → String
  | unreadable fault => fault.message
  | duplicate name => "duplicate #[" ++ name ++ "] attribute"
  | withoutArguments name => "expected attribute arguments in parentheses: " ++ withDots name
  | withValue name => "expected parentheses: " ++ withDots name
  | withArguments => "unexpected token in attribute"
  | expectedSource => "expected " ++ inBackquotes "source = \"name\""
  | expectedParameters => "expected " ++ inBackquotes "params(...)"
  | notLiteral => "converter parameters must be literals"
  | expectedOption =>
    "expected " ++ inBackquotes "access" ++ ", " ++ inBackquotes "docs" ++ " or " ++
      inBackquotes "nullable"
  | refused fault => fault.message

end AttributeFault

/-- Takes tokens from the arguments of an attribute, or fails. -/
abbrev ArgumentReader := StateT (List Token) (Except AttributeFault)

instance : MonadLift Reader ArgumentReader :=
  ⟨fun rule tokens => (rule tokens).mapError .unreadable⟩

namespace ArgumentReader

def all {α : Type} (rule : ArgumentReader α) (tokens : List Token) : Except AttributeFault α := do
  let (value, rest) ← rule tokens
  if rest.isEmpty then return value else throw (.unreadable .unexpected)

/-- The name of a setting: words between `::`, reserved ones included. -/
def settingName : Reader NamePath := do
  let rooted := !(← Reader.mark? "::").isEmpty
  let first ← match ← get with
    | .ident _ :: _ => Reader.anyName
    | [] => Reader.fail .nestedEnd
    | tokens =>
      if Reader.beginsLiteral tokens then Reader.fail .nestedLiteral else Reader.fail .nestedToken
  let others ← Reader.repeatWhile (Reader.begins "::") do
    let _ ← Reader.mark "::"
    Reader.anyName
  return ⟨rooted, first :: others⟩

/-- At most `limit` settings, each of which changes `state`. -/
def settingsWithin {σ : Type} (setting : σ → NamePath → ArgumentReader σ) :
    Nat → σ → ArgumentReader σ
  | 0, state => return state
  | limit + 1, state => do
    let name ← settingName
    let state ← setting state name
    if ← Reader.atEnd then return state
    let _ ← Reader.mark ","
    if ← Reader.atEnd then return state
    settingsWithin setting limit state

def settings {σ : Type} (setting : σ → NamePath → ArgumentReader σ) (state : σ) :
    ArgumentReader σ := do
  if ← Reader.atEnd then return state
  settingsWithin setting ((← get).length + 1) state

def textOf? (written : String) : Option String :=
  (Token.readString .text written.toList).map fun (value, _) => String.ofList value

def textValue : Reader String := do
  let _ ← Reader.mark "="
  match ← get with
  | .literal written :: rest =>
    match textOf? written with
    | some text => set rest; return text
    | none => Reader.missing .stringLiteral
  | _ => Reader.missing .stringLiteral

def truthValue : Reader Bool := do
  let _ ← Reader.mark "="
  match ← get with
  | .ident "true" :: rest => set rest; return true
  | .ident "false" :: rest => set rest; return false
  | _ => Reader.missing .booleanLiteral

end ArgumentReader

/-- The integer of that magnitude. It has to fit before a sign counts. -/
def Literal.ofMagnitude (n : Nat) : Except AttributeFault Literal :=
  if n < Nat.pow 2 63 then .ok (.int (Int64.ofNat n)) else .error (.unreadable .tooLarge)

/-- The parameter that a written literal stands for. Bytes are none. -/
def Literal.ofText (written : String) : Except AttributeFault Literal :=
  let cs := written.toList
  match ArgumentReader.textOf? written, Token.integerValue? cs, Token.floatValue? cs, cs with
  | some text, _, _, _ => .ok (.string text)
  | none, some n, _, _ => Literal.ofMagnitude n
  | none, none, some x, _ => .ok (.float x)
  | none, none, none, '\'' :: rest =>
    match Token.readCharacter .text rest with
    | some (c, _) => .ok (.char c)
    | none => .error .notLiteral
  | none, none, none, _ => .error .notLiteral

def Literal.negated : Literal → Except AttributeFault Literal
  | int n => .ok (.int (-n))
  | float x => .ok (.float (-x))
  | _ => .error .notLiteral

/-- The parameter that an expression stands for: a literal, possibly behind minus signs. Attributes
of the expression do not count. -/
def Literal.ofTokens : List Token → Except AttributeFault Literal
  | .mark '#' _ :: .group .bracket _ :: rest => Literal.ofTokens rest
  | .mark '-' _ :: rest => Literal.ofTokens rest >>= Literal.negated
  | [.literal written] => Literal.ofText written
  | [.ident "true"] => .ok (.bool true)
  | [.ident "false"] => .ok (.bool false)
  | _ => .error .notLiteral

structure ConverterMark where
  path : PathExpr
  parameters : List Literal := []

def ConverterMark.rule (g : Grammar) : ArgumentReader ConverterMark := do
  let path ← g.path false
  let comma ← Reader.mark? ","
  if comma.isEmpty || (← Reader.atEnd) then return { path := path }
  let label ← Reader.name
  if label != "params" then throw .expectedParameters
  let parameter : Reader (List Token) := do return Code.tokensOf (← g.expression true).code
  let (expressions, _) ← Reader.inside .paren (Reader.commaList parameter)
  let parameters ← expressions.mapM fun tokens => (Literal.ofTokens tokens : Except _ _)
  let _ ← Reader.mark? ","
  return ⟨path, parameters⟩

namespace Attribute

/-- The arguments of an attribute, read by a rule that has to take all of them. -/
def readArguments {α : Type} (a : Attribute) (name : String) (rule : Grammar → ArgumentReader α) :
    Except AttributeFault α :=
  match a.body with
  | .empty => .error (.withoutArguments name)
  | .value _ => .error (.withValue name)
  | .arguments _ inner => ArgumentReader.all (rule (Grammar.ofTokens inner)) inner

/-- An attribute without arguments is set now; it must not have been before. -/
def flag (a : Attribute) (name : String) (seen : Bool) : Except AttributeFault Bool :=
  match a.body with
  | .empty => if seen then .error (.duplicate name) else .ok true
  | _ => .error .withArguments

end Attribute

end MemberMapping
