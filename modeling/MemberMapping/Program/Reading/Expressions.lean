import MemberMapping.Program.Reading.Patterns

/-!
Reading expressions and statements.

Operands and operators are read one behind the other: how they bind does not matter for their
tokens. An outline is kept of what a body ends in.
-/

namespace MemberMapping.Grammar

open Reader

/-- The operators between two operands. An operator stands behind those that it begins. -/
def binaryOperators : List String :=
  [ "+=", "-=", "*=", "/=", "%=", "^=", "&=", "|=", "<<=", ">>=", "&&", "||", "<<", ">>", "==",
    "<=", "!=", ">=", "+", "-", "*", "/", "%", "^", "&", "|", "<", ">" ]

/-- The operator ahead; an assignment is one, an arrow is none. -/
def binaryOperator? (tokens : List Token) : Option String :=
  match binaryOperators.find? (begins · tokens) with
  | some operator => some operator
  | none => if begins "=" tokens && !begins "=>" tokens then some "=" else none

def beginsOperand (tokens : List Token) : Bool :=
  match tokens with
  | [] => false
  | .ident _ :: _ => true
  | .group _ _ :: _ => true
  | .literal _ :: _ => true
  | .lifetime _ :: _ => true
  | _ =>
    (begins "!" tokens && !begins "!=" tokens) ||
    (begins "-" tokens && !begins "-=" tokens && !begins "->" tokens) ||
    (begins "*" tokens && !begins "*=" tokens) ||
    (begins "|" tokens && !begins "|=" tokens) ||
    (begins "&" tokens && !begins "&=" tokens) ||
    begins ".." tokens || begins "::" tokens || begins "#" tokens ||
    (begins "<" tokens && !begins "<=" tokens && !begins "<<=" tokens)

/-- The tokens ahead end a range without an upper limit. -/
def endsRange (braces : Bool) (tokens : List Token) : Bool :=
  tokens.isEmpty || begins "," tokens || begins ";" tokens || begins "?" tokens ||
    begins "=" tokens || (begins "." tokens && !begins ".." tokens) ||
    (!braces && beginsGroup .brace tokens) || beginsWord "as" tokens ||
    ["+", "/", "%", "^", ">", "<=", "!=", "-=", "*=", "&=", "|=", "<<="].any (begins · tokens)

/-- The upper limit of a range and what follows it; a half-open range may have none. -/
def rangeEnd (g : Grammar) (braces : Bool) (front : List Code) : Reader ReadExpression := do
  let closed ← isNext "..="
  let operator ← rangeOperator
  if !closed && (← ahead (endsRange braces)) then
    return { code := front ++ operator, isRange := true }
  else return { code := front ++ operator ++ (← g.operand braces).code }

def operatorsWithin (g : Grammar) (braces : Bool) :
    Nat → ReadExpression → Reader ReadExpression
  | 0, e => return e
  | limit + 1, e => do
    let tokens ← get
    if e.isRange then return e
    match binaryOperator? tokens with
    | some text =>
      let operator ← mark text
      let right ← g.operand braces
      operatorsWithin g braces limit { code := e.code ++ operator ++ right.code }
    | none =>
      if begins ".." tokens then operatorsWithin g braces limit (← rangeEnd g braces e.code)
      else if beginsWord "as" tokens then
        let as ← word "as"
        let ty ← g.type false
        operatorsWithin g braces limit { code := e.code ++ as ++ ty.code }
      else return e

def operators (g : Grammar) (braces : Bool) (e : ReadExpression) : Reader ReadExpression := do
  operatorsWithin g braces ((← get).length + 1) e

def arguments (g : Grammar) : Reader (List Code × List Outline) := do
  let (values, trailing) ← inside .paren (commaList (g.expression true))
  return (bracketed .paren trailing (values.map (·.code)), values.map (·.outline))

def namedMember (g : Grammar) (front : List Code) : Reader ReadExpression := do
  if ← isNextWord "await" then return { code := front ++ (← word "await") }
  let name ← name
  let colons ← mark? "::"
  let generic ←
    if colons.isEmpty then pure []
    else do
      let (list, trailing) ← genericArguments g (argumentBounds g)
      pure (colons ++ Code.operator "<" ++
        lifetimesFirst Code.comma trailing (GenericArgument.codes list) ++ Code.operator ">")
  let call ← if ← ahead (beginsGroup .paren) then do pure (← arguments g).1 else pure []
  return { code := front ++ nameCode name ++ generic ++ call }

/-- A member behind its point. Two positions with a point between them are read as one number. -/
def memberAccess (g : Grammar) (front : List Code) : Reader ReadExpression := do
  let point ← mark "."
  match ← get with
  | .literal text :: rest =>
    set rest
    let positions := (text.splitOn ".").filter (· ≠ "")
    let code := front ++ positions.flatMap fun position => point ++ [.token (.literal position)]
    if text.endsWith "." then namedMember g (code ++ point) else return { code := code }
  | _ => namedMember g (front ++ point)

/-- An operand with calls, members, elements and question marks behind it. -/
def trailersWithin (g : Grammar) : Nat → ReadExpression → Reader ReadExpression
  | 0, e => return e
  | limit + 1, e => do
    let tokens ← get
    if beginsGroup .paren tokens then
      let (code, outlines) ← arguments g
      trailersWithin g limit { code := e.code ++ code, outline := .call e.outline outlines }
    else if begins "." tokens && !begins ".." tokens && !e.isRange then
      trailersWithin g limit (← memberAccess g e.code)
    else if beginsGroup .bracket tokens then
      let index ← inside .bracket (g.expression true)
      trailersWithin g limit { code := e.code ++ [.group .bracket index.code] }
    else if begins "?" tokens && !e.isRange then
      trailersWithin g limit { code := e.code ++ (← mark "?") }
    else return e

def trailers (g : Grammar) (e : ReadExpression) : Reader ReadExpression := do
  trailersWithin g ((← get).length + 1) e

/-- A field of a struct expression, or the dots with what the others are taken from. -/
def fieldValue (g : Grammar) : Reader (List Code) := do
  let marked := Attribute.codeOf (← attributes g)
  if ← isNext ".." then
    let dots ← mark ".."
    if ← atEnd then return marked ++ dots
    else return marked ++ dots ++ (← g.expression true).code
  let name ← fieldName
  let colon ← mark? ":"
  if colon.isEmpty then return marked ++ name
  else return marked ++ name ++ colon ++ (← g.expression true).code

def pathExpression (g : Grammar) (braces : Bool) : Reader ReadExpression := do
  let (code, path, outline) ← valuePath g
  let tokens ← get
  if path.any (callsMacro · tokens) then return { code := code ++ (← macroTail) }
  else if braces && beginsGroup .brace tokens then
    let (fields, trailing) ← inside .brace (commaList (fieldValue g))
    return { code := code ++ bracketed .brace trailing fields }
  else return { code := code, outline := outline }

def parenthesized (g : Grammar) : Reader ReadExpression := do
  let (elements, trailing) ← inside .paren (commaList (g.expression true))
  let code := bracketed .paren trailing (elements.map (·.code))
  match elements with
  | [single] => return { code := code, outline := if trailing then .other else single.outline }
  | _ => return { code := code }

def arrayRule (g : Grammar) : Reader (List Code) := do
  if ← atEnd then return []
  let first ← g.expression true
  if ← isNext ";" then
    let semicolon ← mark ";"
    return first.code ++ semicolon ++ (← g.expression true).code
  let comma ← mark? ","
  let (others, trailing) ← commaList (g.expression true)
  if comma.isEmpty && !others.isEmpty then fail .unexpected
  return first.code ++ comma ++ separated [Code.comma] trailing (others.map (·.code))

def operandOrNone (g : Grammar) (braces : Bool) : Reader (List Code) := do
  let tokens ← get
  if beginsOperand tokens && (braces || !beginsGroup .brace tokens) then
    return (← g.expression braces).code
  else return []

/-- A parameter of a closure. Only one with a type has attributes of its own. -/
def closureParameter (g : Grammar) : Reader (List Code) := do
  let marked ← attributes g
  let pattern ← g.pattern
  let colon ← mark? ":"
  if colon.isEmpty then return Attribute.codeOf marked ++ pattern.code
  else return [.marked marked (pattern.code ++ colon ++ (← g.type true).code)]

def closure (g : Grammar) (braces : Bool) : Reader ReadExpression := do
  let lifetimes ← if ← isNextWord "for" then binder else pure []
  let front := (← word? "const") ++ (← word? "static") ++ (← word? "async") ++ (← word? "move")
  let opening ← mark "|"
  let (parameters, trailing) ← listUntil (begins "|") "," (closureParameter g)
  let closing ← mark "|"
  let head := lifetimes ++ front ++ opening ++ separated [Code.comma] trailing parameters ++ closing
  if ← isNext "->" then
    let result ← result g true
    return { code := head ++ result ++ (← block g).1 }
  else return { code := head ++ (← g.expression braces).code }

/-- A condition with its blocks, and those of the conditions behind `else`. -/
def ifWithin (g : Grammar) : Nat → Reader (List Code)
  | 0 => fail .tooDeep
  | limit + 1 => do
    let front ← word "if"
    let condition ← g.expression false
    let (body, _) ← block g
    let code := front ++ condition.code ++ body
    let otherwise ← word? "else"
    if otherwise.isEmpty then return code
    else if ← isNextWord "if" then return code ++ otherwise ++ (← ifWithin g limit)
    else return code ++ otherwise ++ (← block g).1

def loopRule (g : Grammar) : Reader (List Code) := do
  if ← isNextWord "while" then
    let front ← word "while"
    let condition ← g.expression false
    return front ++ condition.code ++ (← block g).1
  else if ← isNextWord "for" then
    let front ← word "for"
    let pattern ← alternatives g
    let among ← word "in"
    let range ← g.expression false
    return front ++ pattern ++ among ++ range.code ++ (← block g).1
  else return (← word "loop") ++ (← block g).1

/-- Lifetimes of a closure begin, not a loop. -/
def beginsBinder (tokens : List Token) : Bool :=
  beginsWord "for" tokens && begins "<" (tokens.drop 1) &&
    (begins ">" (tokens.drop 2) || beginsLifetime (tokens.drop 2))

def beginsClosure (tokens : List Token) : Bool :=
  let behind := tokens.drop 1
  begins "|" tokens || beginsAnyWord ["move", "static"] tokens || beginsBinder tokens ||
    (beginsWord "const" tokens && !beginsGroup .brace behind) ||
    (beginsWord "async" tokens && (begins "|" behind || beginsWord "move" behind))

def beginsAsyncBlock (tokens : List Token) : Bool :=
  beginsWord "async" tokens &&
    (beginsGroup .brace (tokens.drop 1) ||
      (beginsWord "move" (tokens.drop 1) && beginsGroup .brace (tokens.drop 2)))

def beginsBlockLike (tokens : List Token) : Bool :=
  beginsAnyWord ["if", "while", "loop", "match", "unsafe"] tokens ||
    (beginsWord "for" tokens && !beginsBinder tokens) ||
    (beginsAnyWord ["try", "const"] tokens && beginsGroup .brace (tokens.drop 1)) ||
    beginsGroup .brace tokens || beginsLifetime tokens

/-- An operand whose end is that of a block, behind its label if it has one. -/
def blockLikeRule (g : Grammar) : Reader (List Code) := do
  let label ← if ← ahead beginsLifetime then do pure ((← lifetime) ++ (← mark ":")) else pure []
  let tokens ← get
  let code ←
    if beginsWord "if" tokens then ifWithin g (tokens.length + 1)
    else if beginsAnyWord ["while", "for", "loop"] tokens then loopRule g
    else if beginsWord "match" tokens then do
      let front ← word "match"
      let scrutinee ← g.expression false
      let arms ← inside .brace do
        let inner := Attribute.innerCodeOf (← innerAttributes g)
        return inner ++ (← untilEnd g.arm).flatten
      pure (front ++ scrutinee.code ++ [.group .brace arms])
    else if beginsAnyWord ["try", "const", "unsafe"] tokens then do
      let front ← anyName
      pure (nameCode front ++ (← block g).1)
    else do pure (← block g).1
  return label ++ code

/-- An expression that stands as a statement or as the value of a match arm: one that ends with its
block goes on only with a member or a question mark. -/
def statementExpression (g : Grammar) : Reader ReadExpression := do
  let marked := Attribute.codeOf (← attributes g)
  let e ←
    if ← ahead beginsBlockLike then do
      let code ← blockLikeRule g
      let tokens ← get
      if (begins "." tokens && !begins ".." tokens) || begins "?" tokens then
        operators g true (← trailers g { code := code })
      else pure { code := code, blockLike := true : ReadExpression }
    else do operators g true (← g.operand true)
  return { e with code := marked ++ e.code }

/-- The value of a match arm with the comma behind it, which only a block can do without. -/
def armValue (g : Grammar) : Reader (List Code) := do
  let value ← statementExpression g
  let comma ← if value.blockLike || (← atEnd) then mark? "," else mark ","
  return value.code ++ comma

def armRule (g : Grammar) : Reader (List Code) := do
  let marked := Attribute.codeOf (← attributes g)
  let pattern ← alternatives g
  let guard ← do
    let front ← word? "if"
    if front.isEmpty then pure [] else pure (front ++ (← g.expression true).code)
  let arrow ← mark "=>"
  return marked ++ pattern ++ guard ++ arrow ++ (← armValue g)

/-- A word that leaves a loop, a function or an iteration, with its label and its value. -/
def jump (g : Grammar) (braces : Bool) : Reader (List Code) := do
  let tokens ← get
  if beginsWord "break" tokens then
    let front ← word "break"
    let label ← lifetime?
    return front ++ label ++ (← operandOrNone g braces)
  else if beginsWord "continue" tokens then return (← word "continue") ++ (← lifetime?)
  else return nameCode (← anyName) ++ (← operandOrNone g true)

/-- An operand without what is appended to it. -/
def atom (g : Grammar) (braces : Bool) : Reader ReadExpression := do
  let tokens ← get
  if beginsLiteral tokens then return { code := ← literal }
  else if beginsAsyncBlock tokens then
    let front := (← word "async") ++ (← word? "move")
    return { code := front ++ (← block g).1 }
  else if beginsBlockLike tokens &&
      !(beginsLifetime tokens && !begins ":" (tokens.drop 1)) then
    return { code := ← blockLikeRule g, blockLike := true }
  else if beginsClosure tokens then closure g braces
  else if beginsPath tokens || (beginsWord "try" tokens) then pathExpression g braces
  else if beginsGroup .paren tokens then parenthesized g
  else if beginsAnyWord ["break", "continue", "return", "become", "yield"] tokens then
    return { code := ← jump g braces }
  else if beginsGroup .bracket tokens then
    return { code := [.group .bracket (← inside .bracket (arrayRule g))] }
  else if beginsWord "let" tokens then
    let front ← word "let"
    let pattern ← alternatives g
    let equals ← mark "="
    return { code := front ++ pattern ++ equals ++ (← g.operand false).code }
  else if begins ".." tokens then rangeEnd g braces []
  else if beginsWord "_" tokens then return { code := ← word "_" }
  else missing .expression

/-- A reference: what it refers to, and whether it can be written through. -/
def referenceRule (g : Grammar) (braces : Bool) : Reader ReadExpression := do
  let front ← mark "&"
  let tokens ← get
  if beginsWord "raw" tokens && beginsAnyWord ["mut", "const"] (tokens.drop 1) then
    let raw ← word "raw"
    let kind ← anyName
    return { code := front ++ raw ++ nameCode kind ++ (← g.operand braces).code }
  else
    let mutable ← word? "mut"
    let target ← g.operand braces
    return {
      code := front ++ mutable ++ target.code
      outline := .reference (!mutable.isEmpty) target.outline }

/-- An operand with the operators before it and what is appended to it. -/
def operandRule (g : Grammar) (braces : Bool) : Reader ReadExpression := do
  let marked := Attribute.codeOf (← attributes g)
  let tokens ← get
  let e ←
    if begins "&" tokens then referenceRule g braces
    else if begins "*" tokens then do
      let operator ← mark "*"
      pure { code := operator ++ (← g.operand braces).code : ReadExpression }
    else if begins "!" tokens then do
      let operator ← mark "!"
      pure { code := operator ++ (← g.operand braces).code : ReadExpression }
    else if begins "-" tokens then do
      let operator ← mark "-"
      pure { code := operator ++ (← g.operand braces).code : ReadExpression }
    else do trailers g (← atom g braces)
  return { e with code := marked ++ e.code }

def expressionRule (g : Grammar) (braces : Bool) : Reader ReadExpression := do
  operators g braces (← g.operand braces)

def localRule (g : Grammar) : Reader (List Code) := do
  let front ← word "let"
  let pattern ← alternatives g
  let colon ← mark? ":"
  let ty ← if colon.isEmpty then pure [] else do pure (← g.type true).code
  let equals ← mark? "="
  let value ← if equals.isEmpty then pure [] else do pure (← g.expression true).code
  let otherwise ← word? "else"
  let diverging ← if otherwise.isEmpty then pure [] else do pure (← block g).1
  return front ++ pattern ++ colon ++ ty ++ equals ++ value ++ otherwise ++ diverging ++
    (← mark ";")

/-- What a macro call that stands as a statement looks like ahead. -/
inductive MacroAhead
  | none
  /-- A macro that is an item, with a name behind the mark. -/
  | item
  /-- A macro in braces that nothing is appended to. -/
  | statement
deriving DecidableEq

def macroAhead (tokens : List Token) : MacroAhead :=
  match namePath tokens with
  | .ok (_, rest) =>
    if !begins "!" rest then .none
    else
      let behind := rest.drop 1
      let further := behind.drop 1
      if beginsName behind || beginsWord "try" behind then .item
      else if beginsGroup .brace behind && !(begins "." further && !begins ".." further) &&
          !begins "?" further then .statement
      else .none
  | .error _ => .none

/-- An item begins, not an expression. -/
def beginsItem (tokens : List Token) : Bool :=
  let second := tokens.drop 1
  let third := tokens.drop 2
  beginsAnyWord ["pub", "extern", "use", "mod", "type", "struct", "enum", "trait", "impl", "fn",
    "macro"] tokens ||
  (beginsWord "crate" tokens && !begins "::" second) ||
  (beginsWord "static" tokens && (beginsWord "mut" second || beginsName second)) ||
  (beginsWord "const" tokens &&
    !(beginsGroup .brace second || beginsAnyWord ["static", "move"] second ||
      begins "|" second ||
      (beginsWord "async" second && !beginsAnyWord ["unsafe", "extern", "fn"] third))) ||
  (beginsWord "unsafe" tokens && !beginsGroup .brace second) ||
  (beginsWord "union" tokens && beginsName second) ||
  (beginsWord "auto" tokens && beginsWord "trait" second) ||
  (beginsWord "default" tokens && beginsAnyWord ["unsafe", "impl"] second) ||
  (beginsWord "async" tokens &&
    (beginsAnyWord ["unsafe", "extern", "fn"] second))

/-- A statement that was read: its code, the expression it is if no semicolon ends it, and whether
another statement can follow. -/
structure ReadStatement where
  code : List Code
  ending : Option Outline := none
  complete : Bool := true

def statement (g : Grammar) : Reader ReadStatement := do
  let start ← get
  let marked ← attributes g
  let tokens ← get
  match macroAhead tokens with
  | .statement =>
    let path ← namePath
    let call ← macroTail
    let code := Attribute.codeOf marked ++ Code.ofTokens path.tokens ++ call
    return { code := code ++ (← mark? ";") }
  | kind =>
    if beginsWord "let" tokens then return { code := Attribute.codeOf marked ++ (← localRule g) }
    else if kind = .item || beginsItem tokens then
      set start
      return { code := (← g.item).code }
    else
      let e ← statementExpression g
      let semicolon ← mark? ";"
      let code := Attribute.codeOf marked ++ e.code ++ semicolon
      if semicolon.isEmpty then
        return { code := code, ending := some e.outline, complete := e.blockLike }
      else return { code := code }

/-- Statements to the end of a block, and the expression the last of them is. -/
def statementsWithin (g : Grammar) : Nat → Reader (List Code × Option Outline)
  | 0 => fail .tooDeep
  | limit + 1 => do
    if ← atEnd then return ([], none)
    let semicolon ← mark? ";"
    if !semicolon.isEmpty then
      let (code, ending) ← statementsWithin g limit
      return (semicolon ++ code, ending)
    let first ← statement g
    if ← atEnd then return (first.code, first.ending)
    if !first.complete then fail .unexpected
    let (code, ending) ← statementsWithin g limit
    return (first.code ++ code, ending)

def bodyRule (g : Grammar) : Reader ReadBody := do
  let inner ← innerAttributes g
  let (code, ending) ← statementsWithin g ((← get).length + 1)
  return { attributes := inner, tokens := Code.tokensOf code, ending := ending }

end MemberMapping.Grammar
