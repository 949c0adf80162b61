import MemberMapping.Program.Item
import MemberMapping.Program.Reading

/-!
Reading attributes, paths, types, bounds and generic parameters.

Rules that can occur within each other are handed down in a `Grammar`, so that each rule is written
without recursion; the recursion runs over the depth of nesting.
-/

namespace MemberMapping

structure ReadExpression where
  code : List Code
  outline : Outline := .other
  /-- It ends in a block, and ends a statement without a semicolon. -/
  blockLike : Bool := false
  /-- It is a range, which nothing can be appended to. -/
  isRange : Bool := false

/-- A pattern that was read, and the name if it is a single one. -/
structure ReadPattern where
  code : List Code
  name : Option String := none

/-- The inside of a block that was read: the attributes at its beginning, the further tokens, and
the expression it ends in. -/
structure ReadBody where
  attributes : List Attribute
  tokens : List Token
  ending : Option Outline := none

structure Grammar where
  /-- A type; bounds may be added to it where `plus`. -/
  type (plus : Bool) : Reader TypeExpr
  /-- An expression; it may be a struct in braces where `braces`. -/
  expression (braces : Bool) : Reader ReadExpression
  /-- An operand with the operators before it. -/
  operand (braces : Bool) : Reader ReadExpression
  pattern : Reader ReadPattern
  /-- An arm of a match. -/
  arm : Reader (List Code)
  /-- The inside of a block. -/
  body : Reader ReadBody
  item : Reader Item
  /-- What a use declaration names. -/
  imported : Reader (List Code)

instance : Inhabited Grammar :=
  ⟨{ type := fun _ => .fail .tooDeep
     expression := fun _ => .fail .tooDeep
     operand := fun _ => .fail .tooDeep
     pattern := .fail .tooDeep
     arm := .fail .tooDeep
     body := .fail .tooDeep
     item := .fail .tooDeep
     imported := .fail .tooDeep }⟩

namespace Grammar

open Reader

/-- The words that a path may begin with though they are reserved. -/
def pathWords : List String := ["super", "self", "Self", "crate"]

def nameCode (text : String) : List Code := [.token (.ident text)]

/-- A path of names alone, as in attributes, macros and visibilities. -/
def namePath : Reader NamePath := do
  let rooted := !(← mark? "::").isEmpty
  let part : Reader String := do
    if ← ahead (beginsAnyWord pathWords) then anyName else name
  let (names, trailing) ← joined "::" (fun _ => true) part
  if trailing then fail .unexpected else return ⟨rooted, names⟩

/-- An attribute path may be `unsafe` as well. -/
def attributePath : Reader NamePath := do
  if ← isNextWord "unsafe" then return ⟨false, [← anyName]⟩ else namePath

/-- A value that is a literal alone, or else an expression. -/
def attributeValue (g : Grammar) : Reader (List Code) := do
  match ← get with
  | [.literal text] =>
    set ([] : List Token)
    return [.token (.literal text)]
  | _ => return (← g.expression true).code

def attributeInside (g : Grammar) : Reader Attribute := do
  let path ← attributePath
  match ← get with
  | .group delimiter inner :: rest =>
    set rest
    return ⟨path, .arguments delimiter inner⟩
  | tokens =>
    if begins "=" tokens && !begins "==" tokens && !begins "=>" tokens then do
      let _ ← mark "="
      return ⟨path, .value (← attributeValue g)⟩
    else return ⟨path, .empty⟩

def attributes (g : Grammar) : Reader (List Attribute) :=
  repeatWhile (begins "#") do
    let _ ← mark "#"
    inside .bracket (attributeInside g)

def beginsInner : List Token → Bool
  | .mark '#' _ :: .mark '!' _ :: _ => true
  | _ => false

def innerAttributes (g : Grammar) : Reader (List Attribute) :=
  repeatWhile beginsInner do
    let _ ← mark "#"
    let _ ← mark "!"
    inside .bracket (attributeInside g)

def literal : Reader (List Code) := do
  match ← next with
  | .literal text => return [.token (.literal text)]
  | .ident text => return nameCode text
  | .mark c _ =>
    match ← next with
    | .literal text => return [.token (.mark c false), .token (.literal text)]
    | _ => fail .unexpected
  | _ => fail .unexpected

/-- A block: what is behind the attributes at its beginning is not taken apart. -/
def block (g : Grammar) : Reader (List Code × Option Outline) := do
  let body ← inside .brace g.body
  return (blockOf body.attributes body.tokens, body.ending)

def valueArgument (g : Grammar) : Reader (List Code) := do
  if ← ahead (beginsGroup .brace) then return (← block g).1 else literal

def beginsValue (tokens : List Token) : Bool :=
  beginsLiteral tokens || beginsGroup .brace tokens

/-- The name and its arguments, if the type is one name that can be bound in an argument list. -/
def boundName? : TypeExpr → Option Segment
  | .path ⟨false, [.plain name]⟩ => some (.plain name)
  | .path ⟨false, [.generic name turbofish arguments trailing]⟩ =>
    some (.generic name turbofish arguments trailing)
  | _ => none

/-- Lifetimes in angle brackets behind `for`. -/
def binder : Reader (List Code) := do
  let front ← word "for"
  let opening ← mark "<"
  let parameter : Reader (List Code) := do
    let name ← lifetime
    let colon ← mark? ":"
    if colon.isEmpty then return name
    let (bounds, trailing) ← joined "+" beginsLifetime lifetime
    return name ++ colon ++ separated (Code.operator "+") trailing bounds
  let (names, trailing) ← listUntil (begins ">") "," parameter
  let closing ← mark ">"
  return front ++ opening ++ separated [Code.comma] trailing names ++ closing

/-- Parameter types in parentheses and a result, behind the name of a callable trait. -/
def callableTail (g : Grammar) : Reader (List Code) := do
  let (inputs, trailing) ← inside .paren (commaList (g.type true))
  let arrow ← mark? "->"
  let result ← if arrow.isEmpty then pure [] else do pure (← g.type false).code
  return bracketed .paren trailing (inputs.map (·.code)) ++ arrow ++ result

def beginsBound (tokens : List Token) : Bool :=
  match tokens with
  | .ident _ :: _ => true
  | .lifetime _ :: _ => true
  | .group .paren _ :: _ => true
  | _ => begins "::" tokens || begins "?" tokens || begins "~" tokens

/-- A generic argument in angle brackets. `path` reads the types among them, `bounds` what
constrains one. -/
def genericArgument (g : Grammar) (bounds : Reader (List Code)) : Reader GenericArgument := do
  let tokens ← get
  if beginsLifetime tokens && !begins "+" (tokens.drop 1) then return .lifetime (← lifetimeName)
  if beginsValue tokens then return .other (← valueArgument g)
  let ty ← g.type true
  match boundName? ty with
  | none => return .type ty
  | some segment =>
    if ← isNext "=" then do
      let equals ← mark "="
      let value ←
        if ← ahead beginsValue then valueArgument g else do pure (← g.type true).code
      return .other (segment.code ++ equals ++ value)
    else if ← isNext ":" then do
      let colon ← mark ":"
      return .other (segment.code ++ colon ++ (← bounds))
    else return .type ty

def genericArguments (g : Grammar) (bounds : Reader (List Code)) :
    Reader (List GenericArgument × Bool) := do
  let _ ← mark "<"
  let arguments ← listUntil (begins ">") "," (genericArgument g bounds)
  let _ ← mark ">"
  return arguments

/-- A segment of a path. In expressions, arguments need a `::` before them. -/
def segment (g : Grammar) (bounds : Reader (List Code)) (inExpression : Bool) : Reader Segment := do
  if ← ahead (beginsAnyWord ["super", "self", "crate", "try"]) then return .plain (← anyName)
  let name ← if ← isNextWord "Self" then anyName else name
  let tokens ← get
  if !inExpression && begins "<" tokens && !begins "<=" tokens then
    let (arguments, trailing) ← genericArguments g bounds
    return .generic name false arguments trailing
  else if begins "::" tokens && begins "<" (tokens.drop 2) then
    let _ ← mark "::"
    let (arguments, trailing) ← genericArguments g bounds
    return .generic name true arguments trailing
  else return .plain name

/-- A further segment follows; parentheses behind `::` are no segment. -/
def continuesPath (tokens : List Token) : Bool :=
  begins "::" tokens && !beginsGroup .paren (tokens.drop 2)

/-- The segments of a path behind its first one. -/
def furtherSegments (g : Grammar) (bounds : Reader (List Code)) (inExpression : Bool) :
    Reader (List Segment) :=
  repeatWhile continuesPath do
    let _ ← mark "::"
    segment g bounds inExpression

def pathWith (g : Grammar) (bounds : Reader (List Code)) (inExpression : Bool) :
    Reader PathExpr := do
  let rooted := !(← mark? "::").isEmpty
  let first ← segment g bounds inExpression
  return ⟨rooted, first :: (← furtherSegments g bounds inExpression)⟩

/-- The path of a trait, where the last name may have parameters in parentheses. -/
def traitPath (g : Grammar) (bounds : Reader (List Code)) : Reader PathExpr := do
  let path ← pathWith g bounds false
  match path.segments.reverse with
  | .plain name :: before =>
    let tokens ← get
    if beginsGroup .paren tokens then
      return ⟨path.rooted, (.callable name (← callableTail g) :: before).reverse⟩
    else if begins "::" tokens && beginsGroup .paren (tokens.drop 2) then
      let colons ← mark "::"
      return ⟨path.rooted, (.callable name (colons ++ (← callableTail g)) :: before).reverse⟩
    else return path
  | _ => return path

def boundFront : Reader (List Code) := do
  let outer ← if ← isNextWord "for" then binder else pure []
  let tilde ← mark? "~"
  let constant ← word? "const"
  let optional ← mark? "?"
  let inner ← if ← isNextWord "for" then binder else pure []
  return outer ++ tilde ++ constant ++ optional ++ inner

/-- A bound; those of generic arguments within it are read by `bounds`. -/
def boundWith (g : Grammar) (bounds : Reader (List Code)) : Reader Bound := do
  let tokens ← get
  if beginsLifetime tokens then return .lifetime (← lifetimeName)
  else if beginsWord "use" tokens then
    let front ← word "use"
    let opening ← mark "<"
    let captured : Reader (List Code) := do
      if ← ahead beginsLifetime then lifetime else return nameCode (← anyName)
    let (names, trailing) ← listUntil (begins ">") "," captured
    let closing ← mark ">"
    return .other (front ++ opening ++ separated [Code.comma] trailing names ++ closing)
  else
    let rule : Reader (List Code × PathExpr) := do
      let front ← boundFront
      return (front, ← traitPath g bounds)
    if beginsGroup .paren tokens then
      let (front, path) ← inside .paren rule
      return .implements front path true
    else
      let (front, path) ← rule
      return .implements front path false

/-- Bounds joined by `+`, several of them where `plus`. -/
def boundList (bound : Reader Bound) (plus : Bool) : Reader (List Bound × Bool) := do
  if plus then joined "+" beginsBound bound else return ([← bound], false)

/-- The code of bounds joined by `+`. -/
def boundsCode (list : List Bound × Bool) : List Code :=
  separated (Code.operator "+") list.2 (Bound.codes list.1)

/-- Bounds of a generic argument: they are types behind which nothing is added. -/
def argumentBounds (g : Grammar) : Reader (List Code) := do
  let inner : Reader (List Code) := do return (← g.type true).code
  return boundsCode (← boundList (boundWith g inner) true)

def path (g : Grammar) (inExpression : Bool) : Reader PathExpr :=
  pathWith g (argumentBounds g) inExpression

def bound (g : Grammar) : Reader Bound := boundWith g (argumentBounds g)

def bounds (g : Grammar) (plus : Bool) : Reader (List Bound × Bool) := boundList (bound g) plus

/-- A path of a type or within one: a type in angle brackets, perhaps as a trait, and what is
selected of it. The names are those of the trait and of what follows. -/
def qualifiedPath (g : Grammar) (inExpression : Bool) : Reader (List Code × List String) := do
  let opening ← mark "<"
  let ty ← g.type true
  let (interface, names) ←
    if ← isNextWord "as" then do
      let as ← word "as"
      let trait ← path g false
      pure (as ++ trait.code, trait.segments.map (·.name))
    else pure ([], [])
  let closing ← mark ">"
  let colons ← mark "::"
  let first ← segment g (argumentBounds g) inExpression
  let others ← repeatWhile (begins "::") do
    let _ ← mark "::"
    segment g (argumentBounds g) inExpression
  let segments := first :: others
  return (opening ++ ty.code ++ interface ++ closing ++ colons ++ (PathExpr.mk false segments).code,
    names ++ segments.map (·.name))

/-- A macro call behind its path: the brackets with whatever they hold. -/
def macroTail : Reader (List Code) := do
  let bang ← mark "!"
  match ← next with
  | .group delimiter inner => return bang ++ [.token (.group delimiter inner)]
  | _ => fail .unexpected

def callsMacro (path : PathExpr) (tokens : List Token) : Bool :=
  begins "!" tokens && !begins "!=" tokens && path.segments.all (·.isPlain)

def linkage? : Reader (List Code) := do
  let front ← word? "extern"
  if front.isEmpty then return []
  match ← get with
  | .literal text :: _ =>
    if text.startsWith "\"" || text.startsWith "r" then return front ++ [.token (← next)]
    else return front
  | _ => return front

def result (g : Grammar) (plus : Bool) : Reader (List Code) := do
  let arrow ← mark? "->"
  if arrow.isEmpty then return [] else return arrow ++ (← g.type plus).code

def functionTypeParameter (g : Grammar) : Reader (List Code) := do
  let marked := Attribute.codeOf (← attributes g)
  let tokens ← get
  let named := (beginsName tokens || beginsAnyWord ["_", "self"] tokens) &&
    begins ":" (tokens.drop 1) && !begins "::" (tokens.drop 1)
  let front ← if named then do
      let name ← anyName
      pure (nameCode name ++ (← mark ":"))
    else pure []
  if ← isNext "..." then return marked ++ front ++ (← mark "...")
  else return marked ++ front ++ (← g.type true).code

def functionType (g : Grammar) : Reader (List Code) := do
  let front := (← word? "unsafe") ++ (← linkage?) ++ (← word "fn")
  let (parameters, trailing) ← inside .paren (commaList (functionTypeParameter g))
  return front ++ bracketed .paren trailing parameters ++ (← result g false)

def withFurtherBounds (g : Grammar) (first : Bound) : Reader TypeExpr := do
  let _ ← mark "+"
  let (others, trailing) ← bounds g true
  return .traitObject false (first :: others) trailing

def parenthesizedType (g : Grammar) (plus : Bool) : Reader TypeExpr := do
  let rule : Reader (Sum (List TypeExpr × Bool) TypeExpr) := do
    let tokens ← get
    if tokens.isEmpty then return .inl ([], false)
    if beginsLifetime tokens || begins "?" tokens then
      let (list, trailing) ← bounds g true
      return .inr (.traitObject false list trailing)
    let first ← g.type true
    if ← isNext "," then
      let _ ← mark ","
      let (others, trailing) ← commaList (g.type true)
      return .inl (first :: others, trailing || others.isEmpty)
    else return .inr first
  match ← inside .paren rule with
  | .inl (elements, trailing) => return .other (bracketed .paren trailing (elements.map (·.code)))
  | .inr inner =>
    if plus && (← isNext "+") then
      match inner with
      | .path path => withFurtherBounds g (.implements [] path true)
      | .traitObject false [.implements front path _] false =>
        withFurtherBounds g (.implements front path true)
      | _ => return .paren inner
    else
      match inner with
      | .traitObject false [.implements front path false] false =>
        if front.isEmpty then return .paren inner
        else return .traitObject false [.implements front path true] false
      | _ => return .paren inner

def pathType (g : Grammar) (front : List Code) (plus : Bool) : Reader TypeExpr := do
  if ← isNext "<" then return .other (← qualifiedPath g false).1
  let path ← path g false
  let tokens ← get
  if callsMacro path tokens then return .other (path.code ++ (← macroTail))
  else if plus && begins "+" tokens then
    let first := Bound.implements front path false
    let _ ← mark "+"
    if ← ahead beginsBound then
      let (others, trailing) ← bounds g true
      return .traitObject false (first :: others) trailing
    else return .traitObject false [first] true
  else if front.isEmpty then return .path path
  else return .traitObject false [.implements front path false] false

def bracketType (g : Grammar) : Reader TypeExpr := do
  let inner ← inside .bracket do
    let element ← g.type true
    let semicolon ← mark? ";"
    if semicolon.isEmpty then return element.code
    else return element.code ++ semicolon ++ (← g.expression true).code
  return .other [.group .bracket inner]

def typeFronts : List String :=
  [inBackquotes "for", "parentheses"] ++ ["fn", "unsafe", "extern"].map inBackquotes ++
    ["identifier"] ++ ["::", "<", "dyn"].map inBackquotes ++ ["square brackets"] ++
    ["*", "&", "!", "impl", "_"].map inBackquotes ++ ["lifetime"]

def beginsPath (tokens : List Token) : Bool :=
  beginsName tokens || beginsAnyWord pathWords tokens || begins "::" tokens || begins "<" tokens

def typeRule (g : Grammar) (plus : Bool) : Reader TypeExpr := do
  let front ← if ← isNextWord "for" then binder else pure []
  let tokens ← get
  if beginsGroup .paren tokens then parenthesizedType g plus
  else if beginsAnyWord ["fn", "unsafe", "extern"] tokens then
    return .other (front ++ (← functionType g))
  else if beginsPath tokens then pathType g front plus
  else if beginsWord "dyn" tokens then
    let _ ← word "dyn"
    let (list, trailing) ← bounds g plus
    return .traitObject true list trailing
  else if beginsGroup .bracket tokens then bracketType g
  else if begins "*" tokens then
    let star ← mark "*"
    let qualifier ← if ← isNextWord "const" then word "const" else word "mut"
    return .other (star ++ qualifier ++ (← g.type false).code)
  else if begins "&" tokens then
    let front := (← mark "&") ++ (← lifetime?) ++ (← word? "mut")
    return .reference (Code.tokensOf front) (← g.type false)
  else if begins "!" tokens then return .other (← mark "!")
  else if beginsWord "impl" tokens then
    let impl ← word "impl"
    return .other (impl ++ boundsCode (← bounds g plus))
  else if beginsWord "_" tokens then return .other (← word "_")
  else if beginsLifetime tokens then
    let (list, trailing) ← bounds g true
    return .traitObject false list trailing
  else missing (.oneOf typeFronts)

/-- A generic parameter, and whether it is a lifetime. -/
def genericParameter (g : Grammar) : Reader (Bool × List Code) := do
  let marked := Attribute.codeOf (← attributes g)
  if ← ahead beginsLifetime then
    let name ← lifetime
    let colon ← mark? ":"
    if colon.isEmpty then return (true, marked ++ name)
    if ← ahead beginsLifetime then
      let (list, trailing) ← joined "+" beginsLifetime lifetime
      return (true, marked ++ name ++ colon ++ separated (Code.operator "+") trailing list)
    else return (true, marked ++ name)
  else if ← isNextWord "const" then
    let const ← word "const"
    let name ← name
    let colon ← mark ":"
    let ty ← g.type true
    let equals ← mark? "="
    let value ←
      if equals.isEmpty then pure []
      else if ← ahead beginsValue then valueArgument g
      else do pure (nameCode (← Reader.name))
    return (false, marked ++ const ++ nameCode name ++ colon ++ ty.code ++ equals ++ value)
  else
    let name ← name
    let colon ← mark? ":"
    let list ←
      if colon.isEmpty || !(← ahead beginsBound) then pure []
      else do pure (colon ++ boundsCode (← bounds g true))
    let equals ← mark? "="
    let default ← if equals.isEmpty then pure [] else do pure (← g.type true).code
    return (false, marked ++ nameCode name ++ list ++ equals ++ default)

/-- Generic parameters in angle brackets, lifetimes first. No parameters are no code. -/
def generics (g : Grammar) : Reader (List Code) := do
  if !(← isNext "<") then return []
  let opening ← mark "<"
  let (parameters, trailing) ← listUntil (begins ">") "," (genericParameter g)
  let closing ← mark ">"
  if parameters.isEmpty then return []
  return opening ++ lifetimesFirst Code.comma trailing parameters ++ closing

def endsConditions (tokens : List Token) : Bool :=
  tokens.isEmpty || beginsGroup .brace tokens || begins ";" tokens || begins "=" tokens ||
    (begins ":" tokens && !begins "::" tokens)

def condition (g : Grammar) : Reader (List Code) := do
  if (← ahead beginsLifetime) && (← ahead fun tokens => begins ":" (tokens.drop 1)) then
    let name ← lifetime
    let colon ← mark ":"
    if ← ahead beginsLifetime then
      let (list, trailing) ← joined "+" beginsLifetime lifetime
      return name ++ colon ++ separated (Code.operator "+") trailing list
    else return name ++ colon
  else
    let front ← if ← isNextWord "for" then binder else pure []
    let ty ← g.type true
    let colon ← mark ":"
    let list ← if ← ahead beginsBound then bounds g true else pure ([], false)
    return front ++ ty.code ++ colon ++ boundsCode list

/-- Conditions behind `where`. No conditions are no code. -/
def conditions (g : Grammar) : Reader (List Code) := do
  let front ← word? "where"
  if front.isEmpty then return []
  let (list, trailing) ← listUntil endsConditions "," (condition g)
  if list.isEmpty then return [] else return front ++ separated [Code.comma] trailing list

end Grammar

end MemberMapping
