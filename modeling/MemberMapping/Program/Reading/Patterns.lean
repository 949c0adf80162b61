import MemberMapping.Program.Reading.Types

/-!
Reading patterns. Of a pattern only its code is kept, and its name if it binds a single one.
-/

namespace MemberMapping.Grammar

open Reader

/-- A path of an expression or a pattern. The outline of a qualified one is never a name. -/
def valuePath (g : Grammar) : Reader (List Code × Option PathExpr × Outline) := do
  if ← isNext "<" then
    let (code, names) ← qualifiedPath g true
    return (code, none, .path names)
  else
    let path ← path g true
    let outline := match path with
      | ⟨false, [.plain name]⟩ => .name name
      | ⟨_, segments⟩ => .path (segments.map (·.name))
    return (path.code, some path, outline)

/-- Alternatives of a pattern, with a bar before the first one or not. -/
def alternatives (g : Grammar) : Reader (List Code) := do
  let leading ← mark? "|"
  let first ← g.pattern
  let others ← repeatWhile (fun tokens => begins "|" tokens && !begins "||" tokens) do
    let bar ← mark "|"
    return bar ++ (← g.pattern).code
  return leading ++ first.code ++ others.flatten

def rangeLimit (g : Grammar) : Reader (List Code) := do
  if ← ahead beginsLiteral then literal
  else if ← isNextWord "const" then return (← word "const") ++ (← block g).1
  else return (← valuePath g).1

/-- No limit of a range follows. -/
def endsRangePattern (tokens : List Token) : Bool :=
  tokens.isEmpty || begins "|" tokens || begins "=" tokens || begins "," tokens ||
    begins ";" tokens || beginsWord "if" tokens || (begins ":" tokens && !begins "::" tokens)

def rangeOperator : Reader (List Code) := do
  if ← isNext "..=" then mark "..="
  else if ← isNext "..." then mark "..."
  else mark ".."

def rangeTail (g : Grammar) : Reader (List Code) := do
  let operator ← rangeOperator
  if ← ahead endsRangePattern then return operator else return operator ++ (← rangeLimit g)

def fieldName : Reader (List Code) := do
  match ← get with
  | .literal text :: rest =>
    if text.toList.all Char.isDigit then
      set rest
      return [.token (.literal text)]
    else missing .member
  | tokens => if beginsName tokens then return nameCode (← anyName) else missing .member

def fieldPattern (g : Grammar) : Reader (List Code) := do
  let marked := Attribute.codeOf (← attributes g)
  if ← isNext ".." then return marked ++ (← mark "..")
  let front := (← word? "box") ++ (← word? "ref") ++ (← word? "mut")
  let name ← fieldName
  if front.isEmpty && (← isNext ":") then
    let colon ← mark ":"
    return marked ++ name ++ colon ++ (← alternatives g)
  else return marked ++ front ++ name

def pathPattern (g : Grammar) : Reader (List Code) := do
  let (code, path, _) ← valuePath g
  let tokens ← get
  if path.any (callsMacro · tokens) then return code ++ (← macroTail)
  else if beginsGroup .brace tokens then
    let (fields, trailing) ← inside .brace (commaList (fieldPattern g))
    return code ++ bracketed .brace trailing fields
  else if beginsGroup .paren tokens then
    let (elements, trailing) ← inside .paren (commaList (alternatives g))
    return code ++ bracketed .paren trailing elements
  else if begins ".." tokens then return code ++ (← rangeTail g)
  else return code

/-- A path that is more than a single name begins. -/
def beginsPathPattern (tokens : List Token) : Bool :=
  let behind := tokens.drop 1
  (beginsName tokens &&
    (begins "::" behind || begins "!" behind || begins ".." behind ||
      beginsGroup .brace behind || beginsGroup .paren behind)) ||
  (beginsWord "self" tokens && begins "::" behind) ||
  begins "::" tokens || begins "<" tokens || beginsAnyWord ["Self", "super", "crate"] tokens

def namePattern (g : Grammar) : Reader ReadPattern := do
  let front := (← word? "ref") ++ (← word? "mut")
  let name ← if ← isNextWord "self" then anyName else name
  let binding ← mark? "@"
  let inner ← if binding.isEmpty then pure [] else do pure (← g.pattern).code
  return { code := front ++ nameCode name ++ binding ++ inner, name := some name }

def patternFronts : List String :=
  "identifier" :: ["::", "<", "_"].map inBackquotes ++ ["literal"] ++
    ["const", "ref", "mut", "&"].map inBackquotes ++
    ["parentheses", "square brackets", inBackquotes ".."]

/-- A pattern without alternatives. -/
def patternRule (g : Grammar) : Reader ReadPattern := do
  let tokens ← get
  if beginsPathPattern tokens then return { code := ← pathPattern g }
  else if beginsWord "_" tokens then return { code := ← word "_" }
  else if beginsWord "box" tokens then
    return { code := (← word "box") ++ (← g.pattern).code }
  else if begins "-" tokens || beginsLiteral tokens || beginsWord "const" tokens then
    let limit ← rangeLimit g
    if ← isNext ".." then return { code := limit ++ (← rangeTail g) } else return { code := limit }
  else if beginsAnyWord ["ref", "mut", "self"] tokens || beginsName tokens then namePattern g
  else if begins "&" tokens then
    let front := (← mark "&") ++ (← word? "mut")
    return { code := front ++ (← g.pattern).code }
  else if beginsGroup .paren tokens then
    let (elements, trailing) ← inside .paren (commaList (alternatives g))
    return { code := bracketed .paren trailing elements }
  else if beginsGroup .bracket tokens then
    let (elements, trailing) ← inside .bracket (commaList (alternatives g))
    return { code := bracketed .bracket trailing elements }
  else if begins ".." tokens then return { code := ← rangeTail g }
  else missing (.oneOf patternFronts)

end MemberMapping.Grammar
