import MemberMapping.Program.Reading.Expressions

/-!
Reading items.

Items that a mapping looks into are taken apart. Others are kept as code in the form in which they
are printed; an item of an unusual form, such as a function without a body, is kept as it is
written.
-/

namespace MemberMapping.Grammar

open Reader

/-- The word `pub`, with the modules it is restricted to. -/
def visibility : Reader (List Code) := do
  let front ← word? "pub"
  if front.isEmpty then return []
  match ← get with
  | .group .paren inner :: rest =>
    match inner with
    | [.ident text] =>
      if ["crate", "self", "super"].contains text then
        set rest
        return front ++ [.group .paren (nameCode text)]
      else return front
    | .ident "in" :: _ =>
      let path ← inside .paren do
        let within ← word "in"
        return within ++ Code.ofTokens (← namePath).tokens
      return front ++ [.group .paren path]
    | _ => return front
  | _ => return front

/-- The tokens behind a word, if it is there. -/
def dropWord (text : String) (tokens : List Token) : List Token :=
  if beginsWord text tokens then tokens.drop 1 else tokens

def beginsFunction (tokens : List Token) : Bool :=
  let tokens := dropWord "unsafe" (dropWord "async" (dropWord "const" tokens))
  let tokens := match tokens with
    | .ident "extern" :: .literal _ :: rest => rest
    | .ident "extern" :: rest => rest
    | _ => tokens
  beginsWord "fn" tokens

def functionFront : Reader (List Code) := do
  let qualifiers := (← word? "const") ++ (← word? "async") ++ (← word? "unsafe")
  return qualifiers ++ (← linkage?) ++ (← word "fn")

def beginsReceiver (tokens : List Token) : Bool :=
  let tokens := if begins "&" tokens then
      let behind := tokens.drop 1
      if beginsLifetime behind then behind.drop 1 else behind
    else tokens
  match dropWord "mut" tokens with
  | .ident "self" :: rest => !begins "::" rest
  | _ => false

def receiver (g : Grammar) : Reader (List Code) := do
  let reference ← mark? "&"
  let lifetime ← if reference.isEmpty then pure [] else lifetime?
  let front := reference ++ lifetime ++ (← word? "mut") ++ (← word "self")
  if reference.isEmpty && (← isNext ":") then
    return front ++ (← mark ":") ++ (← g.type true).code
  else return front

def parameter (g : Grammar) : Reader Parameter := do
  let marked ← attributes g
  let tokens ← get
  if begins "..." tokens then return .variadic (Attribute.codeOf marked ++ (← mark "..."))
  else if beginsReceiver tokens then
    return .receiver (Attribute.codeOf marked ++ (← receiver g))
  else if beginsName tokens && begins "<" (tokens.drop 1) then
    return .typed marked (nameCode "_") none (← g.type true)
  else
    let pattern ← g.pattern
    let colon ← mark ":"
    if ← isNext "..." then
      return .variadic (Attribute.codeOf marked ++ pattern.code ++ colon ++ (← mark "..."))
    else return .typed marked pattern.code pattern.name (← g.type true)

def signature (g : Grammar) (marked : List Attribute) (front : List Code) : Reader Function := do
  let front := front ++ (← functionFront)
  let name ← name
  let generics ← generics g
  let (parameters, trailing) ← inside .paren (commaList (parameter g))
  let result ← if ← isNext "->" then do
      let _ ← mark "->"
      pure (some (← g.type true))
    else pure none
  let conditions ← conditions g
  return {
    attributes := marked
    front := front
    name := name
    generics := generics
    parameters := parameters
    trailing := trailing
    result := result
    conditions := conditions
    body := []
    ending := none }

/-- The tokens from `start` to where the reader stands, as they are. -/
def takenSince (start : List Token) : Reader (List Code) := do
  return Code.ofTokens (start.take (start.length - (← get).length))

/-- A function with its body; without one it is kept as it is written from `start` on. -/
def functionOr (g : Grammar) (start : List Token) (marked : List Attribute)
    (front : List Code) : Reader (Sum Function (List Code)) := do
  let function ← signature g marked front
  if ← isNext ";" then
    let _ ← mark ";"
    return .inr (← takenSince start)
  else
    let body ← inside .brace g.body
    return .inl { function with
      innerAttributes := body.attributes
      body := body.tokens
      ending := body.ending }

/-- A constant of an item, a trait or an implementation. One with parameters or conditions, or
without a value where it needs one, is kept as it is written from `start` on. -/
def constantRule (g : Grammar) (start : List Token) (front : List Code) (needsValue : Bool) :
    Reader (List Code) := do
  let const ← word "const"
  let name ←
    if ← ahead fun tokens => beginsName tokens || beginsWord "_" tokens then anyName
    else missing (.oneOf ["identifier", inBackquotes "_"])
  let generics ← generics g
  let colon ← mark ":"
  let ty ← g.type true
  let equals ← mark? "="
  let value ← if equals.isEmpty then pure [] else do pure (← g.expression true).code
  let conditions ← conditions g
  let semicolon ← mark ";"
  if !generics.isEmpty || !conditions.isEmpty || (needsValue && equals.isEmpty) then
    takenSince start
  else return front ++ const ++ nameCode name ++ colon ++ ty.code ++ equals ++ value ++ semicolon

/-- Where the conditions of a type declaration are printed. -/
inductive TypeForm
  | item | traitMember | implMember
deriving DecidableEq

/-- A type declaration. Items and members of implementations need a type and take no bounds. -/
def typeDeclaration (g : Grammar) (start : List Token) (front : List Code) (form : TypeForm) :
    Reader (List Code) := do
  let type ← word "type"
  let name ← name
  let generics ← generics g
  let colon ← mark? ":"
  let list ←
    if colon.isEmpty || !(← ahead beginsBound) then pure []
    else do pure (colon ++ boundsCode (← bounds g true))
  let before ← conditions g
  let equals ← mark? "="
  let ty ← if equals.isEmpty then pure [] else do pure (← g.type true).code
  let after ← conditions g
  let semicolon ← mark ";"
  let conditions := before ++ after
  let head := front ++ type ++ nameCode name ++ generics
  match form with
  | .traitMember => return head ++ list ++ equals ++ ty ++ conditions ++ semicolon
  | .item =>
    if equals.isEmpty || !colon.isEmpty then takenSince start
    else return head ++ conditions ++ equals ++ ty ++ semicolon
  | .implMember =>
    if equals.isEmpty || !colon.isEmpty then takenSince start
    else return head ++ equals ++ ty ++ conditions ++ semicolon

/-- A macro call that is an item or a member. Only one in braces needs no semicolon. -/
def macroItem (front : List Code) : Reader (List Code) := do
  let path ← namePath
  let bang ← mark "!"
  let name ← if ← ahead fun tokens => beginsName tokens || beginsWord "try" tokens then do
      pure (nameCode (← anyName))
    else pure []
  match ← next with
  | .group delimiter inner =>
    let semicolon ← if delimiter = .brace then pure [] else mark ";"
    return front ++ Code.ofTokens path.tokens ++ bang ++ name ++
      [.token (.group delimiter inner)] ++ semicolon
  | _ => fail .unexpected

def beginsMacro (tokens : List Token) : Bool :=
  beginsName tokens || beginsAnyWord ["self", "super", "crate"] tokens || begins "::" tokens

def namedField (g : Grammar) : Reader Field := do
  let marked ← attributes g
  let visibility ← visibility
  let name ← if ← isNextWord "_" then anyName else name
  let _ ← mark ":"
  return ⟨marked, visibility, some name, ← g.type true⟩

def positionalField (g : Grammar) : Reader Field := do
  let marked ← attributes g
  let visibility ← visibility
  return ⟨marked, visibility, none, ← g.type true⟩

def namedFields (g : Grammar) : Reader Fields := do
  let (fields, trailing) ← inside .brace (commaList (namedField g))
  return .named fields trailing

def positionalFields (g : Grammar) : Reader Fields := do
  let (fields, trailing) ← inside .paren (commaList (positionalField g))
  return .positional fields trailing

/-- What may follow the head of a struct, behind conditions or not. -/
def structBodies (conditional : Bool) : List String :=
  (if conditional then [] else [inBackquotes "where", "parentheses"]) ++
    ["curly braces", inBackquotes ";"]

def structRule (g : Grammar) (marked : List Attribute) (visibility : List Code) :
    Reader StructItem := do
  let _ ← word "struct"
  let name ← name
  let generics ← generics g
  let conditional ← isNextWord "where"
  let before ← conditions g
  let tokens ← get
  if !conditional && beginsGroup .paren tokens then
    let fields ← positionalFields g
    let conditional ← isNextWord "where"
    let conditions ← conditions g
    if ← isNext ";" then
      let _ ← mark ";"
      return ⟨marked, visibility, name, generics, conditions, fields⟩
    else
      missing (.oneOf ((if conditional then [] else [inBackquotes "where"]) ++ [inBackquotes ";"]))
  else if beginsGroup .brace tokens then
    return ⟨marked, visibility, name, generics, before, ← namedFields g⟩
  else if begins ";" tokens then
    let _ ← mark ";"
    return ⟨marked, visibility, name, generics, before, .unit⟩
  else missing (.oneOf (structBodies conditional))

def variantRule (g : Grammar) : Reader Variant := do
  let marked ← attributes g
  let _ ← visibility
  let name ← name
  let tokens ← get
  let fields ←
    if beginsGroup .brace tokens then namedFields g
    else if beginsGroup .paren tokens then positionalFields g
    else pure .unit
  let equals ← mark? "="
  let value ← if equals.isEmpty then pure [] else do pure (← g.expression true).code
  return ⟨marked, name, fields, equals ++ value⟩

def enumRule (g : Grammar) (marked : List Attribute) (visibility : List Code) :
    Reader EnumItem := do
  let _ ← word "enum"
  let name ← name
  let generics ← generics g
  let conditions ← conditions g
  let (variants, trailing) ← inside .brace (commaList (variantRule g))
  return ⟨marked, visibility, name, generics, conditions, variants, trailing⟩

def unionRule (g : Grammar) (marked : List Attribute) (visibility : List Code) :
    Reader UnionItem := do
  let _ ← word "union"
  let name ← name
  let generics ← generics g
  let conditions ← conditions g
  let (fields, trailing) ← inside .brace (commaList (namedField g))
  return ⟨marked, visibility, name, generics, conditions, fields, trailing⟩

def macroFronts : List String :=
  "identifier" :: ["self", "super", "crate", "::"].map inBackquotes

def memberFronts : List String :=
  ["fn", "const", "type"].map inBackquotes ++ macroFronts

/-- A member of a trait. One with a visibility is kept as it is written. -/
def traitMember (g : Grammar) : Reader (List Code) := do
  let start ← get
  let marked ← attributes g
  let qualifiers := (← visibility) ++ (← word? "default")
  let tokens ← get
  let front := Attribute.codeOf marked
  let code ←
    if beginsFunction tokens then do
      let function ← signature g marked []
      if ← isNext ";" then do
        pure (front ++ function.signatureCode ++ (← mark ";"))
      else do pure (front ++ function.signatureCode ++ (← block g).1)
    else if beginsWord "const" tokens then constantRule g start front false
    else if beginsWord "type" tokens then typeDeclaration g start front .traitMember
    else if beginsMacro tokens then macroItem front
    else missing (.oneOf memberFronts)
  if qualifiers.isEmpty then return code else takenSince start

/-- A trait, or another name for bounds, behind its attributes and visibility. -/
def traitRule (g : Grammar) (marked : List Attribute) (visibility : List Code) : Reader Item := do
  let qualifiers := (← word? "unsafe") ++ (← word? "auto")
  let front := visibility ++ qualifiers ++ (← word "trait")
  let name ← name
  let generics ← generics g
  let tokens ← get
  if qualifiers.isEmpty && !beginsGroup .brace tokens && !begins ":" tokens &&
      !beginsWord "where" tokens && !begins "=" tokens then
    missing (.oneOf ("curly braces" :: [":", "where", "="].map inBackquotes))
  else if qualifiers.isEmpty && begins "=" tokens then
    let equals ← mark "="
    let list := boundsCode (← bounds g true)
    let conditions ← conditions g
    return .other (Attribute.codeOf marked ++ front ++ nameCode name ++ generics ++ equals ++
      list ++ conditions ++ (← mark ";"))
  let colon ← mark? ":"
  let list ←
    if colon.isEmpty || !(← ahead beginsBound) || (← isNextWord "where") then pure []
    else do pure (colon ++ boundsCode (← bounds g true))
  let conditions ← conditions g
  let members ← inside .brace do
    let inner := Attribute.innerCodeOf (← innerAttributes g)
    return inner ++ (← untilEnd (traitMember g)).flatten
  return .trait ⟨marked, front, name, generics ++ list ++ conditions ++ [.group .brace members]⟩

def implMember (g : Grammar) : Reader ImplMember := do
  let start ← get
  let marked ← attributes g
  let front := (← visibility) ++
    (← if ← ahead fun tokens => beginsWord "default" tokens && !begins "!" (tokens.drop 1) then
        word "default"
      else pure [])
  let tokens ← get
  let head := Attribute.codeOf marked ++ front
  if beginsFunction tokens then
    match ← functionOr g start marked front with
    | .inl function => return .function function
    | .inr code => return .other code
  else if beginsWord "const" tokens then return .other (← constantRule g start head true)
  else if beginsWord "type" tokens then return .other (← typeDeclaration g start head .implMember)
  else if front.isEmpty && beginsMacro tokens then return .other (← macroItem head)
  else missing (.oneOf (inBackquotes "default" :: memberFronts))

/-- Generic parameters follow, not a qualified path. -/
def beginsGenerics (tokens : List Token) : Bool :=
  let second := tokens.drop 1
  let third := tokens.drop 2
  begins "<" tokens &&
    (begins ">" second || begins "#" second || beginsWord "const" second ||
      ((beginsName second || beginsLifetime second) &&
        ((begins ":" third && !begins "::" third) || begins "," third || begins ">" third ||
          begins "=" third)))

/-- An implementation behind its attributes. One with a visibility, or of a trait that is not a
path, is kept as it is written from `start` on. -/
def implRule (g : Grammar) (start : List Token) (marked : List Attribute)
    (visibility : List Code) : Reader Item := do
  let front := (← word? "default") ++ (← word? "unsafe") ++ (← word "impl")
  let generics ← if ← ahead beginsGenerics then generics g else pure []
  let constant ← word? "const"
  let negation ← if ← ahead fun tokens => begins "!" tokens && !beginsGroup .brace (tokens.drop 1)
    then mark "!" else pure []
  let first ← g.type true
  let interface ← word? "for"
  let self ← if interface.isEmpty then pure first else g.type true
  let conditions ← conditions g
  let (inner, members) ← inside .brace do
    let inner ← innerAttributes g
    return (inner, ← untilEnd (implMember g))
  let item (interface : Option ImplTrait) : Item :=
    .impl ⟨marked, front ++ generics, interface, self, conditions, inner, members⟩
  if !visibility.isEmpty || !constant.isEmpty then return .other (← takenSince start)
  match interface, first with
  | [], _ => return item none
  | _ :: _, .path path => return item (some ⟨!negation.isEmpty, path⟩)
  | _ :: _, _ => return .other (← takenSince start)

/-- What a use declaration names: a path, a name with another one for it, everything, or several
of these in braces. -/
def importedRule (g : Grammar) : Reader (List Code) := do
  let tokens ← get
  if begins "*" tokens then mark "*"
  else if beginsGroup .brace tokens then
    let (parts, trailing) ← inside .brace (commaList g.imported)
    return bracketed .brace trailing parts
  else if beginsName tokens || beginsAnyWord ["self", "super", "crate", "try"] tokens then
    let name := nameCode (← anyName)
    if ← isNext "::" then return name ++ (← mark "::") ++ (← g.imported)
    else if ← isNextWord "as" then
      let as ← word "as"
      return name ++ as ++ nameCode (← if ← isNextWord "_" then anyName else Reader.name)
    else return name
  else if begins "::" tokens then return (← mark "::") ++ (← g.imported)
  else missing (.oneOf
    ("identifier" :: ["self", "super", "crate", "try", "*"].map inBackquotes ++ ["curly braces"]))

def useRule (g : Grammar) (front : List Code) : Reader (List Code) := do
  let use ← word "use"
  let rooted ← mark? "::"
  return front ++ use ++ rooted ++ (← g.imported) ++ (← mark ";")

/-- A static variable behind its front. One without type or value is kept as it is written. -/
def staticRule (g : Grammar) (start : List Token) (front : List Code) : Reader (List Code) := do
  let static := (← word "static") ++ (← word? "mut")
  let name ← name
  let colon ← mark? ":"
  let ty ← if colon.isEmpty then pure [] else do pure (← g.type true).code
  let equals ← mark? "="
  let value ← if equals.isEmpty then pure [] else do pure (← g.expression true).code
  let semicolon ← mark ";"
  if colon.isEmpty || equals.isEmpty then takenSince start
  else return front ++ static ++ nameCode name ++ colon ++ ty ++ equals ++ value ++ semicolon

def crateRule (front : List Code) : Reader (List Code) := do
  let words := (← word "extern") ++ (← word "crate")
  let name ← if ← isNextWord "self" then anyName else name
  let as ← word? "as"
  let renamed ←
    if as.isEmpty then pure []
    else do pure (nameCode (← if ← isNextWord "_" then anyName else Reader.name))
  return front ++ words ++ nameCode name ++ as ++ renamed ++ (← mark ";")

def foreignMember (g : Grammar) : Reader (List Code) := do
  let start ← get
  let marked ← attributes g
  let front := Attribute.codeOf marked ++ (← visibility)
  let safety := (← get).head?.any fun token => token matches .ident "safe"
  let safe ← if safety then word? "safe" else pure []
  let tokens ← get
  if beginsFunction tokens then
    let function ← signature g [] front
    if ← isNext ";" then
      let semicolon ← mark ";"
      if safe.isEmpty then return function.signatureCode ++ semicolon else takenSince start
    else
      let _ ← block g
      takenSince start
  else if beginsWord "static" (dropWord "unsafe" tokens) then
    let qualified := (← word? "unsafe") ++ safe
    let static := (← word "static") ++ (← word? "mut")
    let name ← name
    let colon ← mark ":"
    let ty ← g.type true
    let equals ← mark? "="
    let _ ← if equals.isEmpty then pure [] else do pure (← g.expression true).code
    let semicolon ← mark ";"
    if qualified.isEmpty && equals.isEmpty then
      return front ++ static ++ nameCode name ++ colon ++ ty.code ++ semicolon
    else takenSince start
  else if beginsWord "type" tokens then
    let type ← word "type"
    let name ← name
    let generics ← generics g
    let semicolon ← mark ";"
    return front ++ type ++ nameCode name ++ generics ++ semicolon
  else if beginsMacro tokens then macroItem front
  else missing (.oneOf (["fn", "static", "type"].map inBackquotes ++ macroFronts))

def foreignBlock (g : Grammar) (front : List Code) : Reader (List Code) := do
  let front := front ++ (← word? "unsafe") ++ (← linkage?)
  let members ← inside .brace do
    let inner := Attribute.innerCodeOf (← innerAttributes g)
    return inner ++ (← untilEnd (foreignMember g)).flatten
  return front ++ [.group .brace members]

/-- A module behind its attributes and visibility, in place or in a file of its own. -/
def moduleRule (g : Grammar) (marked : List Attribute) (visibility : List Code) : Reader Item := do
  let front := visibility ++ (← word? "unsafe") ++ (← word "mod")
  let name ← if ← isNextWord "try" then anyName else name
  if ← isNext ";" then
    return .other (Attribute.codeOf marked ++ front ++ nameCode name ++ (← mark ";"))
  else if ← ahead (beginsGroup .brace) then
    let (inner, items) ← inside .brace do
      let inner ← innerAttributes g
      return (inner, ← untilEnd g.item)
    return .module marked front name inner items
  else missing (.oneOf [inBackquotes ";", "curly braces"])

def macroDeclaration : Reader Unit := do
  let _ ← word "macro"
  let _ ← name
  match ← next with
  | .group .brace _ => return ()
  | .group .paren _ =>
    match ← next with
    | .group .brace _ => return ()
    | _ => fail .unexpected
  | _ => fail .unexpected

def itemFronts : List String :=
  ["fn", "extern", "use", "static", "const", "unsafe", "mod", "type", "struct", "enum", "union",
    "trait", "auto", "impl", "default", "macro"].map inBackquotes ++ macroFronts

def itemRule (g : Grammar) : Reader Item := do
  let start ← get
  let marked ← attributes g
  let visibility ← visibility
  let tokens ← get
  let second := tokens.drop 1
  let behindUnsafe := dropWord "unsafe" tokens
  let front := Attribute.codeOf marked ++ visibility
  if beginsFunction tokens then
    match ← functionOr g start marked visibility with
    | .inl function => return .other function.code
    | .inr code => return .other code
  else if beginsWord "extern" tokens && beginsWord "crate" second then
    return .other (← crateRule front)
  else if beginsWord "extern" behindUnsafe then return .other (← foreignBlock g front)
  else if beginsWord "use" tokens then return .other (← useRule g front)
  else if beginsWord "static" tokens then return .other (← staticRule g start front)
  else if beginsWord "const" tokens then return .other (← constantRule g start front true)
  else if beginsWord "mod" behindUnsafe then moduleRule g marked visibility
  else if beginsWord "type" tokens then return .other (← typeDeclaration g start front .item)
  else if beginsWord "struct" tokens then return .struct (← structRule g marked visibility)
  else if beginsWord "enum" tokens then return .enum (← enumRule g marked visibility)
  else if beginsWord "union" tokens && beginsName second then
    return .union (← unionRule g marked visibility)
  else if beginsWord "trait" (dropWord "auto" behindUnsafe) then traitRule g marked visibility
  else if beginsWord "impl" behindUnsafe ||
      (beginsWord "default" tokens && !begins "!" second) then
    implRule g start marked visibility
  else if beginsWord "macro" tokens then
    macroDeclaration
    return .other (← takenSince start)
  else if visibility.isEmpty && beginsMacro tokens then return .other (← macroItem front)
  else missing (.oneOf itemFronts)

/-- A module alone, as the attribute of a module sees it. -/
def moduleAlone (g : Grammar) : Reader Item := do
  let marked ← attributes g
  let visibility ← visibility
  moduleRule g marked visibility

def fileRule (g : Grammar) : Reader SourceFile := do
  let inner ← innerAttributes g
  return ⟨inner, ← untilEnd g.item⟩

/-- The rules for tokens that are nested at most `depth` deep. -/
def within : Nat → Grammar
  | 0 => default
  | depth + 1 =>
    { type := fun plus tokens => typeRule (within depth) plus tokens
      expression := fun braces tokens => expressionRule (within depth) braces tokens
      operand := fun braces tokens => operandRule (within depth) braces tokens
      pattern := fun tokens => patternRule (within depth) tokens
      arm := fun tokens => armRule (within depth) tokens
      body := fun tokens => bodyRule (within depth) tokens
      item := fun tokens => itemRule (within depth) tokens
      imported := fun tokens => importedRule (within depth) tokens }

end Grammar

mutual

def Token.count : Token → Nat
  | .group _ inner => Token.countAll inner + 1
  | _ => 1

def Token.countAll : List Token → Nat
  | [] => 0
  | token :: rest => token.count + Token.countAll rest

end

/-- The rules for a sequence of tokens. No token takes more than three steps down. -/
def Grammar.ofTokens (tokens : List Token) : Grammar :=
  .within (3 * Token.countAll tokens + 10)

/-- Reads a sequence of tokens by a rule that has to take all of it. -/
def Grammar.read {α : Type} (rule : Grammar → Reader α) (tokens : List Token) :
    Except SyntaxFault α :=
  Reader.all (rule (Grammar.ofTokens tokens)) tokens

end MemberMapping
