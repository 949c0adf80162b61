import MemberMapping.Program.Code

/-!
Types as they are written.

Paths, references and trait objects are taken apart, because a mapping looks into them; all other
types are kept as code.
-/

namespace MemberMapping

mutual

/-- A written type. -/
inductive TypeExpr where
  /-- A reference: the ampersand with its lifetime and mutability, and the type referred to. -/
  | reference (front : List Token) (target : TypeExpr)
  /-- A type in parentheses. -/
  | paren (inner : TypeExpr)
  /-- Bounds joined by `+`, behind the keyword `dyn` or without it. -/
  | traitObject (keyword : Bool) (bounds : List Bound) (trailing : Bool)
  | path (path : PathExpr)
  /-- A type of another form: a tuple, an array, a function, a qualified path and so on. -/
  | other (code : List Code)

inductive Bound where
  | lifetime (name : String)
  /-- A trait, with what stands before its path. -/
  | implements (front : List Code) (path : PathExpr) (inParens : Bool)
  | other (code : List Code)

structure PathExpr where
  /-- The path begins with `::`. -/
  rooted : Bool
  segments : List Segment

inductive Segment where
  | plain (name : String)
  /-- A name with arguments in angle brackets, which may stand behind a further `::`. -/
  | generic (name : String) (turbofish : Bool) (arguments : List GenericArgument) (trailing : Bool)
  /-- A name with parameters in parentheses and possibly a result. -/
  | callable (name : String) (code : List Code)

/-- A generic argument of a path. Only types count in a mapping. -/
inductive GenericArgument where
  | lifetime (name : String)
  | type (argument : TypeExpr)
  | other (code : List Code)

end

instance : Inhabited PathExpr := ⟨⟨false, []⟩⟩
instance : Inhabited TypeExpr := ⟨.path default⟩

namespace Segment

def name : Segment → String
  | plain name => name
  | generic name _ _ _ => name
  | callable name _ => name

/-- The segment is its name alone. -/
def isPlain : Segment → Bool
  | plain _ => true
  | _ => false

def arguments : Segment → List GenericArgument
  | generic _ _ arguments _ => arguments
  | _ => []

end Segment

namespace PathExpr

def ofName (name : String) : PathExpr :=
  ⟨false, [.plain name]⟩

/-- The last segment; a path that is read has one. -/
def last? (path : PathExpr) : Option Segment :=
  path.segments.getLast?

end PathExpr

def GenericArgument.isLifetime : GenericArgument → Bool
  | lifetime _ => true
  | _ => false

/-- Each part with a comma, the last one only where `trailing`. -/
def withCommas {α : Type} (comma : α) (trailing : Bool) : List (List α) → List (List α)
  | [] => []
  | [part] => [if trailing then part ++ [comma] else part]
  | part :: rest => (part ++ [comma]) :: withCommas comma trailing rest

/-- Elements between commas, with those marked as lifetimes before all others. A comma that got
lost by the move is made up for. -/
def lifetimesFirst {α : Type} (comma : α) (trailing : Bool) (parts : List (Bool × List α)) :
    List α :=
  let marked := (parts.map (·.1)).zip (withCommas comma trailing (parts.map (·.2)))
  let lifetimes := (marked.filter (·.1)).map (·.2)
  let others := (marked.filter (!·.1)).map (·.2)
  let lost := !trailing && (parts.getLast?.any (·.1)) && !others.isEmpty
  lifetimes.flatten ++ (if lost then [comma] else []) ++ others.flatten

def Code.comma : Code := .token Token.comma

def Code.operator (text : String) : List Code :=
  Code.ofTokens (Token.operator text)

mutual

/-- The code of a written type. -/
def TypeExpr.code : TypeExpr → List Code
  | .reference front target => Code.ofTokens front ++ target.code
  | .paren inner => [.group .paren inner.code]
  | .traitObject keyword bounds trailing =>
    (if keyword then [.token (.ident "dyn")] else []) ++
      separated (Code.operator "+") trailing (Bound.codes bounds)
  | .path path => path.code
  | .other code => code

/-- The code of a bound. -/
def Bound.code : Bound → List Code
  | .lifetime name => [.token (.lifetime name)]
  | .implements front path inParens =>
    if inParens then [.group .paren (front ++ path.code)] else front ++ path.code
  | .other code => code

def Bound.codes : List Bound → List (List Code)
  | [] => []
  | bound :: rest => bound.code :: Bound.codes rest

/-- The code of a path. -/
def PathExpr.code : PathExpr → List Code
  | ⟨rooted, segments⟩ =>
    (if rooted then Code.operator "::" else []) ++
      separated (Code.operator "::") false (Segment.codes segments)

/-- The code of a segment. -/
def Segment.code : Segment → List Code
  | .plain name => [.token (.ident name)]
  | .generic name turbofish arguments trailing =>
    [.token (.ident name)] ++ (if turbofish then Code.operator "::" else []) ++
      Code.operator "<" ++
      lifetimesFirst Code.comma trailing (GenericArgument.codes arguments) ++ Code.operator ">"
  | .callable name code => .token (.ident name) :: code

def Segment.codes : List Segment → List (List Code)
  | [] => []
  | segment :: rest => segment.code :: Segment.codes rest

/-- The code of a generic argument. -/
def GenericArgument.code : GenericArgument → List Code
  | .lifetime name => [.token (.lifetime name)]
  | .type argument => argument.code
  | .other code => code

def GenericArgument.codes : List GenericArgument → List (Bool × List Code)
  | [] => []
  | argument :: rest => (argument.isLifetime, argument.code) :: GenericArgument.codes rest

end

namespace TypeExpr

def tokens (ty : TypeExpr) : List Token := Code.tokensOf ty.code

def text (ty : TypeExpr) : String := Token.textOf ty.tokens

end TypeExpr

namespace PathExpr

def tokens (path : PathExpr) : List Token := Code.tokensOf path.code

def text (path : PathExpr) : String := Token.textOf path.tokens

end PathExpr

mutual

/-- A type without the helper attributes of parameters within it. -/
def TypeExpr.stripped : TypeExpr → TypeExpr
  | .reference front target => .reference front target.stripped
  | .paren inner => .paren inner.stripped
  | .traitObject keyword bounds trailing => .traitObject keyword (Bound.strippedAll bounds) trailing
  | .path path => .path path.stripped
  | .other code => .other (Code.strippedAll code)

/-- A bound without the helper attributes of parameters within it. -/
def Bound.stripped : Bound → Bound
  | .lifetime name => .lifetime name
  | .implements front path inParens => .implements (Code.strippedAll front) path.stripped inParens
  | .other code => .other (Code.strippedAll code)

/-- Each bound without helper attributes. -/
def Bound.strippedAll : List Bound → List Bound
  | [] => []
  | bound :: rest => bound.stripped :: Bound.strippedAll rest

/-- A path without the helper attributes of parameters within it. -/
def PathExpr.stripped : PathExpr → PathExpr
  | ⟨rooted, segments⟩ => ⟨rooted, Segment.strippedAll segments⟩

/-- A segment without the helper attributes of parameters within it. -/
def Segment.stripped : Segment → Segment
  | .plain name => .plain name
  | .generic name turbofish arguments trailing =>
    .generic name turbofish (GenericArgument.strippedAll arguments) trailing
  | .callable name code => .callable name (Code.strippedAll code)

/-- Each segment without helper attributes. -/
def Segment.strippedAll : List Segment → List Segment
  | [] => []
  | segment :: rest => segment.stripped :: Segment.strippedAll rest

/-- An argument without the helper attributes of parameters within it. -/
def GenericArgument.stripped : GenericArgument → GenericArgument
  | .lifetime name => .lifetime name
  | .type argument => .type argument.stripped
  | .other code => .other (Code.strippedAll code)

/-- Each argument without helper attributes. -/
def GenericArgument.strippedAll : List GenericArgument → List GenericArgument
  | [] => []
  | argument :: rest => argument.stripped :: GenericArgument.strippedAll rest

end

end MemberMapping
