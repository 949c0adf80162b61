import MemberMapping.Program.Code
import MemberMapping.Token.Keyword

/-!
Reading tokens: the steps that every grammar rule is made of, and what is said where tokens do not
fit a rule.

A reader takes tokens from the front. Brackets are entered as a whole, so that a rule never reads
beyond the bracket that closes it.
-/

namespace MemberMapping

inductive Expectation
  | name
  | parentheses
  | braces
  | brackets
  | expression
  | stringLiteral
  | booleanLiteral
  | member
  | lifetime
  /-- A word of the language. -/
  | word (text : String)
  /-- An operator. -/
  | mark (text : String)
  /-- One of several. -/
  | oneOf (texts : List String)
deriving DecidableEq, Repr

def inBackquotes (text : String) : String := "`" ++ text ++ "`"

def Expectation.text : Expectation → String
  | name => "identifier"
  | parentheses => "parentheses"
  | braces => "curly braces"
  | brackets => "square brackets"
  | expression => "an expression"
  | stringLiteral => "string literal"
  | booleanLiteral => "boolean literal"
  | member => "identifier or integer"
  | lifetime => "lifetime"
  | word text => inBackquotes text
  | mark text => inBackquotes text
  | oneOf [only] => only
  | oneOf [first, second] => first ++ " or " ++ second
  | oneOf texts => "one of: " ++ ", ".intercalate texts

inductive SyntaxFault
  /-- Something else stands where `what` is expected. -/
  | expected (what : Expectation)
  /-- The tokens end where `what` is expected. -/
  | ended (what : Expectation)
  /-- A reserved word stands for a name. -/
  | reserved (word : String)
  /-- Tokens are left over. -/
  | unexpected
  /-- No attribute can be nested here: a literal, another token, or nothing. -/
  | nestedLiteral
  | nestedToken
  | nestedEnd
  /-- A number does not fit its type. -/
  | tooLarge
  /-- The tokens are nested too deeply. -/
  | tooDeep
deriving DecidableEq, Repr

namespace SyntaxFault

def message : SyntaxFault → String
  | expected what => "expected " ++ what.text
  | ended what => "unexpected end of input, expected " ++ what.text
  | reserved word => "expected identifier, found keyword " ++ inBackquotes word
  | unexpected => "unexpected token"
  | nestedLiteral => "unexpected literal in nested attribute, expected ident"
  | nestedToken => "unexpected token in nested attribute, expected ident"
  | nestedEnd => "unexpected end of input, expected nested attribute"
  | tooLarge => "number too large to fit in target type"
  | tooDeep => "nesting too deep"

end SyntaxFault

/-- Takes tokens from the front, or fails. -/
abbrev Reader := StateT (List Token) (Except SyntaxFault)

namespace Reader

def fail {α : Type} (fault : SyntaxFault) : Reader α := throw fault

/-- Fails because something is missing. At the end of the tokens the message says so, but for
operators. -/
def missing {α : Type} (what : Expectation) : Reader α := do
  match ← get, what with
  | [], .mark _ => fail (.expected what)
  | [], _ => fail (.ended what)
  | _ :: _, _ => fail (.expected what)

def atEnd : Reader Bool := do return (← get).isEmpty

def ahead {α : Type} (look : List Token → α) : Reader α := do return look (← get)

/-- The tokens begin with the characters of an operator. The last of them may be joint. -/
def beginsWithMarks : List Char → List Token → Bool
  | [], _ => true
  | [c], .mark d _ :: _ => c == d
  | c :: cs, .mark d joint :: rest => c == d && joint && beginsWithMarks cs rest
  | _ :: _, _ => false

def begins (operator : String) (tokens : List Token) : Bool :=
  beginsWithMarks operator.toList tokens

def beginsWord (word : String) : List Token → Bool
  | .ident text :: _ => text == word
  | _ => false

def beginsAnyWord (words : List String) : List Token → Bool
  | .ident text :: _ => words.contains text
  | _ => false

/-- The tokens begin with a name that is not reserved. -/
def beginsName : List Token → Bool
  | .ident text :: _ => !Token.isKeyword text
  | _ => false

def beginsLifetime : List Token → Bool
  | .lifetime _ :: _ => true
  | _ => false

def beginsGroup (delimiter : Delimiter) : List Token → Bool
  | .group d _ :: _ => d == delimiter
  | _ => false

/-- The tokens begin with a literal; truth values are literals, too. -/
def beginsLiteral : List Token → Bool
  | .literal _ :: _ => true
  | .ident text :: _ => text == "true" || text == "false"
  | .mark '-' _ :: .literal text :: _ => text.toList.head?.any Char.isDigit
  | _ => false

/-- The operator ahead, if it is that one. -/
def isNext (operator : String) : Reader Bool := ahead (begins operator)

def isNextWord (word : String) : Reader Bool := ahead (beginsWord word)

def next : Reader Token := do
  match ← get with
  | token :: rest => set rest; return token
  | [] => fail .unexpected

/-- Takes an operator. Its last character ends it from then on. -/
def mark (operator : String) : Reader (List Code) := do
  if ← isNext operator then
    modify (·.drop operator.length)
    return Code.ofTokens (Token.operator operator)
  else missing (.mark operator)

/-- Takes an operator, if it is there. -/
def mark? (operator : String) : Reader (List Code) := do
  if ← isNext operator then mark operator else return []

def word (text : String) : Reader (List Code) := do
  if ← isNextWord text then return [.token (← next)] else missing (.word text)

/-- Takes a word of the language, if it is there. -/
def word? (text : String) : Reader (List Code) := do
  if ← isNextWord text then return [.token (← next)] else return []

/-- Takes a name, reserved or not. -/
def anyName : Reader String := do
  match ← get with
  | .ident text :: rest => set rest; return text
  | _ => missing .name

/-- Takes a name that is not reserved. -/
def name : Reader String := do
  match ← get with
  | .ident text :: _ => if Token.isKeyword text then fail (.reserved text) else anyName
  | _ => missing .name

def lifetimeName : Reader String := do
  match ← get with
  | .lifetime text :: rest => set rest; return text
  | _ => missing .lifetime

def lifetime : Reader (List Code) := do return [.token (.lifetime (← lifetimeName))]

/-- Takes a lifetime, if it is there. -/
def lifetime? : Reader (List Code) := do
  if ← ahead beginsLifetime then lifetime else return []

def bracketExpectation : Delimiter → Expectation
  | .paren => .parentheses
  | .bracket => .brackets
  | .brace => .braces

def all {α : Type} (rule : Reader α) (tokens : List Token) : Except SyntaxFault α := do
  let (value, rest) ← rule tokens
  if rest.isEmpty then return value else throw .unexpected

/-- Reads the inside of a bracket by a rule that has to take all of it. -/
def inside {α : Type} (delimiter : Delimiter) (rule : Reader α) : Reader α := do
  match ← get with
  | .group d inner :: rest =>
    if d = delimiter then do
      let value ← all rule inner
      set rest
      return value
    else missing (bracketExpectation delimiter)
  | _ => missing (bracketExpectation delimiter)

/-- Repeats a rule while a condition holds of the tokens ahead, at most `limit` times. -/
def whileWithin {α : Type} (condition : List Token → Bool) (rule : Reader α) :
    Nat → Reader (List α)
  | 0 => return []
  | limit + 1 => do
    if ← ahead condition then do
      let value ← rule
      return value :: (← whileWithin condition rule limit)
    else return []

/-- Repeats a rule, which takes a token at least, while a condition holds. -/
def repeatWhile {α : Type} (condition : List Token → Bool) (rule : Reader α) : Reader (List α) := do
  whileWithin condition rule ((← get).length + 1)

def untilEnd {α : Type} (rule : Reader α) : Reader (List α) :=
  repeatWhile (!·.isEmpty) rule

/-- Elements with a separator between them, up to where `stop` holds, and whether a separator
stands behind the last one. -/
def listWithin {α : Type} (stop : List Token → Bool) (separator : String) (element : Reader α) :
    Nat → Reader (List α × Bool)
  | 0 => return ([], false)
  | limit + 1 => do
    if ← ahead stop then return ([], true)
    let value ← element
    if ← ahead stop then return ([value], false)
    let _ ← mark separator
    let (others, trailing) ← listWithin stop separator element limit
    return (value :: others, trailing)

/-- Elements with a separator between them up to where `stop` holds. -/
def listUntil {α : Type} (stop : List Token → Bool) (separator : String) (element : Reader α) :
    Reader (List α × Bool) := do
  let (values, trailing) ← listWithin stop separator element ((← get).length + 1)
  return (values, trailing && !values.isEmpty)

def commaList {α : Type} (element : Reader α) : Reader (List α × Bool) :=
  listUntil (·.isEmpty) "," element

/-- Elements with a separator between them as long as another one follows; `more` tells whether an
element begins behind a separator. -/
def joinedWithin {α : Type} (separator : String) (more : List Token → Bool) (element : Reader α) :
    Nat → Reader (List α × Bool)
  | 0 => return ([], false)
  | limit + 1 => do
    let value ← element
    if ← isNext separator then
      let _ ← mark separator
      if ← ahead more then
        let (others, trailing) ← joinedWithin separator more element limit
        return (value :: others, trailing)
      else return ([value], true)
    else return ([value], false)

/-- Elements with a separator between them as long as another one follows. -/
def joined {α : Type} (separator : String) (more : List Token → Bool) (element : Reader α) :
    Reader (List α × Bool) := do
  joinedWithin separator more element ((← get).length + 1)

end Reader

end MemberMapping
