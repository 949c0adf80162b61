import MemberMapping.Text.Quoted
import MemberMapping.Token
import MemberMapping.Token.Number

/-!
Scanning source text: from characters to tokens.

Blanks and comments separate tokens and are dropped. A documentation comment becomes the attribute
it stands for. A punctuation character is joint where another one follows directly. Brackets have
to match.
-/

namespace MemberMapping.Token

inductive Lexeme where
  | leaf (token : Token)
  | opening (delimiter : Delimiter)
  | closing (delimiter : Delimiter)

/-- Characters that separate tokens: white space and the marks that set the writing direction. A
carriage return alone is none. -/
def isSeparator (c : Char) : Bool :=
  c != '\r' && (Text.isBlank c || c == '\u200e' || c == '\u200f')

/-- Splits off a line. A line feed, with a carriage return before it or not, belongs to the rest. -/
def splitLine : List Char → List Char × List Char
  | [] => ([], [])
  | '\n' :: rest => ([], '\n' :: rest)
  | '\r' :: '\n' :: rest => ([], '\n' :: rest)
  | c :: rest =>
    let (line, tail) := splitLine rest
    (c :: line, tail)

/-- Splits off what is left of a block comment with `depth` others open in it. -/
def splitBlock (depth : Nat) : List Char → Option (List Char × List Char)
  | [] => none
  | '/' :: '*' :: rest =>
    (splitBlock (depth + 1) rest).map fun (text, tail) => ('/' :: '*' :: text, tail)
  | '*' :: '/' :: rest =>
    match depth with
    | 0 => some ([], rest)
    | depth + 1 => (splitBlock depth rest).map fun (text, tail) => ('*' :: '/' :: text, tail)
  | c :: rest => (splitBlock depth rest).map fun (text, tail) => (c :: text, tail)

/-- What follows a comment that documents nothing, if the text begins with one. -/
def afterComment? : List Char → Option (List Char)
  | '/' :: '/' :: rest =>
    match rest with
    | '/' :: '/' :: _ => some (splitLine rest).2
    | '/' :: _ | '!' :: _ => none
    | _ => some (splitLine rest).2
  | '/' :: '*' :: rest =>
    match rest with
    | '*' :: '/' :: tail => some tail
    | '*' :: '*' :: _ => (splitBlock 0 rest).map (·.2)
    | '*' :: _ | '!' :: _ => none
    | _ => (splitBlock 0 rest).map (·.2)
  | _ => none

/-- A comment that documents the module it stands in, or the item behind it. -/
structure DocComment where
  inner : Bool
  text : List Char

def splitDoc? : List Char → Option (DocComment × List Char)
  | '/' :: '/' :: '!' :: rest => some (⟨true, (splitLine rest).1⟩, (splitLine rest).2)
  | '/' :: '*' :: '!' :: rest => (splitBlock 0 rest).map fun (text, tail) => (⟨true, text⟩, tail)
  | '/' :: '/' :: '/' :: rest =>
    if rest.head? = some '/' then none
    else some (⟨false, (splitLine rest).1⟩, (splitLine rest).2)
  | '/' :: '*' :: '*' :: rest =>
    if rest.head? = some '*' then none
    else (splitBlock 0 rest).map fun (text, tail) => (⟨false, text⟩, tail)
  | _ => none

def DocComment.tokens (doc : DocComment) : List Token :=
  let written := Text.quotedInSource (String.ofList doc.text)
  [.mark '#' false] ++ (if doc.inner then [.mark '!' false] else []) ++
    [.group .bracket [.ident "doc", .mark '=' false, .literal written]]

def marks : List Char :=
  "~!@#$%^&*-=+|;:,<.>/?'".toList

/-- The text begins with a punctuation character, not with a comment. -/
def beginsMark : List Char → Bool
  | '/' :: '/' :: _ => false
  | '/' :: '*' :: _ => false
  | c :: _ => marks.contains c
  | [] => false

/-- Splits off a name without a mark of rawness. -/
def splitName (cs : List Char) : Option (List Char × List Char) :=
  if cs.head?.any Text.isIdentifierStart then
    some (cs.takeWhile Text.isIdentifierPart, cs.dropWhile Text.isIdentifierPart)
  else none

def neverRaw : List String :=
  ["_", "super", "self", "Self", "crate"]

/-- Splits off a name, raw or not. -/
def splitIdent : List Char → Option (String × List Char)
  | 'r' :: '#' :: rest => do
    let (name, tail) ← splitName rest
    let name := String.ofList name
    if neverRaw.contains name then none else return ("r#" ++ name, tail)
  | cs => do
    let (name, tail) ← splitName cs
    return (String.ofList name, tail)

/-- What follows a string or a character, if the text begins with one. -/
def afterText? : List Char → Option (List Char)
  | '"' :: rest => (readString .text ('"' :: rest)).map (·.2)
  | 'r' :: rest => (readRaw .text rest).map (·.2)
  | 'b' :: '\'' :: rest => (readCharacter .bytes rest).map (·.2)
  | 'b' :: rest => (readString .bytes rest).map (·.2)
  | 'c' :: rest => (readString .foreign rest).map (·.2)
  | '\'' :: rest => (readCharacter .text rest).map (·.2)
  | _ => none

def dropSuffix (cs : List Char) : List Char :=
  ((splitName cs).map (·.2)).getD cs

def splitLiteral (cs : List Char) : Option (Token × List Char) := do
  let rest ←
    match afterText? cs with
    | some rest => some (dropSuffix rest)
    | none => afterNumber cs
  return (.literal (String.ofList (cs.take (cs.length - rest.length))), rest)

def splitLifetime (cs : List Char) : Option (Token × List Char) := do
  let (name, rest) ← splitIdent cs
  if rest.head? = some '\'' || (rest.head? = some '#' && !name.startsWith "r#") then none
  else return (.lifetime name, rest)

def splitMark : List Char → Option (Token × List Char)
  | '\'' :: rest => splitLifetime rest
  | c :: rest => if beginsMark (c :: rest) then some (.mark c (beginsMark rest), rest) else none
  | [] => none

/-- What no name begins with: the letters of a literal and its opening quote. -/
def literalFronts : List String :=
  ["r\"", "r#\"", "r##", "b\"", "b'", "br\"", "br#", "c\"", "cr\"", "cr#"]

/-- Splits off a name that is not the front of a literal. -/
def splitWord (cs : List Char) : Option (Token × List Char) :=
  if literalFronts.any (·.toList.isPrefixOf cs) then none
  else (splitIdent cs).map fun (name, rest) => (.ident name, rest)

/-- Splits off a token that is not a bracket. -/
def splitLeaf (cs : List Char) : Option (Token × List Char) :=
  (splitLiteral cs).or ((splitMark cs).or (splitWord cs))

def openingOf? : Char → Option Delimiter
  | '(' => some .paren
  | '[' => some .bracket
  | '\x7b' => some .brace
  | _ => none

def closingOf? : Char → Option Delimiter
  | ')' => some .paren
  | ']' => some .bracket
  | '\x7d' => some .brace
  | _ => none

/-- The steps of a scan, of at most `limit` characters. -/
def lexemes : Nat → List Char → Option (List Lexeme)
  | 0, _ => none
  | _ + 1, [] => some []
  | limit + 1, c :: rest =>
    let cs := c :: rest
    if isSeparator c then lexemes limit rest
    else if c = '\r' ∧ rest.head? = some '\n' then lexemes limit rest
    else
      match afterComment? cs, splitDoc? cs, openingOf? c, closingOf? c with
      | some tail, _, _, _ => lexemes limit tail
      | none, some (doc, tail), _, _ =>
        if returnsPaired doc.text then
          (lexemes limit tail).map fun steps => doc.tokens.map .leaf ++ steps
        else none
      | none, none, some delimiter, _ => (lexemes limit rest).map (.opening delimiter :: ·)
      | none, none, none, some delimiter => (lexemes limit rest).map (.closing delimiter :: ·)
      | none, none, none, none => do
        let (token, tail) ← splitLeaf cs
        let steps ← lexemes limit tail
        return .leaf token :: steps

/-- The open brackets with the tokens before each of them, innermost first, and the tokens behind
the last one; all tokens in reverse. -/
structure OpenGroups where
  outer : List (Delimiter × List Token) := []
  current : List Token := []

def OpenGroups.step (groups : OpenGroups) : Lexeme → Option OpenGroups
  | .leaf token => some { groups with current := token :: groups.current }
  | .opening delimiter => some ⟨(delimiter, groups.current) :: groups.outer, []⟩
  | .closing delimiter =>
    match groups.outer with
    | (opened, before) :: outer =>
      if opened = delimiter then
        some ⟨outer, .group delimiter groups.current.reverse :: before⟩
      else none
    | [] => none

/-- Joins the steps of a scan to groups. Every bracket has to be closed by one of its kind. -/
def nest (steps : List Lexeme) : Option (List Token) := do
  let groups ← steps.foldlM OpenGroups.step {}
  if groups.outer.isEmpty then return groups.current.reverse else none

/-- The tokens of source text; none where it is not a sequence of tokens. -/
def scan (source : String) : Option (List Token) :=
  let cs := match source.toList with
    | '\ufeff' :: rest => rest
    | cs => cs
  (lexemes (cs.length + 1) cs).bind nest

end MemberMapping.Token
