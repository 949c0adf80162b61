/-!
Tokens of source code and the text they are printed as.

Tokens are separated by one blank, except after a punctuation character that belongs to the same
operator as the next one. Braces have blanks inside, the other brackets have none.
-/

namespace MemberMapping

inductive Delimiter
  | paren | bracket | brace
deriving DecidableEq, Repr

/-- A token of source code. A bracketed group is one token. -/
inductive Token where
  /-- A name as it is written; a raw one begins with `r#`. -/
  | ident (text : String)
  /-- A lifetime, without its apostrophe. -/
  | lifetime (name : String)
  /-- A number, a string or a character as it is written. -/
  | literal (text : String)
  /-- A punctuation character; `joint` where the next token continues the same operator. -/
  | mark (char : Char) (joint : Bool)
  | group (delimiter : Delimiter) (inner : List Token)
deriving Inhabited, Repr

namespace Token

/-- The characters of an operator, the last of which ends it. -/
def operatorMarks : List Char → List Token
  | [] => []
  | [c] => [.mark c false]
  | c :: rest => .mark c true :: operatorMarks rest

def operator (text : String) : List Token :=
  operatorMarks text.toList

/-- The next token follows without a blank. -/
def isJoint : Token → Bool
  | mark _ joint => joint
  | _ => false

mutual

def text : Token → String
  | ident name => name
  | lifetime name => "'" ++ name
  | literal written => written
  | mark c _ => String.singleton c
  | group .paren inner => "(" ++ textOf inner ++ ")"
  | group .bracket inner => "[" ++ textOf inner ++ "]"
  | group .brace inner => "\x7b " ++ textOf inner ++ (if inner.isEmpty then "\x7d" else " \x7d")

def textOf : List Token → String
  | [] => ""
  | token :: rest =>
    token.text ++ (if rest.isEmpty || token.isJoint then "" else " ") ++ textOf rest

end

end Token

end MemberMapping
