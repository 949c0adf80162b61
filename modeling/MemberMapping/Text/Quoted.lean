import MemberMapping.Text.Printable

/-!
Quoted text: a string or a character between quotation marks. The mark itself, the backslash and
the usual controls are written with a backslash, and every character that has no visible form of
its own by its code point.
-/

namespace MemberMapping.Text

def codePointEscape (c : Char) : List Char :=
  ['\\', 'u', '\x7b'] ++ Nat.toDigits 16 c.toNat ++ ['\x7d']

/-- The written form of a character between two of `mark`. -/
def escape (mark c : Char) : List Char :=
  if c = '\x00' then ['\\', '0']
  else if c = '\t' then ['\\', 't']
  else if c = '\r' then ['\\', 'r']
  else if c = '\n' then ['\\', 'n']
  else if c = mark ∨ c = '\\' then ['\\', c]
  else if extendsGrapheme c || !isPrintable c then codePointEscape c
  else [c]

def quoted (s : String) : String :=
  String.ofList (['"'] ++ s.toList.flatMap (escape '"') ++ ['"'])

def quotedChar (c : Char) : String :=
  String.ofList (['\''] ++ escape '\'' c ++ ['\''])

/-- Between double quotes in source text, a NUL before an octal digit takes two digits, so that
no reader takes the digits that follow for a part of it. -/
def escapeInSource : List Char → List Char
  | [] => []
  | '\x00' :: d :: rest =>
    if '0' ≤ d ∧ d ≤ '7' then ['\\', 'x', '0', '0'] ++ escapeInSource (d :: rest)
    else ['\\', '0'] ++ escapeInSource (d :: rest)
  | c :: rest => escape '"' c ++ escapeInSource rest

def quotedInSource (s : String) : String :=
  String.ofList (['"'] ++ escapeInSource s.toList ++ ['"'])

end MemberMapping.Text
