import MemberMapping.Text.Identifier

/-!
Reserved words: names that stand for nothing a program declares, unless they are written raw.
-/

namespace MemberMapping.Token

def keywords : List String :=
  [ "_", "abstract", "as", "async", "await", "become", "box", "break", "const", "continue",
    "crate", "do", "dyn", "else", "enum", "extern", "false", "final", "fn", "for", "if", "impl",
    "in", "let", "loop", "macro", "match", "mod", "move", "mut", "override", "priv", "pub", "ref",
    "return", "Self", "self", "static", "struct", "super", "trait", "true", "try", "type",
    "typeof", "unsafe", "unsized", "use", "virtual", "where", "while", "yield" ]

def isKeyword (name : String) : Bool :=
  keywords.contains name

def isName (name : String) : Bool :=
  Text.isIdentifierText name.toList && !isKeyword name

/-- A name without the mark of a raw one. -/
def plainName (name : String) : String :=
  if name.startsWith "r#" then String.ofList (name.toList.drop 2) else name

end MemberMapping.Token
