/-!
White space: the characters with the property White_Space, and trimming by them.
-/

namespace MemberMapping.Text

/-- The characters with the property White_Space. -/
def isBlank (c : Char) : Bool :=
  let n := c.toNat
  (9 ≤ n && n ≤ 13) || n == 32 || n == 133 || n == 160 || n == 5760 ||
    (8192 ≤ n && n ≤ 8202) || n == 8232 || n == 8233 || n == 8239 || n == 8287 || n == 12288

def trimBlanks (cs : List Char) : List Char :=
  ((cs.dropWhile isBlank).reverse.dropWhile isBlank).reverse

/-- A string without the blanks at its ends. -/
def trim (s : String) : String :=
  String.ofList (trimBlanks s.toList)

/-- Lower-cases the ASCII letters of a string and leaves every other character. -/
def asciiLower (s : String) : String :=
  s.map Char.toLower

end MemberMapping.Text
