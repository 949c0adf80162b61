import MemberMapping.Text.LetterCase

/-!
The words of a name, and names made of them again in another style.

Words are separated by characters that are neither letters nor digits, and where the letter case
changes: behind a lowercase letter before an uppercase one, and before the last of several
uppercase letters if a lowercase one follows.
-/

namespace MemberMapping.Text

/-- The case of the last letter of a word that has one. -/
inductive CaseMode
  | boundary | lower | upper
deriving DecidableEq, Repr

/-- The case after one more character; a digit does not change it. -/
def CaseMode.after (mode : CaseMode) (c : Char) : CaseMode :=
  if isLowercase c then .lower else if isUppercase c then .upper else mode

/-- The words of a run of letters and digits, the first of which begins with `current`. -/
def splitCase (mode : CaseMode) (current : List Char) : List Char → List (List Char)
  | [] => [current]
  | [c] => [current ++ [c]]
  | c :: next :: rest =>
    if mode.after c = .lower ∧ isUppercase next then
      (current ++ [c]) :: splitCase .boundary [] (next :: rest)
    else if mode = .upper ∧ isUppercase c ∧ isLowercase next then
      current :: splitCase .boundary [c] (next :: rest)
    else splitCase (mode.after c) (current ++ [c]) (next :: rest)

/-- The runs of letters and digits. -/
def splitRuns : List Char → List (List Char)
  | [] => [[]]
  | c :: rest =>
    if isAlphanumeric c then
      match splitRuns rest with
      | [] => [[c]]
      | run :: runs => (c :: run) :: runs
    else [] :: splitRuns rest

def words (name : String) : List (List Char) :=
  ((splitRuns name.toList).filter (· ≠ [])).flatMap (splitCase .boundary [])

/-- A word in lowercase; a sigma at its end takes the final form. -/
def lowerWord : List Char → List Char
  | [] => []
  | [c] => if c = 'Σ' then ['ς'] else lowercase c
  | c :: rest => lowercase c ++ lowerWord rest

/-- A word in lowercase but for its first letter. -/
def capitalWord : List Char → List Char
  | [] => []
  | c :: rest => uppercase c ++ lowerWord rest

/-- The words in lowercase, joined by underscores. -/
def snakeCase (name : String) : String :=
  "_".intercalate ((words name).map fun word => String.ofList (lowerWord word))

/-- The words with capitals, joined without a mark. -/
def camelCase (name : String) : String :=
  String.join ((words name).map fun word => String.ofList (capitalWord word))

end MemberMapping.Text
