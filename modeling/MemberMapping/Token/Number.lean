import MemberMapping.Decimal.Reading
import MemberMapping.Text.Identifier
import MemberMapping.Token.TextLiteral

/-!
Number literals of source text: where they end and which number they stand for.

A number with a point or an exponent is a float, every other one an integer. Digits may be grouped
by underscores, integers may be hexadecimal, octal or binary, and a name may follow as a suffix.
-/

namespace MemberMapping.Token

def isDigitOrGap (c : Char) : Bool :=
  c.isDigit || c == '_'

/-- What follows an exponent behind its letter, if it has a digit and at most one sign. -/
def afterExponent (signed valued : Bool) : List Char → Option (List Char)
  | [] => if valued then some [] else none
  | c :: rest =>
    if c = '+' ∨ c = '-' then
      if valued then some (c :: rest)
      else if signed then none
      else afterExponent true valued rest
    else if c.isDigit then afterExponent signed true rest
    else if c = '_' then afterExponent signed valued rest
    else if valued then some (c :: rest)
    else none

def afterFloatDigits (cs : List Char) : Option (List Char) :=
  if !cs.head?.any Char.isDigit then none
  else
    match cs.dropWhile isDigitOrGap with
    | '.' :: rest =>
      if rest.head?.any fun c => c == '.' || Text.isIdentifierStart c then none
      else
        let behind := rest.dropWhile isDigitOrGap
        match behind with
        | 'e' :: tail | 'E' :: tail => some ((afterExponent false false tail).getD behind)
        | _ => some behind
    | 'e' :: rest | 'E' :: rest => afterExponent false false rest
    | _ => none

/-- Splits off the mark of a base other than ten. -/
def splitBase : List Char → Nat × List Char
  | '0' :: 'x' :: rest => (16, rest)
  | '0' :: 'o' :: rest => (8, rest)
  | '0' :: 'b' :: rest => (2, rest)
  | rest => (10, rest)

/-- The character is a digit of an integer or stands between its digits. -/
def isIntegerPart (base : Nat) (c : Char) : Bool :=
  isDigitOrGap c || (base == 16 && (hexValue? c).isSome)

def fitsBase (base : Nat) (digits : List Char) : Bool :=
  digits.all fun c => (hexValue? c).all (· < base)

def afterIntegerDigits (cs : List Char) : Option (List Char) :=
  let (base, body) := splitBase cs
  let digits := body.takeWhile (isIntegerPart base)
  if !fitsBase base digits || digits.all (· = '_') || (base == 10 && digits.head? == some '_') then
    none
  else some (body.dropWhile (isIntegerPart base))

/-- What follows a suffix. No further character of a name may follow. -/
def afterSuffix (cs : List Char) : Option (List Char) :=
  let rest :=
    if cs.head?.any Text.isIdentifierStart then cs.dropWhile Text.isIdentifierPart else cs
  if rest.head?.any Text.isIdentifierPart then none else some rest

def afterNumber (cs : List Char) : Option (List Char) :=
  match (afterFloatDigits cs).bind afterSuffix with
  | some rest => some rest
  | none => (afterIntegerDigits cs).bind afterSuffix

/-- The letter behind decimal digits begins an exponent: a sign or a digit follows, underscores
apart, and no name directly behind its digits. -/
def beginsExponent (valued : Bool) : List Char → Bool
  | [] => valued
  | c :: rest =>
    if c = '_' then beginsExponent valued rest
    else if c = '+' ∨ c = '-' then true
    else if c.isDigit then beginsExponent true rest
    else valued && Text.isIdentifierText (c :: rest)

/-- The rest of a number is no suffix but makes it a float. -/
def makesFloat : List Char → Bool
  | '.' :: _ => true
  | 'e' :: rest | 'E' :: rest => beginsExponent false rest
  | _ => false

def isSuffix (cs : List Char) : Bool :=
  cs.isEmpty || Text.isIdentifierText cs

def integerValue? (cs : List Char) : Option Nat :=
  let (base, body) := splitBase cs
  let digits := body.takeWhile (isIntegerPart base)
  let rest := body.dropWhile (isIntegerPart base)
  if !cs.head?.any Char.isDigit || !fitsBase base digits || digits.all (· = '_') then none
  else if (base == 10 && makesFloat rest) || !isSuffix rest then none
  else some ((digits.filterMap hexValue?).foldl (fun n digit => base * n + digit) 0)

/-- The digits without the underscores between them. -/
def withoutGaps (cs : List Char) : List Char :=
  cs.filter (· ≠ '_')

/-- Splits an exponent into its value and the suffix; no exponent counts as zero. -/
def splitExponent : List Char → Option (Int × List Char)
  | c :: rest =>
    if c = 'e' ∨ c = 'E' then
      match withoutGaps rest with
      | '-' :: digits =>
        some (-(Decimal.digitsValue 0 (digits.takeWhile Char.isDigit) : Int),
          digits.dropWhile Char.isDigit)
      | '+' :: digits =>
        some (Decimal.digitsValue 0 (digits.takeWhile Char.isDigit),
          digits.dropWhile Char.isDigit)
      | digits =>
        if digits.head?.any Char.isDigit then
          some (Decimal.digitsValue 0 (digits.takeWhile Char.isDigit),
            digits.dropWhile Char.isDigit)
        else some (0, c :: rest)
    else some (0, c :: rest)
  | [] => some (0, [])

def floatValue? (cs : List Char) : Option Float := do
  if !cs.head?.any Char.isDigit then none
  let whole := withoutGaps (cs.takeWhile isDigitOrGap)
  let rest := cs.dropWhile isDigitOrGap
  let (fraction, rest) : List Char × List Char := match rest with
    | '.' :: tail => (withoutGaps (tail.takeWhile isDigitOrGap), tail.dropWhile isDigitOrGap)
    | rest => ([], rest)
  let (exponent, suffix) ← splitExponent rest
  if isSuffix suffix then
    return Decimal.nearest (Decimal.digitsValue (Decimal.digitsValue 0 whole) fraction)
      (exponent - fraction.length)
  else none

end MemberMapping.Token
