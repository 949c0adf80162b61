/-!
Reading decimal text as a floating-point number: the double nearest to the decimal, or an infinity
where the decimal lies beyond all of them.
-/

namespace MemberMapping.Decimal

/-- The number that a run of decimal digits denotes, continuing from `start`. -/
def digitsValue (start : Nat) (digits : List Char) : Nat :=
  digits.foldl (fun n d => 10 * n + (d.toNat - '0'.toNat)) start

/-- The double nearest to `mantissa · 10^exponent`. Decimals far outside the range of doubles are
settled by their size alone. -/
def nearest (mantissa : Nat) (exponent : Int) : Float :=
  let size := exponent + (Nat.toDigits 10 mantissa).length
  if mantissa = 0 ∨ size < -400 then 0.0
  else if 400 < size then 1.0 / 0.0
  else if 0 ≤ exponent then Float.ofScientific mantissa false exponent.toNat
  else Float.ofScientific mantissa true exponent.natAbs

/-- An exponent with an optional sign; at least one digit and nothing else. -/
def readExponent? (cs : List Char) : Option Int :=
  let (negative, digits) : Bool × List Char := match cs with
    | '-' :: rest => (true, rest)
    | '+' :: rest => (false, rest)
    | rest => (false, rest)
  if digits.isEmpty || !digits.all Char.isDigit then none
  else some (if negative then -(digitsValue 0 digits : Int) else digitsValue 0 digits)

/-- Digits with an optional point and an optional exponent; at least one digit before the
exponent. -/
def readUnsigned? (cs : List Char) : Option Float :=
  let whole := cs.takeWhile Char.isDigit
  let afterWhole := cs.dropWhile Char.isDigit
  let (fraction, afterFraction) : List Char × List Char := match afterWhole with
    | '.' :: rest => (rest.takeWhile Char.isDigit, rest.dropWhile Char.isDigit)
    | rest => ([], rest)
  if whole.isEmpty && fraction.isEmpty then none
  else
    let mantissa := digitsValue (digitsValue 0 whole) fraction
    match afterFraction with
    | [] => some (nearest mantissa (-fraction.length))
    | e :: rest =>
      if e = 'e' ∨ e = 'E' then
        (readExponent? rest).map fun x => nearest mantissa (x - fraction.length)
      else none

/-- A decimal with an optional sign, or one of the names of infinity and of what is no number. -/
def read? (text : String) : Option Float :=
  let (negative, body) : Bool × List Char := match text.toList with
    | '-' :: rest => (true, rest)
    | '+' :: rest => (false, rest)
    | rest => (false, rest)
  let value :=
    match String.ofList (body.map Char.toLower) with
    | "inf" | "infinity" => some (1.0 / 0.0)
    | "nan" => some (0.0 / 0.0)
    | _ => readUnsigned? body
  value.map fun x => if negative then -x else x

end MemberMapping.Decimal
