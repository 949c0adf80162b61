import MemberMapping.Decimal.Shortest

/-!
Ways to write a floating-point number by its shortest digits: positionally or with an exponent,
with or without a point in integers.
-/

namespace MemberMapping.Decimal

structure NumberForm where
  /-- The least power of ten a leading digit may stand for without an exponent, if there is one. -/
  firstPositional : Option Int
  /-- The first power of ten above it that takes an exponent again, if there is one. -/
  endPositional : Option Int
  /-- Integers end in `.0`. -/
  marksIntegers : Bool
  /-- Positive exponents carry a sign. -/
  signsExponent : Bool
  nan : String
  infinity : String
  minusInfinity : String

namespace NumberForm

/-- The form of a literal parameter in a message: no exponent from 0.0001 up to 10^16. -/
def message : NumberForm :=
  ⟨some (-4), some 16, true, false, "NaN", "inf", "-inf"⟩

/-- The form of a number in JSON, which has no text for what is not finite. -/
def json : NumberForm :=
  ⟨some (-5), some 16, true, true, "null", "null", "null"⟩

/-- The form of a floating-point literal of source text, before its suffix. -/
def source : NumberForm :=
  ⟨none, none, false, false, "NaN", "inf", "-inf"⟩

/-- The power of ten `e` is written positionally. -/
def positional (form : NumberForm) (e : Int) : Bool :=
  form.firstPositional.all (· ≤ e) && form.endPositional.all (e < ·)

/-- The digits of `d` without an exponent. -/
def writePositional (form : NumberForm) (d : Digits) : List Char :=
  let digits := Nat.toDigits 10 d.digits
  if 0 ≤ d.exponent then
    digits ++ List.replicate d.exponent.toNat '0' ++ (if form.marksIntegers then ['.', '0'] else [])
  else
    let places := (-d.exponent).toNat
    let padded := List.replicate (places + 1 - digits.length) '0' ++ digits
    padded.take (padded.length - places) ++ ['.'] ++ padded.drop (padded.length - places)

/-- The digits of `d` with one of them before the point, and an exponent. -/
def writeScientific (form : NumberForm) (d : Digits) (e : Int) : List Char :=
  let fraction := (Nat.toDigits 10 d.digits).drop 1
  let first := (Nat.toDigits 10 d.digits).take 1
  let sign := if e < 0 then ['-'] else if form.signsExponent then ['+'] else []
  first ++ (if fraction.isEmpty then [] else '.' :: fraction) ++ ['e'] ++ sign ++
    Nat.toDigits 10 e.natAbs

/-- The digits of a decimal other than zero. -/
def writeDigits (form : NumberForm) (d : Digits) : List Char :=
  let e := d.exponent + (Nat.toDigits 10 d.digits).length - 1
  if form.positional e then form.writePositional d else form.writeScientific d e

def write (form : NumberForm) (x : Float) : String :=
  match Binary64.ofFloat x with
  | .nan => form.nan
  | .infinite negative => if negative then form.minusInfinity else form.infinity
  | .finite negative m q narrow =>
    let text :=
      if m = 0 then form.writePositional ⟨0, 0⟩ else form.writeDigits (shortest m q narrow)
    (if negative then "-" else "") ++ String.ofList text

end NumberForm

end MemberMapping.Decimal
