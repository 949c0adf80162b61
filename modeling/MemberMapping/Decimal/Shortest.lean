/-!
The shortest decimal that reads back as a given binary floating-point number.

A finite double is `m · 2^q`. The reals that round to it form an interval around it, whose ends
belong to it exactly when `m` is even. Among the decimals of one, two, … seventeen digits the first
that lies in the interval is the shortest; of two of the same length the nearer one is taken, and
of two equally near ones the larger.
-/

namespace MemberMapping.Decimal

inductive Binary64
  | nan
  | infinite (negative : Bool)
  /-- The number `mantissa · 2^exponent`. `narrow` holds where the doubles below lie twice as
  dense as those above. -/
  | finite (negative : Bool) (mantissa : Nat) (exponent : Int) (narrow : Bool)
deriving DecidableEq, Repr

def Binary64.ofBits (bits : Nat) : Binary64 :=
  let negative := bits / Nat.pow 2 63 % 2 == 1
  let field : Nat := bits / Nat.pow 2 52 % Nat.pow 2 11
  let fraction : Nat := bits % Nat.pow 2 52
  if field == 2047 then
    if fraction == 0 then .infinite negative else .nan
  else if field == 0 then .finite negative fraction (-1074) false
  else
    .finite negative (Nat.pow 2 52 + fraction) ((field : Int) - 1075)
      (fraction == 0 && field != 1)

def Binary64.ofFloat (x : Float) : Binary64 :=
  ofBits x.toBits.toNat

/-- The decimal `digits · 10^exponent`. -/
structure Digits where
  digits : Nat
  exponent : Int
deriving DecidableEq, Repr

/-- The interval of the reals that round to a double, over a common denominator. -/
structure RoundingInterval where
  low : Nat
  value : Nat
  high : Nat
  denominator : Nat
  closed : Bool

/-- The interval around `m · 2^q`, in quarters of the distance to the next double above. -/
def RoundingInterval.around (m : Nat) (q : Int) (narrow : Bool) : RoundingInterval :=
  let below := if narrow then 1 else 2
  let scale := Nat.pow 2 (q - 2).toNat
  { low := (4 * m - below) * scale
    value := 4 * m * scale
    high := (4 * m + 2) * scale
    denominator := Nat.pow 2 (2 - q).toNat
    closed := m % 2 == 0 }

namespace RoundingInterval

/-- The fraction `num / den` lies in the interval. -/
def contains (r : RoundingInterval) (num den : Nat) : Bool :=
  let x := num * r.denominator
  let low := r.low * den
  let high := r.high * den
  if r.closed then low ≤ x && x ≤ high else low < x && x < high

def leading (r : RoundingInterval) : Int :=
  ((Nat.toDigits 10 (r.value * Nat.pow 10 350 / r.denominator)).length : Int) - 351

/-- The point of the grid `10^k` that lies in the interval, the nearer of two. -/
def onGrid? (r : RoundingInterval) (k : Int) : Option Digits :=
  let up := Nat.pow 10 k.toNat
  let down := Nat.pow 10 (-k).toNat
  let below := r.value * down / (r.denominator * up)
  let above := below + 1
  let belowFits := below != 0 && r.contains (below * up) down
  let aboveFits := r.contains (above * up) down
  -- twice the value against the sum of its two neighbours
  let nearerAbove := (below + above) * up * r.denominator ≤ 2 * r.value * down
  if belowFits && aboveFits then some ⟨if nearerAbove then above else below, k⟩
  else if belowFits then some ⟨below, k⟩
  else if aboveFits then some ⟨above, k⟩
  else none

end RoundingInterval

/-- Moves zeros at the end of the digits into the exponent; there are at most `fuel`. -/
def Digits.trimZeros : Nat → Digits → Digits
  | 0, d => d
  | fuel + 1, d =>
    if d.digits ≠ 0 ∧ d.digits % 10 = 0 then trimZeros fuel ⟨d.digits / 10, d.exponent + 1⟩ else d

/-- The shortest decimal in the interval around `m · 2^q`, for `m ≠ 0`. -/
def shortest (m : Nat) (q : Int) (narrow : Bool) : Digits :=
  let r := RoundingInterval.around m q narrow
  let top := r.leading
  let found := (List.range 17).findSome? fun n : Nat => r.onGrid? (top - (n : Int))
  (found.getD ⟨r.value / r.denominator, 0⟩).trimZeros 20

end MemberMapping.Decimal
