import Switchboard.Number.Binary64

namespace Switchboard

/-! The shortest decimal that reads back as a given double. -/

/-- A positive decimal: `digits * 10 ^ power`. -/
structure Decimal where
  digits : Nat
  power : Int
deriving DecidableEq, Repr

namespace Decimal

/-- The power of ten of the first digit. -/
def magnitude (d : Decimal) : Int := d.power + (toString d.digits).length - 1

/-- The same decimal without zeros at the end of its digits. -/
def trim (d : Decimal) : Decimal :=
  if d.digits ≠ 0 ∧ d.digits % 10 = 0 then trim ⟨d.digits / 10, d.power + 1⟩ else d
termination_by d.digits
decreasing_by simp_all; omega

end Decimal

namespace Binary64

/-- Whether `10 ^ power` is at most the quotient. -/
def powerFits (power : Int) (numerator denominator : Nat) : Bool :=
  tenTo power.toNat * denominator ≤ numerator * tenTo (-power).toNat

/-- The power of ten of the first digit of a positive quotient. -/
def leadingPower (numerator denominator : Nat) : Int :=
  let guess := ((numerator.log2 : Int) - denominator.log2) * 30103 / 100000
  if powerFits (guess + 1) numerator denominator then guess + 1
  else if powerFits guess numerator denominator then guess
  else guess - 1

/-- The magnitudes that round to a positive double, in quarters of its last bit:
from `low` to `high`, ends included when `closed`. -/
structure Basin where
  low : Nat
  middle : Nat
  high : Nat
  closed : Bool

def basin (x : Binary64) : Basin :=
  let m := x.significand
  let narrow := m = twoTo 52 ∧ 1 < x.biasedExponent
  { low := if narrow then 4 * m - 1 else 4 * m - 2
    middle := 4 * m
    high := 4 * m + 2
    closed := m % 2 = 0 }

/-- Whether `candidate / scale` lies in the basin. -/
def Basin.holds (b : Basin) (candidate scale : Nat) : Bool :=
  if b.closed then b.low * scale ≤ candidate && candidate ≤ b.high * scale
  else b.low * scale < candidate && candidate < b.high * scale

/-- The point of the grid of multiples of `10 ^ power` in the basin that is nearest
to the double, if any of its two neighbours there lies in the basin. -/
def nearestOnGrid (x : Binary64) (power : Int) : Option Decimal :=
  let b := x.basin
  let quarter := x.exponent - 2
  -- a grid step is `step / scale` quarters
  let step := tenTo power.toNat * twoTo (-quarter).toNat
  let scale := tenTo (-power).toNat * twoTo quarter.toNat
  let below := b.middle * scale / step
  let lowFits := b.holds (below * step) scale
  let highFits := b.holds ((below + 1) * step) scale
  let lowGap := b.middle * scale - below * step
  let highGap := (below + 1) * step - b.middle * scale
  let lower := lowGap < highGap ∨ (lowGap = highGap ∧ below % 2 = 0)
  if lowFits && (lower || !highFits) then some ⟨below, power⟩
  else if highFits then some ⟨below + 1, power⟩
  else none

/-- The nearest decimal with the fewest digits that lies in the basin, of a positive
double. Seventeen digits always suffice. -/
def shortest (x : Binary64) : Decimal :=
  let first := leadingPower x.numerator x.denominator
  let grids := (List.range 17).map fun (extra : Nat) => first - (extra : Int)
  ((grids.findSome? x.nearestOnGrid).getD ⟨0, 0⟩).trim

/-- Where the text of a double changes from plain to exponent form: a double is
written plainly when the power of ten of its first digit is at least `plainFrom`
and below `plainBelow`. -/
structure TextStyle where
  plainFrom : Int
  plainBelow : Int

def zeros (count : Nat) : String := String.ofList (List.replicate count '0')

/-- The text of a positive decimal. A plain text always has a fraction, and an
exponent always has a sign. -/
def TextStyle.write (style : TextStyle) (d : Decimal) : String :=
  let digits := toString d.digits
  let first := d.magnitude
  if style.plainFrom ≤ first ∧ first < style.plainBelow then
    if first < 0 then "0." ++ zeros (-first - 1).toNat ++ digits
    else if digits.length ≤ first.toNat + 1 then
      digits ++ zeros (first.toNat + 1 - digits.length) ++ ".0"
    else
      let split := first.toNat + 1
      String.ofList (digits.toList.take split) ++ "." ++ String.ofList (digits.toList.drop split)
  else
    let rest := digits.toList.drop 1
    let mantissa := String.ofList (digits.toList.take 1) ++
      (if rest.isEmpty then "" else "." ++ String.ofList rest)
    mantissa ++ (if first < 0 then "e-" else "e+") ++ toString first.natAbs

/-- The text of a finite double: the shortest decimal, zero as `0.0`. -/
def text (style : TextStyle) (x : Binary64) : String :=
  let magnitude := if x.isZero then "0.0" else style.write x.shortest
  if x.isNegative then "-" ++ magnitude else magnitude

end Binary64

end Switchboard
