namespace Switchboard

/-! Double precision numbers, by their bits.

Every operation is exact arithmetic on naturals followed by one rounding to the
nearest double, so nothing here depends on the machine's floating point unit. -/

structure Binary64 where
  bits : UInt64
deriving DecidableEq, Repr

instance : Inhabited Binary64 := ⟨⟨0⟩⟩

def twoTo (exponent : Nat) : Nat := Nat.pow 2 exponent

def tenTo (exponent : Nat) : Nat := Nat.pow 10 exponent

/-- The quotient rounded to the nearest natural, from a tie to the even one. -/
def roundDiv (numerator denominator : Nat) : Nat :=
  let quotient := numerator / denominator
  let twice := 2 * (numerator % denominator)
  if twice < denominator ∨ (twice = denominator ∧ quotient % 2 = 0) then quotient
  else quotient + 1

namespace Binary64

def isNegative (x : Binary64) : Bool := twoTo 63 ≤ x.bits.toNat

def biasedExponent (x : Binary64) : Nat := x.bits.toNat / twoTo 52 % twoTo 11

def isFinite (x : Binary64) : Bool := x.biasedExponent < 2047

def isZero (x : Binary64) : Bool := x.bits.toNat % twoTo 63 = 0

/-- The integer multiplied by `2 ^ exponent`, hidden bit included. -/
def significand (x : Binary64) : Nat :=
  let fraction := x.bits.toNat % twoTo 52
  if x.biasedExponent = 0 then fraction else twoTo 52 + fraction

/-- The power of two of the last bit of the significand. -/
def exponent (x : Binary64) : Int := (max x.biasedExponent 1 : Nat) - 1075

/-- The magnitude as a quotient of naturals. -/
def numerator (x : Binary64) : Nat := x.significand * twoTo x.exponent.toNat

def denominator (x : Binary64) : Nat := twoTo (-x.exponent).toNat

def infinity : Binary64 := ⟨0x7FF0000000000000⟩

def negate (x : Binary64) : Binary64 := ⟨x.bits ^^^ 0x8000000000000000⟩

/-- The power of two at which a positive quotient has a significand of 53 bits,
held at the least power a double can have. -/
def exponentOf (numerator denominator : Nat) : Int :=
  let guess : Int := (numerator.log2 : Int) - denominator.log2 - 52
  let below : Bool :=
    numerator * twoTo (-guess).toNat < twoTo 52 * (denominator * twoTo guess.toNat)
  max (-1074) (if below then guess - 1 else guess)

/-- The double nearest to a quotient of naturals; from a tie the one with an even
significand, and infinity from half a step above the largest double on. -/
def ofRatio (numerator denominator : Nat) : Binary64 :=
  if numerator = 0 then ⟨0⟩
  else
    let power := exponentOf numerator denominator
    let rounded := roundDiv (numerator * twoTo (-power).toNat) (denominator * twoTo power.toNat)
    let word := (power + 1074).toNat * twoTo 52 + rounded
    if word < infinity.bits.toNat then ⟨UInt64.ofNat word⟩ else infinity

def ofNat (n : Nat) : Binary64 := ofRatio n 1

def mul (x y : Binary64) : Binary64 :=
  ofRatio (x.numerator * y.numerator) (x.denominator * y.denominator)

def div (x y : Binary64) : Binary64 :=
  ofRatio (x.numerator * y.denominator) (x.denominator * y.numerator)

def powerOfTen (n : Nat) : Binary64 := ofNat (tenTo n)

/-- A magnitude scaled by a power of ten, rounded after each step: one step while
the power is itself a double, and steps of `10 ^ 308` downwards before that.
There is no result once the magnitude leaves the range of doubles. -/
def scaleByTen (x : Binary64) (power : Int) : Option Binary64 :=
  if power.natAbs ≤ 308 then
    let scaled := if 0 ≤ power then x.mul (powerOfTen power.natAbs)
      else x.div (powerOfTen power.natAbs)
    if scaled.isFinite then some scaled else none
  else if x.isZero then some x
  else if 0 ≤ power then none
  else (x.div (powerOfTen 308)).scaleByTen (power + 308)
termination_by (-power).toNat

end Binary64

end Switchboard
