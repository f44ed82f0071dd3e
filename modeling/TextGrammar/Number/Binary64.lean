/-!
Numbers in the 64-bit binary format: a sign, and a magnitude `m * 2 ^ q` with `m < 2 ^ 53` and
`-1074 ≤ q`. Magnitudes are ordered as their bit patterns are, so a rational number is rounded by
computing the pattern itself: `(q + 1074) * 2 ^ 52 + m` is the pattern of `m * 2 ^ q` for normal
and subnormal numbers alike, and also when rounding carries `m` to `2 ^ 53`.
-/
namespace TextGrammar

/-- A number in the 64-bit binary format, by its bit pattern. -/
structure Binary64 where
  bits : UInt64
  deriving DecidableEq, Repr

namespace Binary64

/-- The weight of the sign in a bit pattern. -/
def signBit : Nat := 1 <<< 63

/-- The weight of the least bit of the exponent in a bit pattern. -/
def exponentBit : Nat := 1 <<< 52

/-- The pattern of positive infinity, which no finite magnitude reaches. -/
def infinityBits : Nat := 0x7ff * exponentBit

def isNegative (number : Binary64) : Bool := signBit ≤ number.bits.toNat

/-- The pattern without its sign. -/
def magnitudeBits (number : Binary64) : Nat := number.bits.toNat % signBit

def isNaN (number : Binary64) : Bool := infinityBits < number.magnitudeBits

def isInfinite (number : Binary64) : Bool := number.magnitudeBits == infinityBits

def isFinite (number : Binary64) : Bool := number.magnitudeBits < infinityBits

/-- A magnitude with a sign put to it. -/
def ofMagnitude (negative : Bool) (magnitude : Nat) : Binary64 :=
  ⟨UInt64.ofNat (magnitude + if negative then signBit else 0)⟩

/-- The number with the other sign; zero and infinity have two signs as well. -/
def negate (number : Binary64) : Binary64 :=
  ofMagnitude (!number.isNegative) number.magnitudeBits

/-- The significand and the binary exponent of a finite number. -/
def parts (number : Binary64) : Nat × Int :=
  let exponent : Nat := number.magnitudeBits / exponentBit
  let fraction : Nat := number.magnitudeBits % exponentBit
  if exponent = 0 then (fraction, -1074) else (fraction + exponentBit, (exponent : Int) - 1075)

/-- A finite magnitude as a quotient of natural numbers. -/
def ratio (number : Binary64) : Nat × Nat :=
  let (significand, exponent) := number.parts
  (significand <<< exponent.toNat, 1 <<< (-exponent).toNat)

/-- The natural number nearest to a quotient; of two nearest the even one. -/
def roundQuotient (numerator denominator : Nat) : Nat :=
  let quotient := numerator / denominator
  let twice := 2 * (numerator % denominator)
  if twice < denominator then quotient
  else if denominator < twice then quotient + 1
  else quotient + quotient % 2

/-- The binary exponent at which a positive quotient has a significand of 53 bits, or the least
exponent of the format if that is greater. -/
def exponentOf (numerator denominator : Nat) : Int :=
  let estimate : Int := (numerator.log2 : Int) - denominator.log2 - 52
  let small := numerator <<< (-estimate).toNat < denominator <<< (52 + estimate.toNat)
  max (if small then estimate - 1 else estimate) (-1074)

/-- The pattern of the magnitude nearest to a quotient; what lies beyond the greatest finite
magnitude is infinite. -/
def roundedBits (numerator denominator : Nat) : Nat :=
  if numerator = 0 then 0
  else
    let exponent := exponentOf numerator denominator
    let significand :=
      roundQuotient (numerator <<< (-exponent).toNat) (denominator <<< exponent.toNat)
    min ((exponent + 1074).toNat * exponentBit + significand) infinityBits

/-- The number nearest to `digits * 10 ^ exponent`. Far outside of the format's range the power of
ten is not computed: the answer is zero or infinity there. -/
def ofDecimal (negative : Bool) (digits : Nat) (exponent : Int) : Binary64 :=
  let size : Int := (Nat.toDigits 10 digits).length
  if digits = 0 ∨ size + exponent < -330 then ofMagnitude negative 0
  else if 310 < size + exponent then ofMagnitude negative infinityBits
  else
    ofMagnitude negative <|
      roundedBits (digits * Nat.pow 10 exponent.toNat) (Nat.pow 10 (-exponent).toNat)

/-- The number nearest to an integer, unless that is beyond the greatest finite number. -/
def ofInteger? (integer : Int) : Option Binary64 :=
  let number := ofMagnitude (integer < 0) (roundedBits integer.natAbs 1)
  if number.isFinite then some number else none

/-- The nearest integer towards zero of a finite number. -/
def truncate (number : Binary64) : Int :=
  let (numerator, denominator) := number.ratio
  let magnitude : Int := (numerator / denominator : Nat)
  if number.isNegative then -magnitude else magnitude

/-- The number nearest to the sum of two numbers. -/
def add (first second : Binary64) : Binary64 :=
  ⟨(Float.ofBits first.bits + Float.ofBits second.bits).toBits⟩

/-- The number nearest to the product of two numbers. -/
def multiply (first second : Binary64) : Binary64 :=
  ⟨(Float.ofBits first.bits * Float.ofBits second.bits).toBits⟩

/-- Whether a number is less than an integer. -/
def isLess (number : Binary64) (integer : Int) : Bool :=
  if number.isNaN then false
  else if number.isInfinite then number.isNegative
  else
    let (numerator, denominator) := number.ratio
    (if number.isNegative then -(numerator : Int) else numerator) < integer * denominator

/-- Equality of the numbers meant: both zeros are equal, and what is no number equals nothing. -/
def sameNumber (first second : Binary64) : Bool :=
  !first.isNaN && !second.isNaN &&
    (first == second || (first.magnitudeBits == 0 && second.magnitudeBits == 0))

/-- Whether a finite number is exactly this integer. -/
def isInteger (number : Binary64) (integer : Int) : Bool :=
  let (numerator, denominator) := number.ratio
  number.isFinite && numerator == integer.natAbs * denominator &&
    (integer == 0 || number.isNegative == decide (integer < 0))

/-- Whether a number is greater than an integer. -/
def exceeds (number : Binary64) (integer : Int) : Bool :=
  !number.isNaN && !number.isLess integer && !number.isInteger integer

end Binary64

end TextGrammar
