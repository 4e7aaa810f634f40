/-!
# Binary floating-point numbers of 64 bits

The value is its bit pattern: a sign, eleven exponent bits and 52 fraction bits. Nothing here
computes with a machine's floating-point unit; reading and printing decimals needs only exact
integers, and so does the comparison. `Binary64.ofRatio` is rounding to nearest with ties to
the even significand, the one place where a real number becomes a `Binary64`.
-/
namespace LateBinding

/-- A floating-point number of double precision. -/
structure Binary64 where
  bits : UInt64
deriving DecidableEq, Repr

namespace Binary64

/-- The number of fraction bits as a power of two. -/
def fractionBound : Nat := Nat.pow 2 52

/-- The exponent field of infinities and of what is not a number. -/
def specialField : Nat := 2047

/-- The exponent of two that the last bit of the smallest numbers stands for. -/
def leastExponent : Int := -1074

/-- A number from the sign and the remaining 63 bits. -/
def ofParts (negative : Bool) (magnitude : Nat) : Binary64 :=
  ⟨UInt64.ofNat (magnitude + if negative then Nat.pow 2 63 else 0)⟩

/-- Positive or negative zero. -/
def zero (negative : Bool) : Binary64 := ofParts negative 0

/-- Positive or negative infinity. -/
def infinity (negative : Bool) : Binary64 := ofParts negative (specialField * fractionBound)

/-- The quiet pattern for what is not a number. -/
def notANumber (negative : Bool) : Binary64 :=
  ofParts negative (specialField * fractionBound + Nat.pow 2 51)

instance : Inhabited Binary64 := ⟨zero false⟩

/-- The sign bit. -/
def isNegative (x : Binary64) : Bool := Nat.pow 2 63 ≤ x.bits.toNat

/-- All bits but the sign. -/
def magnitude (x : Binary64) : Nat := x.bits.toNat % Nat.pow 2 63

/-- The eleven exponent bits. -/
def exponentField (x : Binary64) : Nat := x.magnitude / fractionBound

/-- The 52 fraction bits. -/
def fraction (x : Binary64) : Nat := x.magnitude % fractionBound

/-- Whether the pattern stands for no number. -/
def isNaN (x : Binary64) : Bool := x.exponentField == specialField && x.fraction != 0

/-- Whether the pattern stands for an infinity. -/
def isInfinite (x : Binary64) : Bool := x.exponentField == specialField && x.fraction == 0

/-- The significand `m` of a finite number of absolute value `m * 2 ^ exponent`. -/
def significand (x : Binary64) : Nat :=
  if x.exponentField = 0 then x.fraction else x.fraction + fractionBound

/-- The exponent `q` of a finite number of absolute value `significand * 2 ^ q`. -/
def exponent (x : Binary64) : Int :=
  (max x.exponentField 1 : Nat) + leastExponent - 1

/-- Numeric equality: no pattern for "not a number" equals anything, the two zeros are equal,
and otherwise equal means the same pattern. -/
def numericallyEqual (x y : Binary64) : Bool :=
  !x.isNaN && !y.isNaN && (x.bits == y.bits || (x.magnitude == 0 && y.magnitude == 0))

/-- The quotient rounded to the nearest natural number, a tie to the even one. -/
def roundedQuotient (numerator denominator : Nat) : Nat :=
  let quotient := numerator / denominator
  let twice := 2 * (numerator % denominator)
  if twice < denominator then quotient
  else if denominator < twice then quotient + 1
  else if quotient % 2 = 0 then quotient else quotient + 1

/-- The quotient `numerator / (denominator * 2 ^ shift)` as a pair of natural numbers. -/
def scaled (numerator denominator : Nat) : (shift : Int) → Nat × Nat
  | .ofNat shift => (numerator, denominator * Nat.pow 2 shift)
  | .negSucc shift => (numerator * Nat.pow 2 (shift + 1), denominator)

/-- The exponent that gives the quotient a significand of 53 bits, or the least exponent where
that would be smaller. The logarithms settle it up to one, and one comparison decides. -/
def exponentOf (numerator denominator : Nat) : Int :=
  let guess : Int := (Nat.log2 numerator : Int) - (Nat.log2 denominator : Int) - 52
  let (top, bottom) := scaled numerator denominator guess
  max leastExponent (if top < bottom * fractionBound then guess - 1 else guess)

/-- The number nearest to a positive quotient, ties to the even significand, infinity beyond
the largest number. A significand that rounds up to 53 full bits carries into the exponent
field, which is the right pattern. -/
def ofRatio (negative : Bool) (numerator denominator : Nat) : Binary64 :=
  let exponent := exponentOf numerator denominator
  let (top, bottom) := scaled numerator denominator exponent
  let significand := roundedQuotient top bottom
  let magnitude := (exponent - leastExponent).toNat * fractionBound + significand
  if specialField * fractionBound ≤ magnitude then infinity negative
  else ofParts negative magnitude

/-- The number nearest to `coefficient * 10 ^ exponent`. Far outside the range of finite
numbers the answer is known from the number of digits alone. -/
def ofDecimal (negative : Bool) (coefficient : Nat) (exponent : Int) : Binary64 :=
  let digits : Int := (Nat.toDigits 10 coefficient).length
  if coefficient = 0 then zero negative
  else if 310 < digits + exponent then infinity negative
  else if digits + exponent < -330 then zero negative
  else match exponent with
    | .ofNat power => ofRatio negative (coefficient * Nat.pow 10 power) 1
    | .negSucc power => ofRatio negative coefficient (Nat.pow 10 (power + 1))

end Binary64

end LateBinding
