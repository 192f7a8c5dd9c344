import Descent.Text

/-!
# Double-precision numbers

A `Binary64` is the sixty-four bits of the interchange format: a sign, eleven bits of exponent
and fifty-two of significand. The module reads a decimal into the nearest such number, ties to
the even significand, and compares a number exactly with a whole number. Arithmetic and decimal
printing are absent; no rule of the library computes with these numbers. Some patterns stand for no
number. No literal is read as one of them, and none of them equals anything, itself included.
-/

namespace Descent

namespace Binary64

/-- The number of significands that share an exponent, two to the power fifty-two. -/
def significandCount : Nat := 0x10000000000000

/-- The weight of the sign bit, two to the power sixty-three. -/
def signWeight : Nat := 0x8000000000000000

/-- The bit pattern of infinity, one past the largest finite magnitude. -/
def infinityBits : Nat := 0x7FF * significandCount

end Binary64

/-- A double-precision number, by its bits. -/
structure Binary64 where
  bits : UInt64
  deriving DecidableEq, Repr

namespace Binary64

/-- The number whose magnitude has the given bits, infinite where they are too many. -/
def ofMagnitude (negative : Bool) (magnitude : Nat) : Binary64 where
  bits := UInt64.ofNat ((if negative then signWeight else 0) + min infinityBits magnitude)

/-- The quotient rounded to the nearest whole number, a half going to the even neighbour. -/
def roundHalfEven (numerator denominator : Nat) : Nat :=
  let quotient := numerator / denominator
  let twiceRest := 2 * (numerator % denominator)
  if denominator < twiceRest || (twiceRest == denominator && quotient % 2 == 1) then quotient + 1
  else quotient

/-- The exponent `k` with `2 ^ k ≤ numerator / denominator < 2 ^ (k + 1)`. -/
def binaryExponent (numerator denominator : Nat) : Int :=
  let guess : Int := (numerator.log2 : Int) - denominator.log2
  let reached :=
    if 0 ≤ guess then denominator <<< guess.toNat ≤ numerator
    else denominator ≤ numerator <<< (-guess).toNat
  if reached then guess else guess - 1

/-- The magnitude bits of a positive ratio. The grid spacing is `2 ^ spacing`, never below
`2 ^ (-1074)`; a significand that rounds up to the next power of two carries into the exponent
field, and those past the largest finite number are infinity or more. -/
def magnitudeOfRatio (numerator denominator : Nat) : Nat :=
  let spacing := max (binaryExponent numerator denominator - 52) (-1074)
  let significand :=
    if 0 ≤ spacing then roundHalfEven numerator (denominator <<< spacing.toNat)
    else roundHalfEven (numerator <<< (-spacing).toNat) denominator
  (spacing + 1074).toNat * significandCount + significand

/-- The number nearest to `significand * 10 ^ exponent`, negated if `negative`.

A magnitude of `10 ^ 310` or more is infinite and one below `10 ^ (-330)` is zero, so that powers
of ten are only formed inside that range. -/
def ofDecimal (negative : Bool) (significand : Nat) (exponent : Int) : Binary64 :=
  let leading := exponent + (Nat.toDigits 10 significand).length
  if significand = 0 then ofMagnitude negative 0
  else if 310 < leading then ofMagnitude negative infinityBits
  else if leading < -330 then ofMagnitude negative 0
  else if 0 ≤ exponent then
    ofMagnitude negative (magnitudeOfRatio (significand * Nat.pow 10 exponent.toNat) 1)
  else ofMagnitude negative (magnitudeOfRatio significand (Nat.pow 10 (-exponent).toNat))

/-- The bits without the sign. -/
def magnitude (number : Binary64) : Nat := number.bits.toNat % signWeight

/-- Whether the sign bit is set. -/
def isNegative (number : Binary64) : Bool := signWeight ≤ number.bits.toNat

/-- Whether the number is neither infinite nor no number. -/
def isFinite (number : Binary64) : Bool := number.magnitude < infinityBits

/-- Whether the bits stand for no number. -/
def isNaN (number : Binary64) : Bool := infinityBits < number.magnitude

/-- The usual bits that stand for no number. -/
def nan : Binary64 := ⟨0x7FF8000000000000⟩

/-- What is read from a literal is a number. -/
theorem isNaN_ofMagnitude (negative : Bool) (magnitude : Nat) :
    (ofMagnitude negative magnitude).isNaN = false := by
  simp only [isNaN, Binary64.magnitude, ofMagnitude, UInt64.toNat_ofNat', signWeight, infinityBits,
    significandCount, decide_eq_false_iff_not]
  split <;> omega

/-- Significand and exponent of a finite magnitude `m * 2 ^ q`. -/
def decode (number : Binary64) : Nat × Int :=
  let field := number.magnitude / significandCount
  let fraction := number.magnitude % significandCount
  if field = 0 then (fraction, -1074) else (fraction + significandCount, (field : Int) - 1075)

/-- Equality of numbers: both zeros are equal, and what is no number equals nothing. -/
def same (first second : Binary64) : Bool :=
  (first.magnitude == 0 && second.magnitude == 0) || (first == second && !first.isNaN)

/-- What is a number, and nothing else, equals itself. -/
@[simp] theorem same_self (number : Binary64) : number.same number = !number.isNaN := by
  have zero : number.magnitude = 0 → number.isNaN = false := by
    intro none
    simp [isNaN, none]
  cases isNaN : number.isNaN with
  | false => simp [same, isNaN]
  | true =>
      have some : number.magnitude ≠ 0 := fun none => by simp [zero none] at isNaN
      simp [same, isNaN, some]

/-- Exact equality with a whole number. -/
def sameInt (number : Binary64) (whole : Int) : Bool :=
  let (significand, exponent) := number.decode
  let sizesAgree :=
    if 0 ≤ exponent then significand <<< exponent.toNat == whole.natAbs
    else significand == whole.natAbs <<< (-exponent).toNat
  number.isFinite && sizesAgree && (whole == 0 || number.isNegative == decide (whole < 0))

end Binary64

end Descent
