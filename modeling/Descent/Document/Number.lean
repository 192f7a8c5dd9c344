import Descent.Fault
import Descent.Value

/-!
# Number literals

The numbers that a literal of a document stands for: a whole number exactly, and the nearest
double of a literal with a fraction or an exponent. The functions read a literal that the grammar
has accepted; they do not check its form. A whole number is refused when it has more digits than
allowed, whoever asks for it.
-/

namespace Descent.Document.Number

/-- A literal without its sign, and whether the sign was a minus. -/
def splitSign : Text → Bool × Text
  | [] => (false, [])
  | point :: rest =>
    if point = CodePoint.ofChar '-' then (true, rest)
    else if point = CodePoint.ofChar '+' then (false, rest)
    else (false, point :: rest)

/-- The whole number of a literal of digits with an optional sign. -/
def whole (literal : Text) : Int :=
  let (negative, digits) := splitSign literal
  if negative then -(digits.decimalValue : Int) else digits.decimalValue

/-- The whole number of a literal with at most `maxDigits` digits; zero stands for no limit. -/
def readWhole (maxDigits : Nat) (literal : Text) : Except Fault Int :=
  if 0 < maxDigits && maxDigits < (splitSign literal).2.length then .error .badNumeral
  else .ok (whole literal)

/-- Whether a code point opens an exponent. -/
def isExponentMark (point : CodePoint) : Bool :=
  point = CodePoint.ofChar 'e' || point = CodePoint.ofChar 'E'

/-- The double nearest to a literal. -/
def double (literal : Text) : Binary64 :=
  let (negative, unsigned) := splitSign literal
  let mantissa := unsigned.takeWhile fun point => !isExponentMark point
  let exponent := whole ((unsigned.dropWhile fun point => !isExponentMark point).drop 1)
  let integral := mantissa.takeWhile (· ≠ CodePoint.ofChar '.')
  let fraction := (mantissa.dropWhile (· ≠ CodePoint.ofChar '.')).drop 1
  .ofDecimal negative (Text.decimalValue (integral ++ fraction)) (exponent - fraction.length)

end Descent.Document.Number
