import Descent.Run
import Descent.Value.Equality

/-!
# Ready-made tests

Tests that a grammar given as plain data may name for its terminals.
-/

namespace Descent.Catalogue

/-- A test of one token. -/
abbrev Test := Value → Call Bool

namespace Test

/-- A test by a plain predicate. -/
def ofBool (holds : Value → Bool) : Test := fun token => .pure (holds token)

/-- The code point of a text of length one. -/
def onlyPoint? : Value → Option CodePoint
  | .str [point] => some point
  | _ => none

/-- A text that is one decimal digit. -/
def isDigit : Test := ofBool fun token => (onlyPoint? token).any CodePoint.isDigit

/-- A text that is one letter. -/
def isLetter : Test := ofBool fun token => (onlyPoint? token).any CodePoint.isLetter

/-- A token that counts as true. -/
def isTruthy : Test := ofBool Value.truthy

/-- A text. -/
def isText : Test := ofBool fun
  | .str _ => true
  | _ => false

/-- A whole number that is no truth value. -/
def isWhole : Test := ofBool fun
  | .int _ => true
  | _ => false

/-- A token equal to one of the given values. -/
def isOneOf (values : List Value) : Test := ofBool fun token => values.any token.same

/-- A text that does not stand before the given one. -/
def isAtLeast (bound : Text) : Test := ofBool fun
  | .str points => Text.le bound points
  | _ => false

/-- A whole number, truth values included, above the given one. -/
def isAbove (bound : Int) : Test := ofBool fun token =>
  match token.whole? with
  | some whole => bound < whole.toInt
  | none => false

/-- A test that remarks on each token it is applied to. -/
def watched (test : Test) : Test := fun token =>
  let call := test token
  { call with remarks := .tested token :: call.remarks }

end Test

end Descent.Catalogue
