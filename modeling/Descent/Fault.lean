import Descent.Span

/-!
# Faults

A fault is a misuse that stops an evaluation: a state read past its end, a context without the
field that a rule updates, a function applied to a value it does not take. A fault is no parse
failure; declining and escalating are ordinary replies of a rule (`Descent.Run`).
-/

namespace Descent

/-- Why an evaluation stopped. -/
inductive Fault where
  /-- The current token was asked for at the end of the input. -/
  | endOfInput (position : Int)
  /-- A state was to be moved back. -/
  | negativeAdvance (count : Int)
  | badSpan (fault : SpanFault)
  /-- The context is neither a mapping nor a record. -/
  | contextWithoutFields (typeName : Text)
  /-- A record was to be changed in a field that its kind does not have. -/
  | unknownField
  /-- A value that is no mapping was asked for a field it does not have. -/
  | missingField
  /-- A mapping was asked for a key it does not have. -/
  | missingKey
  /-- A rule refers to a name that the grammar does not define. -/
  | undefinedRule
  /-- A derivation uses a variable before it is set. -/
  | unsetVariable
  /-- A function was applied to a value it does not take. -/
  | typeMismatch
  /-- A text does not spell the number asked for. -/
  | badNumeral
  /-- A number has more digits than are written. -/
  | longNumeral
  | indexOutOfRange
  /-- A character was to be repeated by a count that no machine word holds. -/
  | countOutOfRange
  | divisionByZero
  | badPattern
  deriving DecidableEq, Repr, Inhabited

/-- Goes on only where the numbers of a message may be written. -/
def requireWritable (writable : Bool) : Except Fault Unit :=
  if writable then .ok () else .error .longNumeral

@[simp] theorem requireWritable_true : requireWritable true = .ok () := rfl

@[simp] theorem requireWritable_false : requireWritable false = .error .longNumeral := rfl

/-- The fault, unless its message names a number that is not written. -/
def Fault.naming (fault : Fault) (writable : Bool) : Fault :=
  if writable then fault else .longNumeral

/-- The wording of the faults that have one of their own. -/
def Fault.message? : Fault → Option Text
  | endOfInput position => some (text "Unexpected EOF at position " ++ Text.ofInt position)
  | negativeAdvance count =>
    some (text "ParseState.advance count must be >= 0, got " ++ Text.ofInt count)
  | badSpan fault => some fault.message
  | contextWithoutFields typeName =>
    some (text "Context of type " ++ typeName ++ text " does not support field updates")
  | _ => none

end Descent
