import Descent.Value

/-!
# How values are shown

Messages and previews show tokens. A text stands for itself on its own (`display`) and is quoted
inside a container (`quoted`); every other value has one form, `literal`. A double is shown by its
bits, since no token is a double. A form with a number that has too many digits is never written
(`isWritable`).
-/

namespace Descent

namespace Text

/-- How one code point of a quoted text is written. -/
def quotedPoint (quote : CodePoint) (point : CodePoint) : Text :=
  let number := point.val
  if point = quote || number = '\\'.toNat then [CodePoint.ofChar '\\', point]
  else if number = '\n'.toNat then text "\\n"
  else if number = '\r'.toNat then text "\\r"
  else if number = '\t'.toNat then text "\\t"
  else if number < 0x20 || (0x7F ≤ number && number ≤ 0xA0) || number = 0xAD then
    text "\\x" ++ hex 2 number
  else if 0xD800 ≤ number && number < 0xE000 then text "\\u" ++ hex 4 number
  else [point]

/-- A text between quotes: single ones, or double ones if it holds a single quote and no double
one. -/
def quoted (points : Text) : Text :=
  let single := CodePoint.ofChar '\''
  let double := CodePoint.ofChar '"'
  let quote := if points.contains single && !points.contains double then double else single
  quote :: points.flatMap (quotedPoint quote) ++ [quote]

end Text

namespace Value

/-- Texts with commas between them. -/
def commaSeparated (texts : List Text) : Text := Text.join (text ", ") texts

/-- A tuple of rendered items; a single item keeps a comma after it. -/
def tupleText : List Text → Text
  | [only] => text "(" ++ only ++ text ",)"
  | texts => text "(" ++ commaSeparated texts ++ text ")"

mutual

/-- The form of a value inside a container. -/
def literal : Value → Text
  | none => text "None"
  | bool value => (Whole.bool value).text
  | int value => Text.ofInt value
  | float value => text "0x" ++ Text.hex 16 value.bits.toNat
  | str points => points.quoted
  | tuple items => tupleText (literals items)
  | list items => text "[" ++ commaSeparated (literals items) ++ text "]"
  | mapping entries => text "\x7b" ++ commaSeparated (entryLiterals entries) ++ text "\x7d"
  | record kind fields =>
    kind.label ++ text "(" ++
      commaSeparated ((kind.fieldNames.zip (literals fields)).map fun field =>
        field.1 ++ text "=" ++ field.2) ++ text ")"

/-- The forms of values, in order. -/
def literals : List Value → List Text
  | [] => []
  | value :: rest => literal value :: literals rest

/-- The forms of mapping entries, in order. -/
def entryLiterals : List (Value × Value) → List Text
  | [] => []
  | (key, value) :: rest => (literal key ++ text ": " ++ literal value) :: entryLiterals rest

end

/-- The form of a value on its own: a text stands for itself. -/
def display : Value → Text
  | str points => points
  | value => value.literal

mutual

/-- Whether every number in the form of a value may be written. -/
def isWritable (maxDigits : Nat) : Value → Bool
  | none | bool _ | float _ | str _ => true
  | int number => Text.isWritable maxDigits 0 number
  | tuple items | list items | record _ items => areWritable maxDigits items
  | mapping entries => entriesAreWritable maxDigits entries

/-- Whether every number in the forms of values may be written. -/
def areWritable (maxDigits : Nat) : List Value → Bool
  | [] => true
  | value :: rest => isWritable maxDigits value && areWritable maxDigits rest

/-- Whether every number in the forms of mapping entries may be written. -/
def entriesAreWritable (maxDigits : Nat) : List (Value × Value) → Bool
  | [] => true
  | (key, value) :: rest =>
    isWritable maxDigits key && isWritable maxDigits value && entriesAreWritable maxDigits rest

end

/-- The forms of values may be written if that of each may be. -/
theorem areWritable_iff {maxDigits : Nat} {values : List Value} :
    areWritable maxDigits values ↔ ∀ value ∈ values, value.isWritable maxDigits := by
  induction values with
  | nil => simp [areWritable]
  | cons value rest inductionHypothesis => simp [areWritable, inductionHypothesis]

@[simp] theorem isWritable_ofCodePoint (maxDigits : Nat) (point : CodePoint) :
    (ofCodePoint point).isWritable maxDigits = true := rfl

end Value

end Descent
