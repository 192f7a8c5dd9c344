import Descent.Run
import Descent.Value.Flatten

/-!
# Ready-made transforms

Functions on products that a grammar given as plain data may name.
-/

namespace Descent.Catalogue

/-- A function on products. -/
abbrev Transform := Value → Call Value

/-- White space around a numeral, on ASCII. -/
def isBlank (point : CodePoint) : Bool :=
  point = CodePoint.ofChar ' ' || (0x09 ≤ point.val && point.val ≤ 0x0D) ||
    (0x1C ≤ point.val && point.val ≤ 0x1F)

/-- Digits with at most one underscore between neighbours, without the underscores. -/
def plainDigits? : Text → Option Text
  | [] => none
  | [digit] => if digit.isDigit then some [digit] else none
  | first :: second :: rest =>
    if !first.isDigit then none
    else if second = CodePoint.ofChar '_' then (plainDigits? rest).map (first :: ·)
    else (plainDigits? (second :: rest)).map (first :: ·)

/-- A text without the blanks around it. -/
def trim (points : Text) : Text :=
  ((points.dropWhile isBlank).reverse.dropWhile isBlank).reverse

/-- Whether a numeral is negative, and what is behind its sign. -/
def splitSign : Text → Bool × Text
  | [] => (false, [])
  | sign :: rest =>
    if sign = CodePoint.ofChar '-' then (true, rest)
    else if sign = CodePoint.ofChar '+' then (false, rest)
    else (false, sign :: rest)

/-- The whole number that a text spells: an optional sign and at most `maxDigits` digits, with
blanks around them; zero stands for no limit. -/
def wholeOfText? (maxDigits : Nat) (points : Text) : Option Int := do
  let (negative, numeral) := splitSign (trim points)
  let digits ← plainDigits? numeral
  if 0 < maxDigits && maxDigits < digits.length then none
  else if negative then some (-(Text.decimalValue digits : Int))
  else some (Text.decimalValue digits)

namespace Transform

/-- Leaves the product alone. -/
def same : Transform := .pure

/-- The leaves joined to one text. -/
def joined : Transform := fun product =>
  match product.joined? with
  | some points => .pure (.str points)
  | none => .fault .typeMismatch

/-- The whole number that a text spells, or that a value counts as. -/
def whole : Transform
  | .str points => match wholeOfText? Text.standardMaxDigits points with
    | some number => .pure (.int number)
    | none => .fault .badNumeral
  | product => match product.whole? with
    | some whole => .pure (.int whole.toInt)
    | none => .fault .typeMismatch

/-- The number of items, entries or code points. -/
def length : Transform
  | .str points => .pure (.int points.length)
  | .tuple items | .list items => .pure (.int items.length)
  | .mapping entries => .pure (.int entries.length)
  | _ => .fault .typeMismatch

/-- The tuple of the leaves. -/
def flattened : Transform := fun product => .pure (.tuple product.flatten)

/-- A tuple in reverse. -/
def reversed : Transform
  | .tuple items => .pure (.tuple items.reverse)
  | _ => .fault .typeMismatch

/-- The item at an index; a negative index counts from the end. -/
def item (index : Int) : Transform
  | .tuple items | .list items =>
    let place := if index < 0 then index + items.length else index
    if place < 0 then .fault .indexOutOfRange
    else match items[place.toNat]? with
      | some item => .pure item
      | none => .fault .indexOutOfRange
  | _ => .fault .typeMismatch

/-- The product in a pair behind a name. -/
def tagged (name : Value) : Transform := fun product => .pure (.tuple [name, product])

/-- Leaves the product alone and remarks on it. -/
def watched (label : Value) : Transform := fun product =>
  { outcome := .ok product, remarks := [.transformed label product] }

end Transform

end Descent.Catalogue
