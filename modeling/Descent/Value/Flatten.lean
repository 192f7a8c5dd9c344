import Descent.Value

/-!
# Flattening products

The product of a rule is a tree of tuples and lists. `Value.flatten` lists its leaves from left to
right and drops the absent ones.
-/

namespace Descent.Value

mutual

/-- The leaves of nested tuples and lists, in order; `none` is no leaf. -/
def flatten : Value → List Value
  | none => []
  | tuple items => flattenAll items
  | list items => flattenAll items
  | value => [value]

/-- The leaves of several values, in order. -/
def flattenAll : List Value → List Value
  | [] => []
  | value :: rest => flatten value ++ flattenAll rest

end

/-- The text of a value that is one. -/
def str? : Value → Option Text
  | str points => some points
  | _ => Option.none

/-- The leaves of a value joined to one text, if all of them are texts. -/
def joined? (value : Value) : Option Text := (value.flatten.mapM str?).map List.flatten

end Descent.Value
