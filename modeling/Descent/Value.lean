import Descent.Text
import Descent.Binary64

/-!
# The values that rules consume and produce

Tokens, products and contexts share one dynamic type, because a rule may be applied to any token
sequence and carries any context. `Value` has the plain data (nothing, truth values, numbers,
texts, the three containers) and `record`, for the few fixed shapes with named fields.

Equality, rendering and field access stand in modules of their own below `Descent.Value`.
-/

namespace Descent

/-- The shapes with named fields. -/
inductive RecordKind where
  /-- A line and a column of a text. -/
  | position
  /-- A line, a column and the number of open containers of a document. -/
  | document
  /-- A document node that holds a plain value. -/
  | scalar
  /-- A document node with items. -/
  | array
  /-- A document node with keyed entries. -/
  | object
  /-- A parse state taken as a product. -/
  | snapshot
  deriving DecidableEq, Repr, Inhabited

namespace RecordKind

/-- The names of the fields, in the order in which a record holds them. -/
def fieldNames : RecordKind → List Text
  | position => [text "line", text "column"]
  | document => [text "line", text "column", text "depth"]
  | scalar => [text "value"]
  | array => [text "items"]
  | object => [text "entries"]
  | snapshot => [text "pos", text "context", text "remainder"]

/-- The name under which a record of this kind is shown. -/
def label : RecordKind → Text
  | position => text "TextPosition"
  | document => text "DocumentContext"
  | scalar => text "Scalar"
  | array => text "Array"
  | object => text "Object"
  | snapshot => text "ParseState"

end RecordKind

/-- A token, product or context. -/
inductive Value where
  | none
  | bool (value : Bool)
  | int (value : Int)
  | float (value : Binary64)
  | str (points : Text)
  /-- A fixed sequence, the product of sequences and repetitions. -/
  | tuple (items : List Value)
  /-- A growable sequence; it equals no tuple. -/
  | list (items : List Value)
  /-- Keys with values, in order of first insertion. -/
  | mapping (entries : List (Value × Value))
  | record (kind : RecordKind) (fields : List Value)
  deriving Inhabited

/-- A whole number as a context may hold it: a truth value counts as zero or one, yet keeps its
own spelling. -/
inductive Whole where
  | int (value : Int)
  | bool (value : Bool)
  deriving DecidableEq, Repr, Inhabited

namespace Whole

/-- The number itself. -/
def toInt : Whole → Int
  | int value => value
  | bool value => if value then 1 else 0

/-- The spelling in messages. -/
def text : Whole → Text
  | int value => Text.ofInt value
  | bool true => Descent.text "True"
  | bool false => Descent.text "False"

/-- The number, or `bound` where the number is smaller. -/
def atLeast (bound : Int) (whole : Whole) : Whole :=
  if whole.toInt < bound then .int bound else whole

/-- A bound is a lower bound of what it bounds. -/
theorem le_toInt_atLeast (bound : Int) (whole : Whole) : bound ≤ (whole.atLeast bound).toInt := by
  unfold atLeast
  split
  · exact Int.le_refl bound
  · rename_i h
    exact Int.not_lt.mp h

/-- The value with this number and spelling. -/
def toValue : Whole → Value
  | int value => .int value
  | bool value => .bool value

end Whole

namespace Value

/-- The whole number that a value counts as. -/
def whole? : Value → Option Whole
  | int value => some (.int value)
  | bool value => some (.bool value)
  | _ => Option.none

/-- Whether a value counts as true: nothing, zero and what is empty do not. -/
def truthy : Value → Bool
  | none => false
  | bool value => value
  | int value => value != 0
  | float value => value.magnitude != 0
  | str points => !points.isEmpty
  | tuple items => !items.isEmpty
  | list items => !items.isEmpty
  | mapping entries => !entries.isEmpty
  | record _ _ => true

/-- The name of a value's type in messages. -/
def typeName : Value → Text
  | none => text "NoneType"
  | bool _ => text "bool"
  | int _ => text "int"
  | float _ => text "float"
  | str _ => text "str"
  | tuple _ => text "tuple"
  | list _ => text "list"
  | mapping _ => text "dict"
  | record kind _ => kind.label

/-- One character as a token. -/
def ofCodePoint (point : CodePoint) : Value := str [point]

end Value

end Descent
