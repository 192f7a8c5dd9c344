import Descent.Behaviour
import Descent.Value.Field

/-!
# Context updates

A context is a mapping or a record, and an update replaces one field of it. A mapping takes
any field; a record only those of its kind. Whole numbers in a field may be truth values.
-/

namespace Descent.Context

/-- The context with `value` in the named field. -/
def replaceField (name : Text) (value : Value) : Value → Except Fault Value
  | .mapping entries => .ok (.mapping (Entries.insert (.str name) value entries))
  | .record kind fields =>
    if kind.fieldNames.contains name then
      .ok (.record kind (Fields.replace name value kind.fieldNames fields))
    else .error .unknownField
  | context => .error (.contextWithoutFields context.typeName)

/-- The named field of a context. -/
def readField (name : Text) (context : Value) : Except Fault Value :=
  match context.field? name, context with
  | some value, _ => .ok value
  | none, .mapping _ => .error .missingKey
  | none, _ => .error .missingField

/-- Replaces a field by a function of its old value. -/
def modify (name : Text) (change : Value → Except Fault Value) : Updater := fun context => do
  let old ← readField name context
  replaceField name (← change old) context

/-- Puts a value into a field. -/
def set (name : Text) (value : Value) : Updater := replaceField name value

/-- A function on whole numbers; it takes nothing else. -/
def onWhole (change : Int → Int) (value : Value) : Except Fault Value :=
  match value.whole? with
  | some whole => .ok (.int (change whole.toInt))
  | none => .error .typeMismatch

/-- A tuple with one more item at its end. -/
def push (item : Value) : Value → Except Fault Value
  | .tuple items => .ok (.tuple (items ++ [item]))
  | _ => .error .typeMismatch

end Descent.Context
