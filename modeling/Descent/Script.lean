import Descent.Rule
import Descent.Value.Equality
import Descent.Value.Field
import Descent.Value.Flatten

/-!
# Scripts

A script is a derivation given as plain data: a list of steps that set variables, and an expression
for the product. `Script.steps` turns it into the steps of a rule. A variable that is read before
it is set is a fault of the derivation.
-/

namespace Descent.Script

/-- The variables that are set, last one first. -/
abbrev Bindings := List (Text × Value)

/-- The value of a variable. -/
def valueOf (bindings : Bindings) (name : Text) : Except Fault Value :=
  match bindings.lookup name with
  | some value => .ok value
  | none => .error .unsetVariable

/-- How a product is computed. -/
inductive Expression where
  | variable (name : Text)
  | constant (value : Value)
  | tuple (items : List Expression)
  /-- The place of the state in a variable. -/
  | place (name : Text)
  /-- The context of the state in a variable. -/
  | context (name : Text)
  /-- The leaves of a variable joined to one text. -/
  | joined (name : Text)
  deriving Inhabited

/-- A field of the state in a variable. -/
def stateField (bindings : Bindings) (name field : Text) : Except Fault Value := do
  match ← valueOf bindings name with
  | .record .snapshot fields =>
    match Fields.find? field RecordKind.snapshot.fieldNames fields with
    | some value => pure value
    | none => throw .missingField
  | _ => throw .missingField

mutual

/-- The value of an expression. -/
def Expression.evaluate (bindings : Bindings) : Expression → Except Fault Value
  | .variable name => valueOf bindings name
  | .constant value => .ok value
  | .tuple items => (Expression.evaluateAll bindings items).map .tuple
  | .place name => stateField bindings name (text "pos")
  | .context name => stateField bindings name (text "context")
  | .joined name => do
    match (← valueOf bindings name).joined? with
    | some points => pure (.str points)
    | none => throw .typeMismatch

/-- The values of expressions, in order. -/
def Expression.evaluateAll (bindings : Bindings) : List Expression → Except Fault (List Value)
  | [] => .ok []
  | item :: rest => do
    let value ← item.evaluate bindings
    let values ← Expression.evaluateAll bindings rest
    pure (value :: values)

end

/-- A step of a script over the names in `ν`. -/
inductive Step (ν : Type) where
  /-- Applies a rule. -/
  | run (rule : Rule ν) (target : Option Text)
  /-- Takes the current state. -/
  | get (target : Text)
  /-- Applies the rule that a variable selects. -/
  | proceed (continuation : Value → Rule ν) (source : Text) (target : Option Text)
  /-- Remarks on a mark. -/
  | mark (label : Value)
  /-- Ends the script if a variable has a given value. -/
  | returnIf (name : Text) (value : Value) (product : Expression)
  deriving Inhabited

/-- The bindings with a product in the target, if there is one. -/
def bindTo (target : Option Text) (product : Value) (bindings : Bindings) : Bindings :=
  match target with
  | some name => (name, product) :: bindings
  | none => bindings

/-- A derivation that ends with the value of an expression. -/
def finishWith {ν : Type} (bindings : Bindings) (product : Expression) : Steps ν :=
  match product.evaluate bindings with
  | .ok value => .finish value
  | .error fault => .fault fault

/-- The derivation that a script describes. -/
def steps {ν : Type} (product : Expression) : List (Step ν) → Bindings → Steps ν
  | [], bindings => finishWith bindings product
  | .run rule target :: rest, bindings =>
    .apply rule fun value => steps product rest (bindTo target value bindings)
  | .get target :: rest, bindings =>
    .getState fun state => steps product rest ((target, state.snapshot) :: bindings)
  | .proceed continuation source target :: rest, bindings =>
    match valueOf bindings source with
    | .error fault => .fault fault
    | .ok value =>
      .apply (continuation value) fun value => steps product rest (bindTo target value bindings)
  | .mark label :: rest, bindings => .remark (.marked label) (steps product rest bindings)
  | .returnIf name expected early :: rest, bindings =>
    match valueOf bindings name with
    | .error fault => .fault fault
    | .ok value =>
      if value.same expected then finishWith bindings early else steps product rest bindings

/-- The rule that runs a script; the label is remarked on when the script is over. -/
def rule {ν : Type} (script : List (Step ν)) (product : Expression) (label : Option Value) :
    Rule ν :=
  .derivation (steps product script []) (label.map Remark.finished).toList

end Descent.Script
