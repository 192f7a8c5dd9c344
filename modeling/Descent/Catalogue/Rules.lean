import Descent.Pattern
import Descent.Rule.Derived

/-!
# Ready-made rules

Rules, continuations and error factories that a grammar given as plain data may name.
-/

namespace Descent

variable {ν : Type}

namespace Rule

/-- One text token that a pattern accepts as a whole, against the given alphabet. -/
def matching (alphabet : Alphabet) (pattern : Pattern) : Rule ν :=
  satisfying fun
    | .str points => pattern.accepts alphabet points
    | _ => false

/-- A literal whose product is a pair of a fixed mark and the value it was built for. -/
def marked (token : Value) : Rule ν :=
  constant (literal token) (.tuple [.str (text "tok"), token])

/-- As many matches as a product says. Without a number the repetition is unbounded, and its match
is then of no use as a count. -/
def counted (subrule : Rule ν) : Value → Rule ν
  | .none => .bind (.zeroOrMore subrule) fun _ => .fault .typeMismatch
  | product => match product.whole? with
    | some count => .exactly count.toInt subrule
    | none => .fault .typeMismatch

/-- The rule of the first value equal to a product. -/
def cases (branches : List (Value × Rule ν)) (other : Rule ν) (product : Value) : Rule ν :=
  match branches.find? fun branch => branch.1.same product with
  | some branch => branch.2
  | none => other

/-- Adds one to an entry of a mapping context without consuming anything; declines once the
entry has reached the bound. -/
def countUp (field : Text) (bound : Int) : Rule ν :=
  .derivation
    (.getState fun state =>
      match state.context with
      | .mapping entries =>
        match (Entries.find? (.str field) entries).map Value.whole? with
        | none => .fault .missingKey
        | some none => .fault .typeMismatch
        | some (some reached) =>
          .apply
            (if bound ≤ reached.toInt then never else .updating .empty [increment field]) .finish
      | _ => .fault .typeMismatch) []

end Rule

namespace ErrorAt

/-- An error with fixed details. -/
def fixed (message : Text) (expected : List Text) (found : Option Text) (code : DiagnosticCode) :
    ErrorAt := fun state =>
  .ok { message, state, expected, found, code }

/-- An error that says how many tokens are left. -/
def counting (message : Text) : ErrorAt := fun state => do
  requireWritable (state.previewIsWritable State.previewLimit)
  pure {
    message := message ++ text " (" ++
      Text.ofNat (state.tokens.dropTo state.pos).size ++ text " left)"
    state := state
    found := state.preview State.previewLimit }

end ErrorAt

end Descent
