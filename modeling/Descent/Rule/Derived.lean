import Descent.Context
import Descent.Rule
import Descent.Value.Equality

/-!
# Derived rules

The rules that grammars are written with and that need no form of their own: literals, runs of
them, fixed products, hidden followers, and the trackers of line and column. Also the usual error
factory, which says what was expected and what is there instead.
-/

namespace Descent

variable {ν : Type}

namespace Rule

/-- One token for which a plain predicate holds. -/
def satisfying (holds : Value → Bool) : Rule ν := .term fun token => .pure (holds token)

/-- Exactly one token equal to `value`. -/
def literal (value : Value) : Rule ν := satisfying fun token => token.same value

/-- Any one token. -/
def anything : Rule ν := satisfying fun _ => true

/-- Never matches. -/
def never : Rule ν := .choice []

/-- `subrule` with a fixed product. -/
def constant (subrule : Rule ν) (product : Value) : Rule ν :=
  .semantics subrule fun _ => .pure product

/-- Matches in place with a given product. -/
def yielding (product : Value) : Rule ν := constant .empty product

/-- `subrule`, declining where its product is not accepted. -/
def accepting (subrule : Rule ν) (accepts : Value → Bool) : Rule ν :=
  .bind subrule fun product => if accepts product then yielding product else never

/-- A run of tokens, each matched by the rule built for it. -/
def literalSequence (build : Value → Rule ν) (tokens : List Value) : Rule ν :=
  .sequence (tokens.map build)

/-- One of several tokens, matched by the rule built for it. -/
def literalChoice (build : Value → Rule ν) (tokens : List Value) : Rule ν :=
  .choice (tokens.map build)

/-- The item of a tuple at a place counted from zero. -/
def itemAt (index : Nat) : Value → Call Value
  | .tuple items => match items[index]? with
    | some item => .pure item
    | none => .fault .indexOutOfRange
  | _ => .fault .typeMismatch

/-- `subrule` and then the followers, with the product of `subrule` alone. -/
def followedBy (subrule : Rule ν) (followers : List (Rule ν)) : Rule ν :=
  .semantics (.sequence (subrule :: followers)) (itemAt 0)

/-- Adds one to a field of the context. -/
def increment (field : Text) : Updater := Context.modify field (Context.onWhole (· + 1))

/-- Moves the column on by one after a match. -/
def trackColumn (subrule : Rule ν) : Rule ν := .updating subrule [increment (text "column")]

/-- Moves to the start of the next line after a match. -/
def trackLine (subrule : Rule ν) : Rule ν :=
  .updating subrule [increment (text "line"), Context.set (text "column") (.int 1)]

end Rule

/-- The next token, if there is one. A place before the sequence counts from its end. -/
def State.next? (state : State) : Option Value := (state.tokens.dropTo state.pos).get? 0

/-- The next token as it is shown in a message, if there is one. -/
def State.foundToken (state : State) : Option Text := state.next?.map Value.display

/-- Whether the next token can be shown in a message. -/
def State.foundIsWritable (state : State) : Bool :=
  state.next?.all (Value.isWritable state.maxDigits)

/-- The next token of writable tokens can be shown. -/
theorem State.foundIsWritable_of_areWritable {state : State}
    (written : state.tokens.areWritable state.maxDigits) : state.foundIsWritable = true := by
  cases found : state.next? with
  | none => simp only [foundIsWritable, found, Option.all_none]
  | some token =>
      have shown := Tokens.isWritable_of_get? (Tokens.areWritable_slice written _ _) found
      simp only [foundIsWritable, found, Option.all_some, shown]

/-- The error that `expectation` is missing at a state. -/
def ErrorAt.expecting (expectation : Text) : ErrorAt := fun state => do
  requireWritable state.foundIsWritable
  wording true
    (fun span => .expectationFailed expectation state.foundToken span (some state.pos)) state

/-- Where a span can be made, only the token that is found is left to stand in the way. -/
theorem ErrorAt.expecting_of_span {expectation : Text} {state : State} {span : Option Span}
    (made : state.span none = .ok span) :
    expecting expectation state =
      if state.foundIsWritable then
        .ok (.ofDiagnostic
          (.expectationFailed expectation state.foundToken span (some state.pos)) state)
      else .error .longNumeral := by
  cases written : state.foundIsWritable with
  | false => simp only [expecting, written, bind, Except.bind, requireWritable_false]; rfl
  | true => simp only [expecting, written, bind, Except.bind, requireWritable_true,
      wording_of_span made]

/-- What is worded is the diagnostic with the span of the state. -/
theorem ErrorAt.expecting_eq_ok {expectation : Text} {state : State} {error : ParseError}
    (worded : expecting expectation state = .ok error) :
    ∃ span, error =
      .ofDiagnostic (.expectationFailed expectation state.foundToken span (some state.pos))
        state := by
  cases made : state.span none with
  | ok span =>
      rw [expecting_of_span made] at worded
      split at worded <;> cases worded
      exact ⟨span, rfl⟩
  | error fault =>
      cases written : state.foundIsWritable <;>
        simp [expecting, written, wording, made, bind, Except.bind] at worded

end Descent
