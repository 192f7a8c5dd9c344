import Descent.Behaviour
import Descent.Rejection

/-!
# Outcomes of a run

Applying a root rule to a whole input ends in one of four ways: it matched everything, it did not
match at all, it matched a part, or it failed for good. `Report.of` applies a behaviour and
classifies what came of it; a caller that wants a product or a rejection uses `Outcome.unwrap` or
`Outcome.resolve`.
-/

namespace Descent

/-- How a root rule ended. -/
inductive Outcome where
  /-- It matched and consumed every token. -/
  | success (value : Value)
  /-- It declined at this initial state. -/
  | invalid (state : State)
  /-- It matched up to this state and tokens remain. -/
  | leftover (value : Value) (state : State)
  /-- It failed for good. -/
  | escalated (error : ParseError)

namespace Outcome

/-- Whether the whole input was matched. -/
def isSuccess : Outcome → Bool
  | success _ => true
  | _ => false

/-- The outcome of a reply to an initial state. An error is put on one line at once, for the log. -/
def classify (initial : State) : Reply Value → Except Stop Outcome
  | .matched value final => .ok (if final.atEnd then success value else leftover value final)
  | .declined => .ok (invalid initial)
  | .failed error =>
    if error.state.placeIsWritable then .ok (escalated error) else .error (.fault .longNumeral)
  | .raised fault => .error (.fault fault)
  | .exhausted => .error .exhausted

/-- Only a reply that failed is classified as escalated. -/
theorem reply_of_classify {initial : State} {reply : Reply Value} {error : ParseError}
    (classified : classify initial reply = .ok (escalated error)) : reply = .failed error := by
  cases reply with
  | matched product final =>
      simp only [classify] at classified
      split at classified <;> cases classified
  | declined => cases classified
  | failed failure =>
      simp only [classify] at classified
      split at classified
      · cases classified
        rfl
      · cases classified
  | raised fault => cases classified
  | exhausted => cases classified

/-- What is logged about a reply to an initial state. -/
def record? (initial : State) : Reply Value → Option LogRecord
  | .matched _ final =>
    some (if final.atEnd then .rootMatchedAll final.tokens.size
      else .rootMatchedPrefix final.pos final.tokens.size)
  | .declined => some (.rootDeclined initial.pos)
  | .failed error =>
    if error.state.placeIsWritable then some (.rootEscalated error.format) else none
  | .raised _ | .exhausted => none

/-- Nothing of the input could be matched. -/
def invalidDiagnostic (state : State) : Except Fault Diagnostic := do
  requireWritable (state.previewIsWritable State.previewLimit)
  let span ← state.span none
  pure (.invalidInput (state.preview State.previewLimit) span (some state.pos))

/-- Something is left behind the match. -/
def leftoverDiagnostic (state : State) : Except Fault Diagnostic := do
  requireWritable (state.previewIsWritable State.previewLimit)
  let span ← state.span none
  pure (.leftoverInput (state.preview State.previewLimit) span (some state.pos))

/-- What is wrong, if anything is. -/
def diagnostic : Outcome → Except Fault (Option Diagnostic)
  | success _ => .ok none
  | invalid state => (invalidDiagnostic state).map some
  | leftover _ state => (leftoverDiagnostic state).map some
  | escalated error => error.toDiagnostic.map some

/-- The rejection that a diagnostic of a state words, or the fault met in making or wording it. -/
def reject (kind : RejectionKind) (error : Option ParseError) (state : State) :
    Except Fault Diagnostic → Stop
  | .ok diagnostic =>
    if diagnostic.placeIsWritable state.writes then .rejected (.ofDiagnostic kind diagnostic error)
    else .fault .longNumeral
  | .error fault => .fault fault

/-- A diagnostic at a state whose place can be named can be written. -/
theorem placeIsWritable_of_span {state : State} {diagnostic : Diagnostic}
    (spanned : state.span none = .ok diagnostic.span)
    (placed : diagnostic.position = some state.pos) (written : state.placeIsWritable) :
    diagnostic.placeIsWritable state.writes := by
  unfold State.placeIsWritable at written
  unfold Diagnostic.placeIsWritable
  cases located : state.location with
  | none =>
      simp only [located] at written
      simp only [State.span, located, Except.ok.injEq] at spanned
      simpa only [← spanned, placed] using written
  | some location =>
      simp only [located, Bool.and_eq_true] at written
      cases made : Span.make state.pos state.pos (location.line.atLeast 1)
          (location.column.atLeast 1) with
      | error fault =>
          simp only [State.span, located, made] at spanned
          cases spanned
      | ok span =>
          simp only [State.span, located, made, Except.ok.injEq] at spanned
          obtain ⟨line, column⟩ := Span.place_of_make made
          simp only [← spanned, line, column, State.writes_atLeast_one written.1,
            State.writes_atLeast_one written.2, Bool.and_self]

/-- At such a state the diagnostic is the rejection. -/
theorem reject_of_span {kind : RejectionKind} {error : Option ParseError} {state : State}
    {diagnostic : Diagnostic} (spanned : state.span none = .ok diagnostic.span)
    (placed : diagnostic.position = some state.pos) (written : state.placeIsWritable) :
    reject kind error state (.ok diagnostic) = .rejected (.ofDiagnostic kind diagnostic error) :=
  if_pos (placeIsWritable_of_span spanned placed written)

/-- The product of a success; every other outcome is a rejection of the given kind. -/
def unwrap (kind : RejectionKind) : Outcome → Except Stop Value
  | success value => .ok value
  | invalid state => .error (reject kind none state (invalidDiagnostic state))
  | leftover _ state => .error (reject kind none state (leftoverDiagnostic state))
  | escalated error => .error (reject kind (some error) error.state error.toDiagnostic)

/-- The product of a success, or what a handler makes of invalid or leftover input; an outcome
without a handler is a rejection. -/
def resolve (outcome : Outcome) (onInvalid : Option (State → Value))
    (onLeftover : Option (Value → State → Value)) : Except Stop Value :=
  match outcome, onInvalid, onLeftover with
  | invalid state, some handle, _ => .ok (handle state)
  | leftover value state, _, some handle => .ok (handle value state)
  | _, _, _ => outcome.unwrap .input

end Outcome

/-- A finished run: its events, the root rule's reply and the outcome. -/
structure Report where
  journal : Journal
  reply : Reply Value
  outcome : Except Stop Outcome

/-- Applies a behaviour to an initial state and classifies the reply. -/
def Report.of (behaviour : Behaviour) (initial : State) : Report :=
  let run := behaviour initial
  { journal := run.journal ++ .ofList ((Outcome.record? initial run.reply).map .logged).toList
    reply := run.reply
    outcome := Outcome.classify initial run.reply }

end Descent
