import Descent.Run

/-!
# Behaviours

A behaviour is what a rule does: it sends a state to a run. The combinators of this module work on
behaviours, so they are plain functions without any notion of grammar or recursion; the rules of
`Descent.Rule` are given their meaning by them.

Repetition is bounded by a number of laps. `collect` takes up to that many matches; the unbounded
forms answer only when a decline ends them before the laps are spent.
-/

namespace Descent

/-- What a rule does at a state. -/
abbrev Behaviour := State → Run Value

/-- A function that replaces a context. -/
abbrev Updater := Value → Except Fault Value

/-- A function that words the error of a failure at a state. -/
abbrev ErrorAt := State → Except Fault ParseError

namespace ErrorAt

/-- The error that a diagnostic with the span of the state words, if its numbers may be written. -/
def wording (writable : Bool) (diagnostic : Option Span → Diagnostic) : ErrorAt := fun state => do
  let span ← state.span none
  requireWritable writable
  pure (.ofDiagnostic (diagnostic span) state)

variable {writable : Bool} {diagnostic : Option Span → Diagnostic} {state : State}

/-- Where a span can be made, only the numbers are left to stand in the way. -/
theorem wording_of_span {span : Option Span} (made : state.span none = .ok span) :
    wording writable diagnostic state =
      if writable then .ok (.ofDiagnostic (diagnostic span) state) else .error .longNumeral := by
  simp only [wording, made, bind, Except.bind, pure, Except.pure]
  cases writable <;> rfl

/-- What is worded is the diagnostic with the span of the state. -/
theorem wording_eq_ok_iff {error : ParseError} :
    wording writable diagnostic state = .ok error ↔
      writable ∧ ∃ span, state.span none = .ok span ∧
        error = .ofDiagnostic (diagnostic span) state := by
  cases made : state.span none with
  | ok span =>
      rw [wording_of_span made]
      cases writable <;> simp [eq_comm]
  | error fault =>
      simp only [wording, made, bind, Except.bind]
      exact iff_of_false nofun (by rintro ⟨-, span, ⟨⟩, -⟩)

/-- What stands in the way is that there is no span, or that a number may not be written. -/
theorem wording_eq_error_iff {fault : Fault} :
    wording writable diagnostic state = .error fault ↔
      state.span none = .error fault ∨
        writable = false ∧ fault = .longNumeral ∧ ∃ span, state.span none = .ok span := by
  cases made : state.span none with
  | ok span =>
      rw [wording_of_span made]
      cases writable <;> simp [eq_comm]
  | error other =>
      simp only [wording, made, bind, Except.bind, Except.error.injEq]
      exact ⟨.inl, by rintro (same | ⟨-, -, span, ⟨⟩⟩); exact same⟩

end ErrorAt

namespace Behaviour

/-- Notes that a rule is applied to a state and what it replies. -/
def observe (state : State) (run : Run Value) : Run Value :=
  (run.after (.entry (.applied state))).andNote (.entry (.replied run.reply))

/-- One token that passes a test. -/
def term (test : Value → Call Bool) : Behaviour := fun state =>
  if state.atEnd then .declined
  else match state.current with
    | .error fault => .raised fault
    | .ok token =>
      ((test token).run .test state).andThen fun passes here =>
        if passes then .matched token (here.forward 1) else .declined

/-- Matches in place, without a product. -/
def empty : Behaviour := fun state => .matched .none state

/-- Changes the product of a match. -/
def semantics (body : Behaviour) (transform : Value → Call Value) : Behaviour := fun state =>
  (body state).andThen fun product next => (transform product).run .transform next

/-- Matches `body` where none of the subtrahends match; they are tried first, in order. -/
def exclude (body : Behaviour) : List Behaviour → Behaviour
  | [] => body
  | subtrahend :: rest => fun state =>
    (subtrahend state).branch (fun _ _ => .declined) fun _ => exclude body rest state

/-- The products of the parts, each applied where the one before it ended. -/
def parts : List Behaviour → State → Run (List Value)
  | [], state => .matched [] state
  | part :: rest, state =>
    (part state).andThen fun product next => (parts rest next).map (product :: ·)

/-- All parts in order; the product is the tuple of theirs. -/
def sequence (subrules : List Behaviour) : Behaviour := fun state =>
  (parts subrules state).map .tuple

/-- The first alternative that does not decline. -/
def choice : List Behaviour → Behaviour
  | [] => fun _ => .declined
  | alternative :: rest => fun state => (alternative state).orElse fun _ => choice rest state

/-- `body`, or a match in place where it declines. -/
def optional (body : Behaviour) (default : Value) : Behaviour := fun state =>
  (body state).orElse fun _ => .matched default state

/-- The failure with the error that a factory words for a state. -/
def fail {α : Type} (origin : FailureOrigin) (error : ErrorAt) (state : State) : Run α :=
  match error state with
  | .ok error => ⟨.entry (.failing origin), .failed error⟩
  | .error fault => .raised fault

/-- The error of a repetition that does not move on. -/
def stallError : ErrorAt := fun state =>
  ErrorAt.wording (state.writes state.pos) (fun span => .noProgress span (some state.pos)) state

/-- The failure of a repetition that does not move on. -/
def stall {α : Type} (state : State) : Run α :=
  (fail .stall stallError state).after (.entry (.logged (.stalled state.pos)))

/-- From a place that is not negative and can be named, a repetition that does not move on fails
there. -/
theorem exists_stall {α : Type} {state : State} (nonneg : 0 ≤ state.pos)
    (named : state.writes state.pos) :
    ∃ error, stallError state = .ok error ∧ (stall state : Run α).reply = .failed error ∧
      error.state = state ∧ error.code = .noProgress := by
  obtain ⟨span, made⟩ := State.exists_span nonneg
  have worded : stallError state =
      .ok (.ofDiagnostic (.noProgress span (some state.pos)) state) := by
    rw [stallError, ErrorAt.wording_of_span made, if_pos named]
  refine ⟨_, worded, ?_, rfl, rfl⟩
  simp only [stall, Run.after, fail, worded]

/-- The products of up to `limit` matches in a row, ended by a decline. A match that leaves the
state where it was would repeat for ever and is a failure. -/
def collect (body : Behaviour) : (limit : Nat) → State → Run (List Value)
  | 0, state => .matched [] state
  | limit + 1, state =>
    (body state).branch
      (fun product next =>
        if next.samePosition state then stall state
        else (collect body limit next).map (product :: ·))
      fun _ => .matched [] state

/-- As many matches as there are, given that they are fewer than `laps`. -/
def zeroOrMore (laps : Nat) (body : Behaviour) : Behaviour := fun state =>
  (collect body laps state).andThen fun products next =>
    if products.length < laps then .matched (.tuple products) next else .exhausted

/-- As many matches as there are, but at least one. -/
def oneOrMore (laps : Nat) (body : Behaviour) : Behaviour := fun state =>
  (collect body laps state).andThen fun products next =>
    if products.length < laps then
      if products.isEmpty then .declined else .matched (.tuple products) next
    else .exhausted

/-- Exactly `count` matches; none if the count is not positive. -/
def exactly (count : Int) (body : Behaviour) : Behaviour := fun state =>
  (collect body count.toNat state).andThen fun products next =>
    if (products.length : Int) < count then .declined else .matched (.tuple products) next

/-- `body`, then what its product selects. -/
def bind (body : Behaviour) (continuation : Value → Behaviour) : Behaviour := fun state =>
  (body state).andThen continuation

/-- Makes `body` mandatory: where it declines, the error is final. -/
def failpoint (body : Behaviour) (error : ErrorAt) : Behaviour := fun state =>
  (body state).orElse fun _ => fail .failpoint error state

/-- Fails at every state. -/
def escalate (error : ErrorAt) : Behaviour := fail .escalation error

/-- The context after the updaters, in order; product and place stay. -/
def update (product : Value) : List Updater → Behaviour
  | [], state => .matched product state
  | updater :: rest, state =>
    (Call.run .updater state ⟨updater state.context, []⟩).andThen fun context here =>
      update product rest (here.withContext context)

/-- `body`, and the updaters on the context after a match. -/
def updating (body : Behaviour) (updaters : List Updater) : Behaviour := fun state =>
  (body state).andThen fun product next => update product updaters next

/-- What a watcher remarks when the watched rule has replied. -/
def closingRemark (label : Value) : Reply Value → List Remark
  | .matched _ next => [.matched label next.pos]
  | .declined => [.declined label]
  | .failed _ => [.failed label]
  | .raised _ | .exhausted => []

/-- `body`, with remarks before and after it. -/
def watched (label : Value) (body : Behaviour) : Behaviour := fun state =>
  let run := (body state).after (.entry (.remarked (.entered label state.pos)))
  run.andNote (.ofList ((closingRemark label run.reply).map .remarked))

end Behaviour

end Descent
