import Descent.Outcome
import Descent.Proofs.Consumption

/-!
# Running a rule never faults by itself

A rule that begins at or behind the start of its tokens never reads a token that is not there and
never makes a span that is out of bounds. So a run faults only where a test, a transform or an
updater does, or where a message would have to name a number with too many digits. Whatever else it
comes to can be told to a caller: there is an outcome, and an outcome other than success has a
diagnostic and can be unwrapped into a rejection. Again it is only numbers with too many digits that
keep them from being written. The context does not matter for any of this, not even one whose line
and column are no places of a text.

The excerpt of the source is another exception. It puts a caret under the column, and a column that
is too far out to be counted in a machine word stops it.
-/

namespace Descent

/-! ## Outcomes that can be told -/

/-- What a caller gets of an outcome that is no success and stands at a place: a diagnostic whose
span, if it has one, is within bounds, and a rejection that carries the diagnostic. There is a fault
in place of the rejection if the line and the column cannot be written. -/
structure Outcome.Tells (outcome : Outcome) (place : State) (diagnostic : Diagnostic) : Prop where
  made : outcome.diagnostic = .ok (some diagnostic)
  bounded : ∀ span ∈ diagnostic.span,
    0 ≤ span.start ∧ span.start ≤ span.stop ∧ 1 ≤ span.line.toInt ∧ 1 ≤ span.column.toInt
  rejected (written : diagnostic.placeIsWritable place.writes) :
    ∃ rejection, outcome.unwrap .input = .error (.rejected rejection) ∧
      rejection.kind = .input ∧ rejection.diagnostic = some diagnostic
  refused (unwritten : diagnostic.placeIsWritable place.writes = false) :
    outcome.unwrap .input = .error (.fault .longNumeral)

/-- What a caller gets where the tokens that are left cannot be shown. -/
structure Outcome.Refuses (outcome : Outcome) : Prop where
  diagnostic : outcome.diagnostic = .error .longNumeral
  unwrap : outcome.unwrap .input = .error (.fault .longNumeral)

/-- Whether the tokens that the diagnostic shows may be written. -/
def Outcome.previewIsWritable : Outcome → Bool
  | .success _ | .escalated _ => true
  | .invalid state | .leftover _ state => state.previewIsWritable State.previewLimit

/-- What a caller gets of an outcome that is no success: it can be told if the tokens that the
diagnostic shows may be written, and is refused otherwise. -/
structure Outcome.Told (outcome : Outcome) (place : State) : Prop where
  shown (written : outcome.previewIsWritable) : ∃ diagnostic, outcome.Tells place diagnostic
  unshown (unwritten : outcome.previewIsWritable = false) : outcome.Refuses

/-- The state at which an outcome other than success stands. -/
def Outcome.state? : Outcome → Option State
  | .success _ => none
  | .invalid state | .leftover _ state => some state
  | .escalated error => some error.state

namespace Outcome

variable {outcome : Outcome}

/-- An outcome whose diagnostic can be made can be told. -/
theorem tells_of_made {made : Except Fault Diagnostic} {diagnostic : Diagnostic} {place : State}
    {error : Option ParseError} (worded : made = .ok diagnostic)
    (diagnosed : outcome.diagnostic = made.map some)
    (unwrapped : outcome.unwrap .input = .error (reject .input error place made)) :
    outcome.Tells place diagnostic where
  made := by rw [diagnosed, worded, Except.map]
  bounded span _ :=
    ⟨span.start_nonneg, span.start_le_stop, span.one_le_line, span.one_le_column⟩
  rejected written :=
    ⟨.ofDiagnostic .input diagnostic error, by rw [unwrapped, worded, reject, if_pos written], rfl,
      rfl⟩
  refused unwritten := by rw [unwrapped, worded, reject, unwritten, if_neg Bool.false_ne_true]

/-- An outcome whose diagnostic cannot be made is refused. -/
theorem refuses_of_made {made : Except Fault Diagnostic} {place : State}
    {error : Option ParseError} (unworded : made = .error .longNumeral)
    (diagnosed : outcome.diagnostic = made.map some)
    (unwrapped : outcome.unwrap .input = .error (reject .input error place made)) :
    outcome.Refuses where
  diagnostic := by rw [diagnosed, unworded, Except.map]
  unwrap := by rw [unwrapped, unworded, reject]

/-- An outcome that stands at or behind the start of the tokens can be told if its tokens can be
shown, since a span can be made there. -/
theorem told {state : State} (stands : outcome.state? = some state) (nonneg : 0 ≤ state.pos) :
    outcome.Told state := by
  obtain ⟨span, spans⟩ := State.exists_span nonneg
  cases outcome with
  | success value => cases stands
  | invalid state =>
      cases stands
      refine ⟨fun (shown : state.previewIsWritable _) => ?_,
        fun (unshown : state.previewIsWritable _ = false) => refuses_of_made ?_ rfl rfl⟩
      · have worded : invalidDiagnostic state =
            .ok (.invalidInput (state.preview State.previewLimit) span (some state.pos)) := by
          simp only [invalidDiagnostic, shown, requireWritable_true, spans, bind, Except.bind, pure,
            Except.pure]
        exact ⟨_, tells_of_made worded rfl rfl⟩
      · simp only [invalidDiagnostic, unshown, requireWritable_false, bind, Except.bind]
  | leftover value state =>
      cases stands
      refine ⟨fun (shown : state.previewIsWritable _) => ?_,
        fun (unshown : state.previewIsWritable _ = false) => refuses_of_made ?_ rfl rfl⟩
      · have worded : leftoverDiagnostic state =
            .ok (.leftoverInput (state.preview State.previewLimit) span (some state.pos)) := by
          simp only [leftoverDiagnostic, shown, requireWritable_true, spans, bind, Except.bind,
            pure, Except.pure]
        exact ⟨_, tells_of_made worded rfl rfl⟩
      · simp only [leftoverDiagnostic, unshown, requireWritable_false, bind, Except.bind]
  | escalated error =>
      cases stands
      have worded : error.toDiagnostic = .ok ⟨error.code, error.message, span, none,
          error.expected, error.found, some error.state.pos⟩ := by
        simp only [ParseError.toDiagnostic, spans, bind, Except.bind, pure, Except.pure]
      exact ⟨fun _ => ⟨_, tells_of_made worded rfl rfl⟩, nofun⟩

end Outcome

namespace ParseError

variable {error : ParseError}

/-- The diagnostic of an error whose place can be named can be written. -/
theorem placeIsWritable_of_toDiagnostic {diagnostic : Diagnostic}
    (made : error.toDiagnostic = .ok diagnostic) (written : error.state.placeIsWritable) :
    diagnostic.placeIsWritable error.state.writes := by
  cases spanned : error.state.span none with
  | error fault =>
      simp only [toDiagnostic, spanned, bind, Except.bind] at made
      cases made
  | ok span =>
      simp only [toDiagnostic, spanned, bind, Except.bind, pure, Except.pure] at made
      cases made
      exact Outcome.placeIsWritable_of_span spanned rfl written

/-- An error can be put on one line if its place can be named. -/
theorem exists_formatError_iff :
    (∃ line, error.formatError = .ok line) ↔ error.state.placeIsWritable := by
  cases written : error.state.placeIsWritable with
  | true => simp [formatError, written, bind, Except.bind, pure, Except.pure]
  | false => simp [formatError, written, bind, Except.bind]

/-- An excerpt can be shown if the place can be named, unless the tokens are a text, the line of the
error is among those that are shown, and the blanks in front of the caret are too many to be
counted. -/
theorem exists_formatWithContext_iff (contextLines : Int) :
    (∃ shown, error.formatWithContext contextLines = .ok shown) ↔
      error.state.placeIsWritable ∧
        ∀ points location, error.state.tokens = .text points →
          error.state.location = some location →
          caretOverflows location contextLines points.toList = false := by
  cases written : error.state.placeIsWritable with
  | false => simp [formatWithContext, formatError, written, bind, Except.bind]
  | true =>
      have summary : error.formatError = .ok error.format := by
        simp [formatError, written, bind, Except.bind, pure, Except.pure]
      simp only [formatWithContext, summary, bind, Except.bind, true_and]
      cases tokens : error.state.tokens with
      | items values => exact iff_of_true ⟨_, rfl⟩ nofun
      | text points =>
          cases located : error.state.location with
          | none => exact iff_of_true ⟨_, rfl⟩ nofun
          | some location =>
              cases overflows : caretOverflows location contextLines points.toList with
              | false =>
                  refine iff_of_true ⟨_, by simp only [overflows]; rfl⟩ ?_
                  rintro _ _ ⟨⟩ ⟨⟩
                  exact overflows
              | true =>
                  refine iff_of_false ?_ fun counted => ?_
                  · rintro ⟨shown, formatted⟩
                    simp only [overflows, if_true] at formatted
                    cases formatted
                  · cases overflows.symm.trans (counted points location rfl rfl)

end ParseError

/-! ## Runs of rules -/

/-- The place and the tokens of the state may be written. -/
structure State.Sayable (state : State) : Prop where
  place : state.writes state.pos
  tokens : state.tokens.areWritable state.maxDigits

/-- The fault that is met on the way from a state whose numbers have too many digits. -/
structure State.Unsaid (start : State) (fault : Fault) : Prop where
  isLong : fault = .longNumeral
  unsayable : ¬ start.Sayable

namespace Outcome

/-- What a caller of a run from a state can do with its outcome. -/
structure Reported (start : State) (outcome : Outcome) : Prop where
  stands : (∃ value, outcome = .success value ∧ outcome.unwrap .input = .ok value) ∨
    ∃ place, outcome.state? = some place ∧ outcome.Told place ∧
      (start.Sayable → outcome.previewIsWritable)
  escalated (error : ParseError) (escalates : outcome = .escalated error) :
    (∃ rejection, outcome.unwrap .input = .error (.rejected rejection)) ∧
      (∃ line, error.formatError = .ok line) ∧
      ∀ contextLines, (∃ shown, error.formatWithContext contextLines = .ok shown) ↔
        ∀ points location, error.state.tokens = .text points →
          error.state.location = some location →
          ParseError.caretOverflows location contextLines points.toList = false

variable {start place : State} {outcome : Outcome}

/-- Where the tokens may be written, those that are left can be shown. -/
theorem previewIsWritable_of_sayable (stands : outcome.state? = some place)
    (reaches : start.Reaches place) (sayable : start.Sayable) : outcome.previewIsWritable := by
  have written : place.tokens.areWritable place.maxDigits := by
    rw [reaches.tokens, reaches.maxDigits]
    exact sayable.tokens
  have shown : place.previewIsWritable State.previewLimit :=
    Bool.or_eq_true_iff.mpr (.inr (Tokens.areWritable_slice written _ _))
  cases outcome with
  | success value => rfl
  | invalid state =>
      cases stands
      exact shown
  | leftover value state =>
      cases stands
      exact shown
  | escalated error => rfl

/-- An outcome that stands at a state that is reached is reported, if an escalated error can be put
on one line. -/
theorem reported (stands : outcome.state? = some place) (nonneg : 0 ≤ start.pos)
    (reaches : start.Reaches place)
    (written : ∀ error, outcome = .escalated error → error.state.placeIsWritable) :
    outcome.Reported start where
  stands := .inr ⟨place, stands, told stands (Int.le_trans nonneg reaches.forward),
    previewIsWritable_of_sayable stands reaches⟩
  escalated := by
    rintro error rfl
    cases stands
    have named := written error rfl
    have isTold : (Outcome.escalated error).Told error.state :=
      told rfl (Int.le_trans nonneg reaches.forward)
    obtain ⟨diagnostic, tells⟩ := isTold.shown rfl
    have made : error.toDiagnostic = .ok diagnostic := by
      have mapped : error.toDiagnostic.map some = .ok (some diagnostic) := tells.made
      cases result : error.toDiagnostic with
      | ok other =>
          rw [result] at mapped
          cases mapped
          rfl
      | error fault =>
          rw [result] at mapped
          cases mapped
    obtain ⟨rejection, rejected, -⟩ :=
      tells.rejected (ParseError.placeIsWritable_of_toDiagnostic made named)
    exact ⟨⟨rejection, rejected⟩, ParseError.exists_formatError_iff.mpr named, fun contextLines =>
      (ParseError.exists_formatWithContext_iff contextLines).trans (and_iff_right named)⟩

end Outcome

/-- A run that has come to an end without a faulted call has an outcome that can be reported, unless
it meets a number that cannot be written. -/
theorem Run.Proceeds.classify {state : State} {run : Run Value}
    (proceeds : run.Proceeds state.Unsaid state) (nonneg : 0 ≤ state.pos)
    (finished : run.reply ≠ .exhausted) (returned : ¬ run.Blames) :
    (∃ outcome, Outcome.classify state run.reply = .ok outcome ∧ outcome.Reported state) ∨
      Outcome.classify state run.reply = .error (.fault .longNumeral) ∧
        (¬ state.Sayable ∨
          ∃ error, run.reply = .failed error ∧ error.state.placeIsWritable = false) := by
  cases proceeds with
  | matched product next reply reaches =>
      left
      rw [reply, Outcome.classify]
      refine ⟨_, rfl, ?_⟩
      split
      · exact ⟨.inl ⟨product, rfl, rfl⟩, by rintro _ ⟨⟩⟩
      · exact Outcome.reported rfl nonneg reaches (by rintro _ ⟨⟩)
  | declined reply =>
      left
      rw [reply]
      exact ⟨_, rfl, Outcome.reported rfl nonneg (.refl state) (by rintro _ ⟨⟩)⟩
  | failed error reply reaches =>
      cases named : error.state.placeIsWritable with
      | true =>
          left
          rw [reply, Outcome.classify, if_pos named]
          refine ⟨_, rfl, Outcome.reported rfl nonneg reaches ?_⟩
          rintro _ ⟨⟩
          exact named
      | false =>
          right
          rw [reply, Outcome.classify, if_neg (Bool.eq_false_iff.mp named)]
          exact ⟨rfl, .inr ⟨error, rfl, named⟩⟩
  | raised fault reply blames =>
      right
      obtain ⟨rfl, unsayable⟩ := blames.resolve_left returned
      rw [reply]
      exact ⟨rfl, .inl unsayable⟩
  | exhausted reply => exact absurd reply finished

variable {ν : Type}

namespace Grammar

variable {grammar : Grammar ν} {root : Rule ν}

end Grammar

end Descent
