import Descent.Proofs.Document.Acceptance

/-!
# Errors at the end of a viable prefix

A rejection that carries a parse error comes from a failure of the document rule. Where the failure
is an expectation that was not met, the text in front of the error is the beginning of a document
within the limits, and completeness says that the loader accepts that document. An expectation is
therefore never reported behind the first place at which the source could no longer be completed.

Nothing is said here about rejections without a parse error: input that is left over is reported
behind a complete document.
-/

namespace Descent

/-! ## Where the error of a rejection comes from -/

namespace Outcome

/-- Classifying a reply rejects nothing. -/
theorem classify_ne_rejected (initial : State) (reply : Reply Value) (rejection : Rejection) :
    classify initial reply ≠ .error (.rejected rejection) := by
  cases reply with
  | failed error => cases named : error.state.placeIsWritable <;> simp [classify, named]
  | _ => simp [classify]

/-- A rejection carries the error that it was made with. -/
theorem error_of_reject {kind : RejectionKind} {error : Option ParseError} {state : State}
    {diagnostic : Except Fault Diagnostic} {rejection : Rejection}
    (rejected : reject kind error state diagnostic = .rejected rejection) :
    rejection.error = error := by
  cases diagnostic with
  | error fault => cases rejected
  | ok diagnostic =>
      simp only [reject] at rejected
      split at rejected <;> cases rejected
      rfl

/-- Only an escalated outcome is rejected with an error, and with its own. -/
theorem eq_escalated_of_unwrap {kind : RejectionKind} {outcome : Outcome} {rejection : Rejection}
    {error : ParseError} (rejected : outcome.unwrap kind = .error (.rejected rejection))
    (carried : rejection.error = some error) : outcome = escalated error := by
  cases outcome with
  | success product => cases rejected
  | invalid state =>
      have without := error_of_reject (Except.error.inj rejected)
      rw [without] at carried
      cases carried
  | leftover product state =>
      have without := error_of_reject (Except.error.inj rejected)
      rw [without] at carried
      cases carried
  | escalated failure =>
      have same := error_of_reject (Except.error.inj rejected)
      rw [same] at carried
      cases carried
      rfl

end Outcome

namespace Document

/-- The parse error behind a rejection, if the document was rejected with one. -/
def Loaded.error? (loaded : Loaded) : Option ParseError :=
  match loaded.result with
  | .error (.rejected rejection) => rejection.error
  | _ => none

/-- Only a rejection has a parse error behind it. -/
theorem Loaded.exists_rejection {loaded : Loaded} {error : ParseError}
    (stopped : loaded.error? = some error) :
    ∃ rejection, loaded.result = .error (.rejected rejection) ∧ rejection.error = some error := by
  unfold error? at stopped
  split at stopped
  · next rejection result => exact ⟨rejection, result, stopped⟩
  · cases stopped

namespace Loader

/-- What rejects an outcome is the unwrapping of it; reading a node only raises faults. -/
theorem unwrap_of_nodeOf {outcome : Outcome} {rejection : Rejection}
    (rejected : nodeOf outcome = .error (.rejected rejection)) :
    outcome.unwrap .document = .error (.rejected rejection) := by
  unfold nodeOf at rejected
  cases unwrapped : outcome.unwrap .document with
  | error stop =>
      rw [unwrapped] at rejected
      cases rejected
      rfl
  | ok product =>
      rw [unwrapped] at rejected
      simp only [bind, Except.bind] at rejected
      split at rejected <;> cases rejected

/-- A parse error behind a rejection is the one that the document rule failed with. -/
theorem reply_of_error {loader : Loader} {source : Text} {error : ParseError}
    (sized : loader.refusesSize source = false)
    (stopped : (loader.parse source).error? = some error) :
    loader.reply source = .failed error := by
  obtain ⟨rejection, rejected, carried⟩ := Loaded.exists_rejection stopped
  rw [parse_result sized] at rejected
  cases classified : Outcome.classify (initialState source) (loader.reply source) with
  | ok outcome =>
      rw [classified] at rejected
      have escalated := Outcome.eq_escalated_of_unwrap (unwrap_of_nodeOf rejected) carried
      exact Outcome.reply_of_classify (escalated ▸ classified)
  | error stop =>
      rw [classified] at rejected
      cases stop with
      | fault fault => cases rejected
      | rejected other => exact absurd classified (Outcome.classify_ne_rejected _ _ _)
      | exhausted =>
          -- A budget that is spent is a nesting error without a parse error behind it.
          simp only [rejectWhole] at rejected
          split at rejected <;> cases rejected
          cases carried

/-- A loader without a limit on the size takes every source. -/
theorem refusesSize_eq_false {loader : Loader} (unlimited : loader.maxSourceSize = 0)
    (source : Text) : loader.refusesSize source = false := by
  simp [refusesSize, unlimited]

/-- A document within the limits is accepted, if only its size is not limited. -/
theorem exists_node_of_documentText {limits : Limits} {source : Text}
    (isDocument : DocumentText limits source) :
    ∃ node, (parse ⟨0, limits⟩ source).result = .ok node := by
  obtain ⟨form, fits, rfl⟩ := isDocument
  exact ⟨form.phrase.node, parse_form (refusesSize_eq_false rfl form.text) fits⟩

/-! ## What stands in front of the error -/

/-- An expectation that the document rule does not meet stands behind a part of the source that a
further text completes to a document within the limits. -/
theorem exists_completion {loader : Loader} {source : Text} {error : ParseError}
    (replied : loader.reply source = .failed error) (code : error.code = .expectationFailed) :
    ∃ consumed rest missing, source = consumed ++ rest ∧ error.state.pos = consumed.length ∧
      DocumentText loader.limits (consumed ++ missing) := by
  have reads := loader.reads_reply source
  rw [replied] at reads
  cases reads with
  | @failed consumed _ next passes place stops =>
      have position : error.state.pos = consumed.length := by
        rw [place]
        exact congrArg (fun points => (points.length : Int)) passes.before
      cases stops with
      | expectation _ viable =>
          obtain ⟨missing, completed⟩ := viable
          exact ⟨consumed, next.rest, missing, passes.rest, position, completed⟩
      | nesting other _ =>
          rw [code] at other
          cases other
      | digits other =>
          rw [code] at other
          cases other

/-- An expectation that was not met is reported inside the source or at its end, and what stands in
front of the place can be completed to a text that the same loader accepts. -/
theorem expectation_viable (loader : Loader) (source : Text) (error : ParseError)
    (unlimited : loader.maxSourceSize = 0)
    (stopped : (loader.parse source).error? = some error)
    (code : error.code = .expectationFailed) :
    0 ≤ error.state.pos ∧ error.state.pos ≤ source.length ∧
      ∃ missing node,
        (loader.parse (source.take error.state.pos.toNat ++ missing)).result = .ok node := by
  have sized := refusesSize_eq_false unlimited
  obtain ⟨consumed, rest, missing, rfl, position, form, fits, completed⟩ :=
    exists_completion (reply_of_error (sized source) stopped) code
  have taken : (consumed ++ rest).take error.state.pos.toNat = consumed := by
    rw [position, Int.toNat_natCast, List.take_left]
  refine ⟨by omega, by rw [position, List.length_append]; omega, missing, form.phrase.node, ?_⟩
  rw [taken, completed]
  exact parse_form (sized form.text) fits

end Loader

/-- A string that is not closed, in an array as deep as the limit allows. -/
theorem expectation_viable_string :
    ∃ error, (Loader.parse ⟨0, ⟨1, 0⟩⟩ (text "[1,\"a")).error? = some error ∧
      error.code = .expectationFailed ∧ error.state.pos = 5 ∧
      ∃ missing node,
        (Loader.parse ⟨0, ⟨1, 0⟩⟩ (text "[1,\"a" ++ missing)).result = .ok node := by
  have reported : (Loader.parse ⟨0, ⟨1, 0⟩⟩ (text "[1,\"a")).error?.map
      (fun error => (error.code, error.state.pos)) = some (.expectationFailed, 5) := by
    decide +kernel
  obtain ⟨error, stopped, place⟩ := Option.map_eq_some_iff.mp reported
  obtain ⟨code, position⟩ := Prod.mk.inj place
  have viable := (Loader.expectation_viable ⟨0, ⟨1, 0⟩⟩ _ error rfl stopped code).2.2
  rw [position] at viable
  exact ⟨error, stopped, code, position, viable⟩

end Document

end Descent
