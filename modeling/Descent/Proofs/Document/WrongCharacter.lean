import Descent.Proofs.Document.Excerpt
import Descent.Proofs.Document.Prospect.Value

/-!
# Errors in front of a wrong character

Where an expectation is not met, the text in front of the error cannot go on with what is ahead: no
text that the loader accepts begins with it, with what an attempt to go on may pass, and with the
character behind that. The error stands in front of what the attempt has passed. This is white
space in front of a structural character, the minus of a number without digits, or the letters of a
word that is not completed; nothing else is ever passed.

What is passed is as long as it can be: up to its end the text can still be completed. So the
character behind it is the first one that is wrong, and where the text ends there, nothing is wrong
but that more is missing.
-/

namespace Descent.Document

/-! ## The last place with a completion -/

/-- What may be passed may be passed in part. -/
theorem Skippable.of_prefix {front points : Text} (skips : Skippable points)
    (begins : front <+: points) : Skippable front := by
  rcases skips with areBlank | rfl | ⟨keyword, spells⟩
  · exact .inl fun point held => areBlank point (begins.subset held)
  · rcases List.prefix_cons_iff.mp begins with rfl | ⟨others, rfl, rest⟩
    · exact skippable_nil
    · rw [List.prefix_nil.mp rest]
      exact .inr (.inl rfl)
  · exact .inr (.inr ⟨keyword, begins.trans spells⟩)

/-- A text moved on over a stretch keeps what it has as far as possible: up to some place inside the
stretch or behind it, where the next character takes it away. -/
theorem exists_last_place (viable : Text → Prop) {before : Text} (holds : viable before)
    (stretch : Text) :
    ∃ front back, stretch = front ++ back ∧ viable (before ++ front) ∧
      ∀ wrong, back.head? = some wrong → ¬ viable (before ++ (front ++ [wrong])) := by
  induction stretch generalizing before with
  | nil => exact ⟨[], [], rfl, by rwa [List.append_nil], nofun⟩
  | cons point points inductionHypothesis =>
      by_cases further : viable (before ++ [point])
      · obtain ⟨front, back, rfl, kept, lost⟩ := inductionHypothesis further
        rw [List.append_assoc] at kept
        refine ⟨point :: front, back, rfl, kept, fun wrong head => ?_⟩
        have refused := lost wrong head
        rwa [List.append_assoc] at refused
      · refine ⟨[], point :: points, rfl, by rwa [List.append_nil], fun wrong head => ?_⟩
        cases head
        exact further

namespace Loader

/-! ## What the reply says -/

/-- The reply to a source. -/
theorem reads_prospect (loader : Loader) (source : Text) :
    (Cursor.start source).Reads
      (fun _ _ next => next.Awaits [.blanks] ∧ skipBlanks next.rest = next.rest) True Misses
      (loader.reply source) :=
  reads_document_awaits (proceeds_unfolded loader.limits _ (by omega)) source (Nat.lt_succ_self _)

/-- A document can be followed. -/
theorem follow_of_documentText {limits : Limits} {source : Text}
    (isDocument : DocumentText limits source) : (follow atStart source).isSome := by
  obtain ⟨form, fits, rfl⟩ := isDocument
  have takes : (Cursor.start form.text).Reads _ _ _ (reply ⟨0, limits⟩ form.text) :=
    takes_reply fits
  have reads := (takes.and (reads_prospect _ form.text)).weakenDecline And.left
  obtain ⟨consumed, _, next, passes, ⟨⟨-, ended⟩, ⟨opened, follows, -⟩, -⟩, -⟩ :=
    reads.exists_matched
  have whole : form.text = consumed ++ next.rest := passes.rest
  have before : next.before = [] ++ consumed := passes.before
  rw [ended, List.append_nil] at whole
  rw [before, List.nil_append, ← whole] at follows
  rw [follows]
  rfl

/-- Where an expectation is not met, the character behind what may be passed cannot be followed. -/
theorem stuck_of_error {loader : Loader} {source : Text} {error : ParseError}
    (stopped : (loader.parse source).error? = some error)
    (code : error.code = .expectationFailed) :
    ∃ before ahead : Text, source = before ++ ahead ∧ error.state.pos = before.length ∧
      Stuck before ahead := by
  have reads := loader.reads_prospect source
  rw [reply_of_error (refusesSize_of_error stopped) stopped] at reads
  cases reads with
  | @failed consumed _ next passes place misses =>
      have before : next.before = [] ++ consumed := passes.before
      have stuck := misses code
      rw [before, List.nil_append] at stuck
      refine ⟨consumed, next.rest, passes.rest, ?_, stuck⟩
      rw [place]
      exact congrArg (fun points : Text => (points.length : Int)) before

/-- No document goes on from what cannot be followed. -/
theorem not_documentText_of_follow {limits : Limits} {front : Text}
    (fails : follow atStart front = none) (more : Text) :
    ¬ DocumentText limits (front ++ more) := by
  intro isDocument
  have follows := follow_of_documentText isDocument
  rw [follow_append, fails] at follows
  cases follows

/-! ## The wrong character -/

/-- Where an expectation is not met, the text in front of the error can go on only over what may be
passed: white space, a minus or letters that begin a word, or nothing of that kind. Up to its end
the source can be completed to a text that is accepted, the limit on the size apart. Behind it there
is the end of the source or a character that is wrong: no text that begins with the source up to
this character is accepted. -/
theorem expectation_wrong (loader : Loader) (source : Text) (error : ParseError)
    (stopped : (loader.parse source).error? = some error)
    (code : error.code = .expectationFailed) :
    ∃ before skipped behind : Text, source = before ++ (skipped ++ behind) ∧
      error.state.pos = before.length ∧ Skippable skipped ∧
      (∃ missing node,
        (parse ⟨0, loader.limits⟩ (before ++ (skipped ++ missing))).result = .ok node) ∧
      ∀ wrong, behind.head? = some wrong → ∀ more node,
        (loader.parse (before ++ (skipped ++ wrong :: more))).result ≠ .ok node := by
  obtain ⟨before, ahead, rfl, position, stretch, behind, rfl, skips, fails⟩ :=
    stuck_of_error stopped code
  obtain ⟨consumed, rest, missing, whole, place, completed⟩ :=
    exists_completion (reply_of_error (refusesSize_of_error stopped) stopped) code
  obtain ⟨rfl, -⟩ : before = consumed ∧ stretch ++ behind = rest :=
    List.append_inj whole (by omega)
  -- The stretch is cut where the first wrong character stands in it, if one does.
  obtain ⟨front, back, rfl, ⟨missing, isDocument⟩, lost⟩ :=
    exists_last_place (fun points => ∃ missing, DocumentText loader.limits (points ++ missing))
      ⟨missing, completed⟩ stretch
  rw [List.append_assoc] at isDocument
  refine ⟨before, front, back ++ behind, by rw [List.append_assoc], position,
    skips.of_prefix (List.prefix_append _ _), ⟨missing, exists_node_of_documentText isDocument⟩, ?_⟩
  intro wrong head more node accepted
  have isDocument := documentText_of_ok accepted
  have split : before ++ (front ++ wrong :: more) = before ++ (front ++ [wrong]) ++ more := by simp
  cases back with
  | nil =>
      rw [List.append_nil] at fails
      rw [split] at isDocument
      exact not_documentText_of_follow (fails wrong head) more isDocument
  | cons point points =>
      obtain rfl : point = wrong := Option.some.inj head
      exact lost point rfl ⟨more, split ▸ isDocument⟩

end Loader

/-- White space may follow a member. -/
theorem exists_node_blank :
    ∃ node, (Loader.parse ⟨0, ⟨1, 0⟩⟩ (text "[1 ]")).result = .ok node := by
  have accepted : (Loader.parse ⟨0, ⟨1, 0⟩⟩ (text "[1 ]")).result.isOk := by
    decide +kernel
  cases result : (Loader.parse ⟨0, ⟨1, 0⟩⟩ (text "[1 ]")).result with
  | ok node => exact ⟨node, rfl⟩
  | error stop =>
      rw [result] at accepted
      cases accepted

/-- An error in front of white space: what is wrong is the character behind it. -/
theorem expectation_wrong_blank :
    ∃ error, (Loader.parse ⟨0, ⟨1, 0⟩⟩ (text "[1 x]")).error? = some error ∧
      error.code = .expectationFailed ∧ error.state.pos = 2 ∧
      ∀ more node, (Loader.parse ⟨0, ⟨1, 0⟩⟩ (text "[1 x" ++ more)).result ≠ .ok node := by
  have reported : (Loader.parse ⟨0, ⟨1, 0⟩⟩ (text "[1 x]")).error?.map
      (fun error => (error.code, error.state.pos)) = some (.expectationFailed, 2) := by
    decide +kernel
  obtain ⟨error, stopped, place⟩ := Option.map_eq_some_iff.mp reported
  obtain ⟨code, position⟩ := Prod.mk.inj place
  refine ⟨error, stopped, code, position, ?_⟩
  obtain ⟨before, skipped, behind, whole, width, skips, -, wrong⟩ :=
    Loader.expectation_wrong _ _ error stopped code
  have counted : (text "[1").length = 2 := by decide
  obtain ⟨rfl, ahead⟩ : text "[1" = before ∧
      CodePoint.ofChar ' ' :: CodePoint.ofChar 'x' :: text "]" = skipped ++ behind :=
    List.append_inj whole (by omega)
  rcases List.cons_eq_append_iff.mp ahead with ⟨rfl, rfl⟩ | ⟨others, rfl, further⟩
  · -- The white space itself is not wrong.
    obtain ⟨node, accepted⟩ := exists_node_blank
    exact absurd accepted (wrong _ rfl (text "]") node)
  rcases List.cons_eq_append_iff.mp further with ⟨rfl, rfl⟩ | ⟨others, rfl, -⟩
  · exact wrong _ rfl
  · -- And nothing that may be passed goes on with what is behind it.
    rcases skips with areBlank | minus | ⟨keyword, begins⟩
    · exact absurd (areBlank (CodePoint.ofChar 'x') (by simp)) (by decide)
    · cases minus
    · cases keyword <;> exact absurd (List.cons_prefix_cons.mp begins).1 (by decide)

/-- The character that an error stands in front of is not always wrong: where white space is found,
an array that is accepted begins with the source up to it. -/
theorem not_expectation_wrong_found :
    ∃ error node, (Loader.parse ⟨0, ⟨1, 0⟩⟩ (text "[1 x]")).error? = some error ∧
      error.code = .expectationFailed ∧ error.state.pos = 2 ∧ error.found = some (text " ") ∧
      (Loader.parse ⟨0, ⟨1, 0⟩⟩ (text "[1" ++ text " " ++ text "]")).result = .ok node := by
  have reported : (Loader.parse ⟨0, ⟨1, 0⟩⟩ (text "[1 x]")).error?.map
      (fun error => (error.code, error.state.pos, error.found)) =
        some (.expectationFailed, 2, some (text " ")) := by
    decide +kernel
  obtain ⟨error, stopped, place⟩ := Option.map_eq_some_iff.mp reported
  obtain ⟨code, place⟩ := Prod.mk.inj place
  obtain ⟨position, found⟩ := Prod.mk.inj place
  obtain ⟨node, accepted⟩ := exists_node_blank
  exact ⟨error, node, stopped, code, position, found, accepted⟩

end Descent.Document
