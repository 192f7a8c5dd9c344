import Descent.Proofs.Document.Excerpt
import Descent.Proofs.Document.NestingLimit
import Descent.Proofs.Document.ReadBack
import Descent.Proofs.Relocation

/-!
# The line form of a report

The line form of a diagnostic is its code and its message, and no message has a line break of its
own. But most messages show the input that was found, and they show it as it is: input that is
invalid or left over is shown from there on for twenty characters, and a character in whose place
something else was expected is shown alone. So the line form of a report is a single line exactly if
this stretch of the source has no line break.
-/

namespace Descent

open Document

/-! ## Messages -/

@[simp] theorem Text.lineFeed_notMem_ofNat (number : Nat) :
    CodePoint.lineFeed ∉ Text.ofNat number := by
  intro member
  cases isDigit_of_mem_ofNat member

@[simp] theorem Text.lineFeed_notMem_ofInt (value : Int) :
    CodePoint.lineFeed ∉ Text.ofInt value := by
  cases value with
  | ofNat number => exact lineFeed_notMem_ofNat number
  | negSucc number => simp [ofInt]

namespace Diagnostic

/-- The message has no line break but those of the input that it shows. -/
def BreaksAsFound (diagnostic : Diagnostic) : Prop :=
  CodePoint.lineFeed ∈ diagnostic.message ↔ CodePoint.lineFeed ∈ diagnostic.found.getD []

@[simp] theorem lineFeed_mem_quoteFound (found : Option Text) :
    CodePoint.lineFeed ∈ quoteFound found ↔ CodePoint.lineFeed ∈ found.getD [] := by
  cases found <;> simp [quoteFound, endOfInputLabel]

variable (found : Option Text) (span : Option Span) (position : Option Int)

/-- Input that is invalid is shown from there on … -/
theorem breaksAsFound_invalidInput : (invalidInput found span position).BreaksAsFound := by
  simp [BreaksAsFound, invalidInput]

/-- … and so is input that is left over. -/
theorem breaksAsFound_leftoverInput : (leftoverInput found span position).BreaksAsFound := by
  simp [BreaksAsFound, leftoverInput]

/-- Where something is expected, what stands there is shown. -/
theorem breaksAsFound_expectationFailed {expectation : Text}
    (single : CodePoint.lineFeed ∉ expectation) :
    (expectationFailed expectation found span position).BreaksAsFound := by
  simp [BreaksAsFound, expectationFailed, single]

/-- A place is shown as a number … -/
theorem breaksAsFound_noProgress : (noProgress span position).BreaksAsFound := by
  cases position <;> simp [BreaksAsFound, noProgress]

/-- … and so is the limit for the nesting … -/
theorem breaksAsFound_nestingDepthExceeded (maxDepth : Int) :
    (nestingDepthExceeded maxDepth span position).BreaksAsFound := by
  simp [BreaksAsFound, nestingDepthExceeded]

/-- … or for the size … -/
theorem breaksAsFound_sourceTooLarge (size maxSize : Int) :
    (sourceTooLarge size maxSize).BreaksAsFound := by
  simp [BreaksAsFound, sourceTooLarge]

/-- … or for the digits. -/
theorem breaksAsFound_numberTooLarge (digits maxDigits : Int) :
    (numberTooLarge digits maxDigits span position).BreaksAsFound := by
  simp [BreaksAsFound, numberTooLarge]

end Diagnostic

/-- In the line form there is nothing besides the message that might have a line break. -/
theorem DiagnosticStyle.lineFeed_mem_format_line (diagnostic : Diagnostic) :
    CodePoint.lineFeed ∈ ({ layout := .line } : DiagnosticStyle).format diagnostic ↔
      CodePoint.lineFeed ∈ diagnostic.message := by
  have form : ({ layout := .line } : DiagnosticStyle).format diagnostic =
      diagnostic.code.name ++ text ": " ++ diagnostic.message := rfl
  have name : CodePoint.lineFeed ∉ diagnostic.code.name := by
    cases diagnostic.code <;> simp [DiagnosticCode.name]
  simp [form, name]

/-! ## What is shown of a source -/

/-- How many characters of the source a message shows. -/
def DiagnosticCode.shown : DiagnosticCode → Nat
  | invalidInput | leftoverInput => State.previewLimit.toNat
  | expectationFailed => 1
  | _ => 0

namespace Diagnostic

/-- The stretch of a source that the message shows. -/
def stretch (diagnostic : Diagnostic) (source : Text) : Text :=
  (source.drop (diagnostic.position.getD 0).toNat).take diagnostic.code.shown

/-- What the diagnostic has found is a stretch of the source, and the message has no other line
breaks. -/
structure Quotes (diagnostic : Diagnostic) (source : Text) : Prop where
  found : diagnostic.found.getD [] = diagnostic.stretch source
  breaksAsFound : diagnostic.BreaksAsFound

variable {diagnostic : Diagnostic} {source : Text}

/-- A diagnostic that shows nothing. -/
theorem quotes_nothing (nothing : diagnostic.code.shown = 0) (found : diagnostic.found = none)
    (breaksAsFound : diagnostic.BreaksAsFound) : diagnostic.Quotes source := by
  refine ⟨?_, breaksAsFound⟩
  rw [found, stretch, nothing]
  rfl

/-- An error that a diagnostic words is told by a diagnostic that shows the same. -/
theorem Quotes.of_error {state : State} {told : Diagnostic} (quotes : diagnostic.Quotes source)
    (placed : diagnostic.position = some state.pos)
    (made : (ParseError.ofDiagnostic diagnostic state).toDiagnostic = .ok told) :
    told.Quotes source := by
  obtain ⟨span, -, rfl⟩ := State.exists_span_of_made made
  refine ⟨?_, quotes.breaksAsFound⟩
  have found := quotes.found
  rw [stretch, placed] at found
  exact found

end Diagnostic

namespace Document

variable {source consumed : Text} {cursor : Cursor} {diagnostic : Diagnostic}

namespace Cursor

/-- A preview shows what lies ahead. -/
theorem getD_preview (cursor : Cursor) :
    (cursor.state.preview State.previewLimit).getD [] =
      cursor.rest.take State.previewLimit.toNat := by
  have first : clampIndex (cursor.before ++ cursor.rest).length cursor.before.length =
      cursor.before.length := Tokens.clampIndex_natCast (by simp)
  have last : clampIndex (cursor.before ++ cursor.rest).length
      (cursor.before.length + State.previewLimit) =
        cursor.before.length + min State.previewLimit.toNat cursor.rest.length := by
    rw [clampIndex, State.previewLimit, if_neg (by omega), List.length_append]
    omega
  unfold State.preview
  split
  · next atEnd =>
      rw [cursor.atEnd_iff.mp atEnd]
      rfl
  · simp only [state, State.between, State.ahead, Tokens.ofText, Tokens.slice, Tokens.display,
      List.size_toArray, first, last, Option.getD_some, Array.toList_extract,
      List.extract_eq_take_drop, List.drop_left, Nat.add_sub_cancel_left]
    exact List.take_eq_take_min.symm

/-- The next token is shown as it is. -/
theorem getD_foundToken (cursor : Cursor) :
    cursor.state.foundToken.getD [] = cursor.rest.take 1 := by
  have within : cursor.before.length ≤ (Tokens.ofText (cursor.before ++ cursor.rest)).size := by
    simp [Tokens.ofText, Tokens.size]
  have next : (cursor.state.tokens.dropTo cursor.state.pos).get? 0 =
      cursor.rest.head?.map Value.ofCodePoint := by
    rw [state, State.between, Tokens.get?_dropTo within]
    simp [Tokens.ofText, Tokens.get?, List.head?_eq_getElem?, List.getElem?_append_right]
  rw [State.foundToken, State.next?, next]
  cases cursor.rest <;> rfl

end Cursor

section Reports

variable (passes : (Cursor.start source).Passes consumed cursor)

include passes

/-- A diagnostic that shows what lies ahead of a cursor in the source. -/
theorem quotes_ahead (placed : diagnostic.position = some cursor.state.pos)
    (found : diagnostic.found.getD [] = cursor.rest.take diagnostic.code.shown)
    (breaksAsFound : diagnostic.BreaksAsFound) : diagnostic.Quotes source := by
  have whole : source = consumed ++ cursor.rest := passes.rest
  have place : cursor.state.pos = (consumed.length : Int) :=
    congrArg (fun points => (List.length points : Int)) passes.before
  refine ⟨?_, breaksAsFound⟩
  rw [found, Diagnostic.stretch, placed, Option.getD_some, place, Int.toNat_natCast, whole,
    List.drop_left]

/-- The document rule declined. -/
theorem quotes_invalid (made : Outcome.invalidDiagnostic cursor.state = .ok diagnostic) :
    diagnostic.Quotes source := by
  obtain ⟨span, -, rfl⟩ := State.exists_span_of_made (of_requireWritable made)
  exact quotes_ahead passes rfl cursor.getD_preview (Diagnostic.breaksAsFound_invalidInput _ _ _)

/-- The document rule left something over. -/
theorem quotes_leftover (made : Outcome.leftoverDiagnostic cursor.state = .ok diagnostic) :
    diagnostic.Quotes source := by
  obtain ⟨span, -, rfl⟩ := State.exists_span_of_made (of_requireWritable made)
  exact quotes_ahead passes rfl cursor.getD_preview (Diagnostic.breaksAsFound_leftoverInput _ _ _)

/-- The document rule failed. -/
theorem quotes_escalated {limits : Limits} {error : ParseError}
    (words : limits.Words error) (place : error.state = cursor.state)
    (made : error.toDiagnostic = .ok diagnostic) : diagnostic.Quotes source := by
  cases words with
  | @expecting expectation state single worded =>
      obtain ⟨span, rfl⟩ := ErrorAt.expecting_eq_ok worded
      obtain rfl : state = cursor.state := place
      have breaks := Diagnostic.breaksAsFound_expectationFailed cursor.state.foundToken span
        (some cursor.state.pos) single
      exact (quotes_ahead passes rfl cursor.getD_foundToken breaks).of_error rfl made
  | @tooDeep state worded =>
      obtain ⟨-, span, -, rfl⟩ := ErrorAt.wording_eq_ok_iff.mp worded
      have breaks := Diagnostic.breaksAsFound_nestingDepthExceeded span (some state.pos)
        limits.maxDepth
      exact (Diagnostic.quotes_nothing rfl rfl breaks).of_error rfl made
  | @tooManyDigits digits maxDigits start state worded =>
      obtain ⟨span, -, rfl⟩ := State.exists_span_of_made worded
      have breaks := Diagnostic.breaksAsFound_numberTooLarge span (some start.pos) digits maxDigits
      exact (Diagnostic.quotes_nothing rfl rfl breaks).of_error rfl made
  | @stall state worded =>
      obtain ⟨-, span, -, rfl⟩ := ErrorAt.wording_eq_ok_iff.mp worded
      have breaks := Diagnostic.breaksAsFound_noProgress span (some state.pos)
      exact (Diagnostic.quotes_nothing rfl rfl breaks).of_error rfl made

end Reports

namespace Loader

variable {loader : Loader}

/-- The error that a source fails with is in the words of the grammar. -/
theorem words_of_failed {error : ParseError} (failed : loader.reply source = .failed error) :
    loader.limits.Words error := by
  have tracked := loader.tracked_reply source
  rw [failed] at tracked
  cases tracked with
  | failed words _ _ => exact words

/-- What a report has found is a stretch of the source. -/
theorem quotes_of_reported (reported : (loader.parse source).diagnostic? = some diagnostic) :
    diagnostic.Quotes source := by
  cases refused : loader.refusesSize source with
  | true =>
      rw [parse, parseWithin, if_pos refused, rejectWhole] at reported
      split at reported <;> cases reported
      exact Diagnostic.quotes_nothing rfl rfl (Diagnostic.breaksAsFound_sourceTooLarge _ _)
  | false =>
      obtain ⟨rejection, rejected, carried⟩ := Loaded.exists_rejection_of_diagnostic reported
      have reads := loader.reads_reply source
      have judged := parse_result refused
      rw [rejected] at judged
      generalize replied : loader.reply source = reply at reads judged
      cases reads with
      | @matched _ product next passes =>
          rw [Outcome.classify] at judged
          have unwrapped := unwrap_of_nodeOf judged.symm
          split at unwrapped
          · cases unwrapped
          · exact quotes_leftover passes
              (Outcome.exists_diagnostic_of_reject (Except.error.inj unwrapped) carried)
      | declined =>
          have unwrapped := unwrap_of_nodeOf judged.symm
          exact quotes_invalid (.refl (Cursor.start source))
            (Outcome.exists_diagnostic_of_reject (Except.error.inj unwrapped) carried)
      | failed passes place =>
          rw [Outcome.classify, if_pos (placeIsWritable_of_failed replied)] at judged
          have unwrapped := unwrap_of_nodeOf judged.symm
          exact quotes_escalated passes (words_of_failed replied) place
            (Outcome.exists_diagnostic_of_reject (Except.error.inj unwrapped) carried)
      | raised => cases judged

/-- The line form of a report is a single line exactly if the stretch of the source that its message
shows has no line break. -/
theorem lineFeed_mem_format_iff (loader : Loader) (source : Text) (diagnostic : Diagnostic)
    (reported : (loader.parse source).diagnostic? = some diagnostic) :
    CodePoint.lineFeed ∈ ({ layout := .line } : DiagnosticStyle).format diagnostic ↔
      CodePoint.lineFeed ∈ diagnostic.stretch source := by
  have quotes := quotes_of_reported reported
  rw [DiagnosticStyle.lineFeed_mem_format_line, ← quotes.found]
  exact quotes.breaksAsFound

end Loader

/-- An error behind a line break: the message shows the character in whose place a value was
expected, and the report is a single line. -/
theorem lineFeed_mem_format_iff_item :
    ∃ diagnostic, (Loader.parse ⟨0, ⟨1, 0⟩⟩ (text "[1,\nx")).diagnostic? = some diagnostic ∧
      CodePoint.lineFeed ∉ ({ layout := .line } : DiagnosticStyle).format diagnostic := by
  have reported : (Loader.parse ⟨0, ⟨1, 0⟩⟩ (text "[1,\nx")).diagnostic?.map
      (fun diagnostic => (diagnostic.code, diagnostic.position)) =
        some (.expectationFailed, some 4) := by
    decide +kernel
  obtain ⟨diagnostic, found, described⟩ := Option.map_eq_some_iff.mp reported
  obtain ⟨code, position⟩ := Prod.mk.inj described
  have single := Loader.lineFeed_mem_format_iff ⟨0, ⟨1, 0⟩⟩ (text "[1,\nx") diagnostic found
  have stretch : diagnostic.stretch (text "[1,\nx") = text "x" := by
    rw [Diagnostic.stretch, code, position]
    decide
  rw [stretch] at single
  exact ⟨diagnostic, found, mt single.mp (by decide)⟩

/-- Input that is no document and goes on over a line break: the report goes on with it. -/
theorem not_single_line_invalid :
    ¬ ∀ (loader : Loader) (source : Text) (diagnostic : Diagnostic),
      (loader.parse source).diagnostic? = some diagnostic →
        CodePoint.lineFeed ∉ ({ layout := .line } : DiagnosticStyle).format diagnostic := by
  intro single
  have broken : (Loader.parse ⟨0, ⟨1, 0⟩⟩ (text "x\ny")).diagnostic?.map
      (fun diagnostic => ({ layout := .line } : DiagnosticStyle).format diagnostic) =
        some (text "INVALID_INPUT: invalid document \"x\ny\"") := by
    decide +kernel
  obtain ⟨diagnostic, reported, shown⟩ := Option.map_eq_some_iff.mp broken
  refine single _ _ diagnostic reported ?_
  rw [shown]
  decide

end Document

end Descent
