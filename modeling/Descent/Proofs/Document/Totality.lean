import Descent.Proofs.Document.Acceptance

/-!
# Loading gives a value or a rejection

Every source gets an answer from a loader whose limits can be named: the plain value of the
document, or a rejection that says what is wrong and where. The rules never meet a context, token or
product that they do not take, and a place in a document always has a line and a column.

One fault does get through. The message about an exceeded limit names the limit, and a number with
more digits than the interpreter writes cannot be named. A positive limit of that size is never
exceeded, but a negative one is, by the first container or by the empty text.

The budget of a loader is enough, so a rejection never stands for an evaluation that gave up.
-/

namespace Descent.Document

/-- What is known of a rejection of a source: it is one of the document loader, with a diagnostic
that has one of six codes. All but an oversized source have a line and a column, a parse error is
behind those that the grammar escalated, and the position is inside the source or at its end. -/
structure Rejects (source : Text) (rejection : Rejection) (diagnostic : Diagnostic) : Prop where
  kind : rejection.kind = .document
  carried : rejection.diagnostic = some diagnostic
  code : diagnostic.code ∈ [.sourceTooLarge, .invalidInput, .leftoverInput, .expectationFailed,
    .nestingDepthExceeded, .numberTooLarge]
  line : rejection.line?.isSome ↔ diagnostic.code ≠ .sourceTooLarge
  column : rejection.column?.isSome ↔ diagnostic.code ≠ .sourceTooLarge
  one_le_line : ∀ line ∈ rejection.line?, 1 ≤ line.toInt
  one_le_column : ∀ column ∈ rejection.column?, 1 ≤ column.toInt
  error : rejection.error.isSome ↔
    diagnostic.code ∈ [.expectationFailed, .nestingDepthExceeded, .numberTooLarge]
  position : ∀ position ∈ diagnostic.position, 0 ≤ position ∧ position ≤ source.length

variable {source : Text} {cursor : Cursor}

/-- A cursor has a span: its context holds a line and a column. -/
theorem Cursor.exists_span (cursor : Cursor) :
    ∃ span, cursor.state.span none = .ok (some span) := by
  have located : cursor.state.location = some ⟨.int cursor.line, .int cursor.column⟩ := rfl
  exact State.exists_span_of_location cursor.pos_nonneg located

/-- A result that is a rejection of the source. -/
def Refuses (source : Text) (result : Except Stop Node) : Prop :=
  ∃ rejection diagnostic, result = .error (.rejected rejection) ∧
    Rejects source rejection diagnostic

section Outcomes

variable {consumed : Text} (passes : (Cursor.start source).Passes consumed cursor)

include passes

end Outcomes

namespace Loader

/-- Why a source gets neither a value nor a rejection: it exceeds a limit that has too many digits
to be named, which is the one for the size, or the one for the nesting at a container. -/
inductive Unanswered (loader : Loader) (source : Text) : Prop where
  | size (refused : loader.refusesSize source) (unwritten : loader.sizeIsWritable = false)
  | nesting {consumed : Text} {next : Cursor} (sized : loader.refusesSize source = false)
      (unwritten : loader.limits.depthIsWritable = false)
      (passes : (Cursor.start source).Passes consumed next)
      (exceeds : DocumentExceeds loader.limits consumed next next.unworded)

/-- A loader whose limits can be named leaves no source without an answer. -/
theorem not_unanswered {loader : Loader} {source : Text} (size : loader.sizeIsWritable)
    (depth : loader.limits.depthIsWritable) : ¬ loader.Unanswered source := by
  rintro (⟨-, unwritten⟩ | ⟨-, unwritten, -, -⟩)
  · exact Bool.false_ne_true (unwritten.symm.trans size)
  · exact Bool.false_ne_true (unwritten.symm.trans depth)

end Loader

end Descent.Document
