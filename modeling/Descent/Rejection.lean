import Descent.Diagnostic.Format
import Descent.ParseError

/-!
# Rejections

A rejection is how a refused input reaches a caller: a message, with the diagnostic and the parse
error behind it where there are any. A rejection made from a diagnostic is worded by the
diagnostic's block form.
-/

namespace Descent

/-- What refused the input. -/
inductive RejectionKind where
  /-- Some part of the library. -/
  | general
  /-- A grammar. -/
  | input
  /-- The document loader. -/
  | document
  deriving DecidableEq, Repr

/-- Whether a rejection of this kind says that an input does not fit its grammar. -/
def RejectionKind.isInputRejection : RejectionKind → Bool
  | general => false
  | input | document => true

/-- A refused input. -/
structure Rejection where
  kind : RejectionKind
  message : Text
  diagnostic : Option Diagnostic := none
  error : Option ParseError := none

namespace Rejection

/-- The rejection that a diagnostic words. -/
def ofDiagnostic (kind : RejectionKind) (diagnostic : Diagnostic) (error : Option ParseError) :
    Rejection where
  kind := kind
  message := diagnostic.format
  diagnostic := some diagnostic
  error := error

/-- The line of the place, where it is known. -/
def line? (rejection : Rejection) : Option Whole :=
  rejection.diagnostic.bind fun diagnostic => diagnostic.span.map Span.line

/-- The column of the place, where it is known. -/
def column? (rejection : Rejection) : Option Whole :=
  rejection.diagnostic.bind fun diagnostic => diagnostic.span.map Span.column

end Rejection

/-- Why a caller gets no result. -/
inductive Stop where
  | fault (fault : Fault)
  | rejected (rejection : Rejection)
  /-- The budget of the evaluation was too small. -/
  | exhausted

end Descent
