import Descent.DepthLimit
import Descent.Document.Grammar
import Descent.Document.Node
import Descent.Outcome

/-!
# Loading documents

A loader reads a whole text as one JSON document within limits on its size, its nesting and the
digits of its whole numbers. What it refuses, it refuses with a rejection that carries a diagnostic.

The evaluation has a budget. The standard one is always enough: a repetition consumes a character
in every lap, and values nest no deeper than the limit. An evaluation that does run out is reported
as a document that nests too deeply.
-/

namespace Descent.Document

/-- The size that a document may have by default, in characters. -/
def standardMaxSourceSize : Int := 10 * 1024 * 1024

/-- The digits that a whole number may have by default. -/
def standardMaxDigits : Nat := Text.standardMaxDigits

/-- What a loader accepts. -/
structure Loader where
  /-- The most characters of a source; zero stands for no limit. -/
  maxSourceSize : Int
  limits : Limits
  deriving DecidableEq, Repr

/-- What came of loading a document, and what was logged. -/
structure Loaded where
  records : List LogRecord
  result : Except Stop Node

/-- The plain value of the document that was loaded. -/
def Loaded.value (loaded : Loaded) : Except Stop Value := loaded.result.map Node.represent

namespace Loader

/-- A loader whose nesting limit is lowered to what the stack takes. -/
def make (maxSourceSize maxDepth : Int) (maxDigits : Nat) :
    Except Fault (Loader × List LogRecord) := do
  let (depth, records) ← DepthLimit.clamp maxDepth DepthLimit.stackLimit
    DepthLimit.framesPerLevel DepthLimit.reserveFrames
  pure (⟨maxSourceSize, ⟨depth, maxDigits⟩⟩, records)

/-- A budget that no document within the limits exceeds. -/
def standardBudget (loader : Loader) (source : Text) : Budget where
  unfoldings := loader.limits.maxDepth.toNat + 1
  laps := source.length + 1

/-- Applies the document grammar to a source. -/
def report (loader : Loader) (budget : Budget) (source : Text) : Report :=
  .of ((grammar loader.limits).evaluate budget (document (.reference ())))
    (initialState source)

/-- The node of an outcome; everything but a success is a rejection. -/
def nodeOf (outcome : Outcome) : Except Stop Node := do
  let product ← outcome.unwrap .document
  match Node.ofValue? product with
  | some node => pure node
  | none => throw (.fault .typeMismatch)

/-- Whether a source is longer than the loader takes. -/
def refusesSize (loader : Loader) (source : Text) : Bool :=
  loader.maxSourceSize ≠ 0 && loader.maxSourceSize < source.length

/-- Whether the limit for the size can be named in a message. -/
def sizeIsWritable (loader : Loader) : Bool :=
  Text.isWritable loader.limits.maxDigits 0 loader.maxSourceSize

/-- A rejection that names no place, if the numbers of its message may be written. -/
def rejectWhole (writable : Bool) (diagnostic : Diagnostic) : Except Stop Node :=
  if writable then .error (.rejected (.ofDiagnostic .document diagnostic none))
  else .error (.fault .longNumeral)

/-- Reads a source within a budget. -/
def parseWithin (loader : Loader) (budget : Budget) (source : Text) : Loaded :=
  if loader.refusesSize source then
    ⟨[], rejectWhole loader.sizeIsWritable (.sourceTooLarge source.length loader.maxSourceSize)⟩
  else
    let report := loader.report budget source
    let records := .documentStarted source.length :: report.journal.records
    match report.outcome with
    | .ok outcome => ⟨records, nodeOf outcome⟩
    | .error .exhausted =>
      ⟨records ++ [.stackExhausted loader.limits.maxDepth],
        rejectWhole loader.limits.depthIsWritable
          (.nestingDepthExceeded loader.limits.maxDepth none none)⟩
    | .error stop => ⟨records, .error stop⟩

/-- Reads a source. -/
def parse (loader : Loader) (source : Text) : Loaded :=
  loader.parseWithin (loader.standardBudget source) source

/-- Reads a source into plain values. -/
def loads (loader : Loader) (source : Text) : Except Stop Value := (loader.parse source).value

end Loader

end Descent.Document
