import Descent.State
import Descent.Diagnostic

/-!
# Parse errors

A parse error is what an escalated failure carries: a message and the state at which it arose. It
can be shown on one line, with an excerpt of the source, or turned into a diagnostic.
-/

namespace Descent

/-- An error at a state. -/
structure ParseError where
  message : Text
  state : State
  expected : List Text := []
  found : Option Text := none
  code : DiagnosticCode := .expectationFailed
  deriving Inhabited

namespace ParseError

/-- The error at `state` that a diagnostic words. -/
def ofDiagnostic (diagnostic : Diagnostic) (state : State) : ParseError where
  message := diagnostic.message
  state := state
  expected := diagnostic.expected
  found := diagnostic.found
  code := diagnostic.code

/-- The place in front of the message: line and column, or the offset where they are unknown. -/
def place (error : ParseError) : Text :=
  match error.state.location with
  | none => text "position " ++ Text.ofInt error.state.pos
  | some location => location.line.text ++ text ":" ++ location.column.text

/-- The constructs that were expected, in quotes. -/
def expectation (error : ParseError) : Text :=
  if error.expected.isEmpty then []
  else
    text " (expected: " ++
      Text.join (text ", ") (error.expected.map fun item => text "'" ++ item ++ text "'") ++
      text ")"

/-- The error on one line. -/
def format (error : ParseError) : Text :=
  error.place ++ text ": " ++ error.message ++ error.expectation

/-- The error on one line, if its place can be named. -/
def formatError (error : ParseError) : Except Fault Text := do
  requireWritable error.state.placeIsWritable
  pure error.format

/-- The number of a source line and the bar after it. -/
def gutter (number : Nat) : Text := Text.padLeft 4 (Text.ofNat number) ++ text " | "

/-- The row with the caret: a bar under the bar of `gutter`, a caret under the column. -/
def pointer (number : Nat) (column : Int) : Text :=
  let space := CodePoint.ofChar ' '
  List.replicate ((gutter number).length - 2) space ++ text "| " ++
    List.replicate (column - 1).toNat space ++ text "^"

/-- The rows for the source line of a number: its text, and the caret if the error is there. -/
def sourceRows (location : Location) (number : Nat) (content : Text) : List Text :=
  let row := gutter number ++ content
  if (number : Int) = location.line.toInt then [row, pointer number location.column.toInt]
  else [row]

/-- The first and the last line of an excerpt: from `contextLines` before the error to as many
after, as far as the source has them. -/
def excerptBounds (location : Location) (contextLines : Int) (source : Text) : Int × Int :=
  (max 1 (location.line.toInt - contextLines),
    min (source.lines.length : Int) (location.line.toInt + contextLines))

/-- The rows of an excerpt. -/
def excerptRows (location : Location) (contextLines : Int) (source : Text) : List Text :=
  let (first, last) := excerptBounds location contextLines source
  (source.lines.zipIdx 1).flatMap fun (content, number) =>
    if first ≤ (number : Int) && (number : Int) ≤ last then sourceRows location number content
    else []

/-- Whether a character can be repeated by a count: the count is a signed number of sixty-four
bits. A negative one stands for no repetition. -/
def isRepeatable (count : Int) : Bool :=
  -0x8000000000000000 ≤ count && count < 0x8000000000000000

/-- Whether an excerpt has a row with a caret that cannot be written: the line of the error is
shown, and the blanks in front of the caret are too many to be counted. -/
def caretOverflows (location : Location) (contextLines : Int) (source : Text) : Bool :=
  let (first, last) := excerptBounds location contextLines source
  first ≤ location.line.toInt && location.line.toInt ≤ last &&
    !isRepeatable (location.column.toInt - 1)

/-- How many source lines an excerpt shows on either side. -/
def defaultContextLines : Int := 2

/-- The error with an excerpt of the source below it; only a text has lines to show. -/
def formatWithContext (error : ParseError) (contextLines : Int) : Except Fault Text := do
  let summary ← error.formatError
  match error.state.tokens, error.state.location with
  | .text points, some location =>
    if caretOverflows location contextLines points.toList then .error .countOutOfRange
    else .ok (Text.join (text "\n")
      ([summary, []] ++ excerptRows location contextLines points.toList))
  | _, _ => .ok summary

/-- The error as a diagnostic. -/
def toDiagnostic (error : ParseError) : Except Fault Diagnostic := do
  let span ← error.state.span none
  pure {
    code := error.code
    message := error.message
    span := span
    hint := none
    expected := error.expected
    found := error.found
    position := some error.state.pos }

end ParseError

end Descent
