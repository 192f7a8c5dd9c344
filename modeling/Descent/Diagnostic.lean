import Descent.Span

/-!
# Diagnostics

A diagnostic says what is wrong with an input and where. The constructors below `Diagnostic` are
the only ones that word a message: one for each `DiagnosticCode`. How a diagnostic is laid out is
the matter of `Descent.Diagnostic.Format`.
-/

namespace Descent

/-- The kinds of diagnostics. -/
inductive DiagnosticCode where
  | unexpectedEnd
  | invalidInput
  | leftoverInput
  | expectationFailed
  | noProgress
  | nestingDepthExceeded
  | sourceTooLarge
  | numberTooLarge
  deriving DecidableEq, Repr, Inhabited

namespace DiagnosticCode

/-- Every code, in ascending order of its number. -/
def all : List DiagnosticCode :=
  [unexpectedEnd, invalidInput, leftoverInput, expectationFailed, noProgress,
    nestingDepthExceeded, sourceTooLarge, numberTooLarge]

/-- The name of a code in formatted output. -/
def name : DiagnosticCode → Text
  | unexpectedEnd => text "UNEXPECTED_EOF"
  | invalidInput => text "INVALID_INPUT"
  | leftoverInput => text "LEFTOVER_INPUT"
  | expectationFailed => text "EXPECTATION_FAILED"
  | noProgress => text "NO_PROGRESS"
  | nestingDepthExceeded => text "NESTING_DEPTH_EXCEEDED"
  | sourceTooLarge => text "SOURCE_TOO_LARGE"
  | numberTooLarge => text "NUMBER_TOO_LARGE"

/-- The number of a code: syntax errors from 3000, grammar errors from 3100, limits from 3200. -/
def number : DiagnosticCode → Nat
  | unexpectedEnd => 3001
  | invalidInput => 3002
  | leftoverInput => 3003
  | expectationFailed => 3004
  | noProgress => 3101
  | nestingDepthExceeded => 3201
  | sourceTooLarge => 3202
  | numberTooLarge => 3203

/-- The code of a name. -/
def ofName? (name : Text) : Option DiagnosticCode := all.find? fun code => code.name == name

end DiagnosticCode

/-- A structured error report. -/
structure Diagnostic where
  code : DiagnosticCode
  message : Text
  /-- The place in lines and columns, where it is known. -/
  span : Option Span
  hint : Option Text
  /-- The constructs that the grammar asked for. -/
  expected : List Text
  /-- How the input at the place is shown. -/
  found : Option Text
  /-- The token offset of the place. -/
  position : Option Int
  deriving DecidableEq, Repr

/-- Stands for the next token where there is none. -/
def endOfInputLabel : Text := text "the end of input"

namespace Diagnostic

/-- How the offending input is named in a message. -/
def quoteFound : Option Text → Text
  | none => endOfInputLabel
  | some found => text "\"" ++ found ++ text "\""

/-- A token was asked for past the end of the sequence. -/
def unexpectedEnd (position : Int) : Diagnostic where
  code := .unexpectedEnd
  message := text "Unexpected EOF at position " ++ Text.ofInt position
  span := none
  hint := some (text "Check is_eof before reading the current token")
  expected := []
  found := none
  position := some position

/-- The root rule did not match at all. -/
def invalidInput (found : Option Text) (span : Option Span) (position : Option Int) :
    Diagnostic where
  code := .invalidInput
  message := text "invalid document " ++ quoteFound found
  span := span
  hint := some (text "The input does not start with anything the root rule accepts")
  expected := []
  found := found
  position := position

/-- The root rule matched and tokens remain. -/
def leftoverInput (found : Option Text) (span : Option Span) (position : Option Int) :
    Diagnostic where
  code := .leftoverInput
  message := text "leftover data after a valid node " ++ quoteFound found
  span := span
  hint := some (text "Remove trailing content after the document")
  expected := []
  found := found
  position := position

/-- A mandatory construct is missing. -/
def expectationFailed (expectation : Text) (found : Option Text) (span : Option Span)
    (position : Option Int) : Diagnostic where
  code := .expectationFailed
  message := expectation ++ text " expected where " ++ quoteFound found ++ text " is"
  span := span
  hint := none
  expected := [expectation]
  found := found
  position := position

/-- A repeated rule matched without changing the state. -/
def noProgress (span : Option Span) (position : Option Int) : Diagnostic where
  code := .noProgress
  message := text "Repeated rule matched without consuming input" ++
    match position with
    | none => []
    | some place => text " at position " ++ Text.ofInt place
  span := span
  hint := some
    (text "Rules passed to repeat_zero_or_more/repeat_one_or_more must consume " ++
      text "at least one token or change the context on every match")
  expected := []
  found := none
  position := position

/-- More containers are open than the limit allows. -/
def nestingDepthExceeded (maxDepth : Int) (span : Option Span) (position : Option Int) :
    Diagnostic where
  code := .nestingDepthExceeded
  message := text "Maximum nesting depth (" ++ Text.ofInt maxDepth ++ text ") exceeded"
  span := span
  hint := some (text "Flatten the document or raise max_nesting_depth")
  expected := []
  found := none
  position := position

/-- The source is longer than the limit allows. -/
def sourceTooLarge (size maxSize : Int) : Diagnostic where
  code := .sourceTooLarge
  message := text "Source size (" ++ Text.ofInt size ++ text " characters) exceeds maximum (" ++
    Text.ofInt maxSize ++ text " characters)"
  span := none
  hint := some (text "Split the input or raise max_source_size")
  expected := []
  found := none
  position := none

/-- A whole number has more digits than the limit allows. -/
def numberTooLarge (digits maxDigits : Int) (span : Option Span) (position : Option Int) :
    Diagnostic where
  code := .numberTooLarge
  message := text "Integer literal has " ++ Text.ofInt digits ++
    text " digits, exceeding the limit of " ++ Text.ofInt maxDigits
  span := span
  hint := some (text "Raise the limit with sys.set_int_max_str_digits()")
  expected := []
  found := none
  position := position

end Diagnostic

end Descent
