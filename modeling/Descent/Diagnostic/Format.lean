import Descent.Diagnostic
import Descent.Fault

/-!
# Layouts of a diagnostic

A `DiagnosticStyle` lays a diagnostic out as a block of lines, as one line, or as a JSON object.
The object form goes through `fields`, the list of what a diagnostic has to say, so that its
content and its spelling are separate.
-/

namespace Descent

/-- The three layouts. -/
inductive Layout where
  /-- A header and one indented line for each detail. -/
  | block
  /-- Code and message on one line. -/
  | line
  /-- An object with one member for each field. -/
  | object
  deriving DecidableEq, Repr, Inhabited

/-- The layouts with their names, in order. -/
def Layout.all : List (Text × Text × Layout) :=
  [(text "RUST", text "rust", .block), (text "SIMPLE", text "simple", .line),
    (text "JSON", text "json", .object)]

/-- The layout that a name selects. -/
def Layout.ofName? (name : Text) : Option Layout :=
  (all.find? fun entry => entry.2.1 == name).map fun entry => entry.2.2

/-- How diagnostics are laid out. -/
structure DiagnosticStyle where
  layout : Layout := .block
  /-- Whether message, found input and hint are clipped. -/
  sanitize : Bool := false
  /-- Whether the block's label is coloured. -/
  color : Bool := false
  /-- The length to which texts are clipped; a negative one counts from their end. -/
  maxContentLength : Int := 100
  deriving DecidableEq, Repr

/-- What a field of a diagnostic holds. -/
inductive FieldValue where
  | text (points : Text)
  | number (value : Whole)
  | texts (items : List Text)
  deriving DecidableEq, Repr

namespace FieldValue

/-- The field's content as a value. -/
def toValue : FieldValue → Value
  | text points => .str points
  | number value => value.toValue
  | texts items => .list (items.map .str)

/-- How one code point stands inside a string of the object form: quote, backslash and the
control characters below the space are escaped. -/
def escapePoint (point : CodePoint) : Text :=
  let number := point.val
  if number = '"'.toNat then Descent.text "\\\""
  else if number = '\\'.toNat then Descent.text "\\\\"
  else if number = 0x0A then Descent.text "\\n"
  else if number = 0x0D then Descent.text "\\r"
  else if number = 0x09 then Descent.text "\\t"
  else if number = 0x08 then Descent.text "\\b"
  else if number = 0x0C then Descent.text "\\f"
  else if number < 0x20 then Descent.text "\\u" ++ Text.hex 4 number
  else [point]

/-- A text as a string of the object form. -/
def stringLiteral (points : Text) : Text :=
  Descent.text "\"" ++ points.flatMap escapePoint ++ Descent.text "\""

/-- A number of the object form; truth values are spelled in lower case. -/
def numberLiteral : Whole → Text
  | .int value => Text.ofInt value
  | .bool true => Descent.text "true"
  | .bool false => Descent.text "false"

/-- The spelling of a field's content in the object form. -/
def spelling : FieldValue → Text
  | text points => stringLiteral points
  | number value => numberLiteral value
  | texts items =>
    Descent.text "[" ++ Text.join (Descent.text ", ") (items.map stringLiteral) ++ Descent.text "]"

end FieldValue

namespace DiagnosticStyle

/-- A text as the style shows it: clipped with three points after it if it is too long and
clipping is on. -/
def clip (style : DiagnosticStyle) (points : Text) : Text :=
  if style.sanitize && style.maxContentLength < points.length then
    points.take (clampIndex points.length style.maxContentLength) ++ text "..."
  else points

/-- The place fields: line, column and offsets if the span is known, else the offset alone. -/
def placeFields (diagnostic : Diagnostic) : List (Text × FieldValue) :=
  match diagnostic.span, diagnostic.position with
  | some span, _ =>
    [(text "line", .number span.line), (text "column", .number span.column),
      (text "start", .number (.int span.start)), (text "end", .number (.int span.stop))]
  | none, some position => [(text "position", .number (.int position))]
  | none, none => []

/-- The expected constructs, if there are any. -/
def expectedFields (diagnostic : Diagnostic) : List (Text × FieldValue) :=
  if diagnostic.expected.isEmpty then [] else [(text "expected", .texts diagnostic.expected)]

/-- The found input, clipped. -/
def foundText? (style : DiagnosticStyle) (diagnostic : Diagnostic) : Option Text :=
  diagnostic.found.map style.clip

/-- The hint, clipped; an empty hint counts as absent. -/
def hintText? (style : DiagnosticStyle) (diagnostic : Diagnostic) : Option Text :=
  (diagnostic.hint.filter fun hint => !hint.isEmpty).map style.clip

/-- What a diagnostic has to say, as named fields; absent details have none. -/
def fields (style : DiagnosticStyle) (diagnostic : Diagnostic) :
    List (Text × FieldValue) :=
  [(text "code", .text diagnostic.code.name),
    (text "code_value", .number (.int diagnostic.code.number)),
    (text "message", .text (style.clip diagnostic.message))] ++
    placeFields diagnostic ++ expectedFields diagnostic ++
    ((style.foundText? diagnostic).map fun found => (text "found", .text found)).toList ++
    ((style.hintText? diagnostic).map fun hint => (text "hint", .text hint)).toList

/-- The object form: one member for each field, in order. -/
def formatObject (style : DiagnosticStyle) (diagnostic : Diagnostic) : Text :=
  text "\x7b" ++
    Text.join (text ", ") ((style.fields diagnostic).map fun field =>
      FieldValue.stringLiteral field.1 ++ text ": " ++ field.2.spelling) ++
    text "\x7d"

/-- The line form. -/
def formatLine (style : DiagnosticStyle) (diagnostic : Diagnostic) : Text :=
  diagnostic.code.name ++ text ": " ++ style.clip diagnostic.message

/-- The line form shows a code and a message. Neither what was found nor a hint can be told from
it, nor anything else that diagnostics with the same code and the same message differ in. -/
theorem formatLine_congr {style : DiagnosticStyle} {first second : Diagnostic}
    (codes : first.code = second.code) (messages : first.message = second.message) :
    style.formatLine first = style.formatLine second := by
  rw [formatLine, formatLine, codes, messages]

/-- The label of the block form, in bold red if colour is on. -/
def label (style : DiagnosticStyle) : Text :=
  if style.color then text "\x1b[1;31merror\x1b[0m" else text "error"

/-- The line of the block form that names the place. -/
def placeLines (diagnostic : Diagnostic) : List Text :=
  match diagnostic.span, diagnostic.position with
  | some span, _ =>
    [text "  --> line " ++ span.line.text ++ text ", column " ++ span.column.text]
  | none, some position => [text "  --> position " ++ Text.ofInt position]
  | none, none => []

/-- The block form: a header, then place, expected, found and hint where they are present. -/
def formatBlock (style : DiagnosticStyle) (diagnostic : Diagnostic) : Text :=
  let header := style.label ++ text "[" ++ diagnostic.code.name ++ text "]: " ++
    style.clip diagnostic.message
  let expected :=
    if diagnostic.expected.isEmpty then []
    else [text "  = expected: " ++ Text.join (text ", ") diagnostic.expected]
  let found := (style.foundText? diagnostic).map fun found => text "  = found: " ++ found
  let hint := (style.hintText? diagnostic).map fun hint => text "  = help: " ++ hint
  Text.join (text "\n")
    (header :: placeLines diagnostic ++ expected ++ found.toList ++ hint.toList)

/-- A diagnostic in the style's layout. -/
def format (style : DiagnosticStyle) (diagnostic : Diagnostic) : Text :=
  match style.layout with
  | .block => style.formatBlock diagnostic
  | .line => style.formatLine diagnostic
  | .object => style.formatObject diagnostic

end DiagnosticStyle

/-- Whether the place can be named in the block form, given which numbers may be written. -/
def Diagnostic.placeIsWritable (writes : Int → Bool) (diagnostic : Diagnostic) : Bool :=
  match diagnostic.span, diagnostic.position with
  | some span, _ => writes span.line.toInt && writes span.column.toInt
  | none, some position => writes position
  | none, none => true

/-- Whether a style can name the place. The object form has every number of it, and the line form
has none. -/
def DiagnosticStyle.placeIsWritable (style : DiagnosticStyle) (writes : Int → Bool)
    (diagnostic : Diagnostic) : Bool :=
  match style.layout with
  | .block => diagnostic.placeIsWritable writes
  | .line => true
  | .object => (placeFields diagnostic).all fun
    | (_, .number value) => writes value.toInt
    | _ => true

/-- A diagnostic in the style's layout, unless a number of its place is too long to be written. -/
def DiagnosticStyle.formatWithin (style : DiagnosticStyle) (writes : Int → Bool)
    (diagnostic : Diagnostic) : Except Fault Text :=
  if style.placeIsWritable writes diagnostic then .ok (style.format diagnostic)
  else .error .longNumeral

/-- A diagnostic in the plain block form. -/
def Diagnostic.format (diagnostic : Diagnostic) : Text :=
  ({} : DiagnosticStyle).format diagnostic

end Descent
