import Descent.Document.Number
import Descent.Rule.Derived
import Descent.Value.Flatten

/-!
# The grammar of JSON documents

JSON texts as rules over the characters of a text.

    text     ::= ws value ws
    value    ::= string | number | "false" | "true" | "null" | array | object
    array    ::= "[" [ value { "," value } ] "]"
    object   ::= "{" [ entry { "," entry } ] "}"
    entry    ::= string ":" value
    number   ::= [ "-" ] ( "0" | nonzero { digit } ) [ "." digits ] [ exponent ]
    exponent ::= ( "e" | "E" ) [ "+" | "-" ] digits
    string   ::= '"' { unescaped | escape } '"'

White space may stand around each bracket, colon and comma. The context keeps the line, the column
and the number of open containers. After an opening bracket, a separator, a decimal point, an
exponent sign or a backslash the rest is mandatory, and its absence is a failure.

The rules are open: `value` takes the rule for nested values as an argument, so that any grammar
can supply it under a name of its own.
-/

namespace Descent.Document

/-- What a document may not exceed. -/
structure Limits where
  /-- The most containers that may be open at once. -/
  maxDepth : Int
  /-- The most digits of a whole number, whether it is read or written; zero stands for no limit. -/
  maxDigits : Nat
  deriving DecidableEq, Repr

variable {ν : Type}

/-- A token of one character. -/
def token (character : Char) : Value := .ofCodePoint (CodePoint.ofChar character)

/-- The characters of a string as tokens. -/
def tokens (characters : String) : List Value := (text characters).map .ofCodePoint

/-- A token that is no line break; it moves the column on. -/
def tracked (value : Value) : Rule ν := .trackColumn (.literal value)

/-- A character that is no line break; it moves the column on. -/
def char (character : Char) : Rule ν := tracked (token character)

/-! ## White space and punctuation -/

/-- A line break: carriage return and line feed together, or either alone. -/
def lineBreak : Rule ν :=
  .trackLine (.choice
    [.literalSequence .literal (tokens "\r\n"), .literal (token '\n'), .literal (token '\r')])

/-- Any run of blanks and line breaks. -/
def whitespace : Rule ν :=
  .constant (.zeroOrMore (.choice [char ' ', char '\t', lineBreak])) .none

/-- A character with white space on both sides. -/
def spaced (character : Char) : Rule ν := .sequence [whitespace, char character, whitespace]

/-- A separator. -/
def separator (character : Char) : Rule ν := .constant (spaced character) (token character)

/-- A bracket; the depth changes once the white space after it is consumed. -/
def bracket (character : Char) (change : Int) : Rule ν :=
  .constant
    (.updating (spaced character)
      [Context.modify (text "depth") (Context.onWhole (· + change))])
    (token character)

/-! ## Keywords -/

/-- A scalar node. -/
def scalar (value : Value) : Value := .record .scalar [value]

/-- A word that stands for a scalar. -/
def word (characters : String) (value : Value) : Rule ν :=
  .constant (.literalSequence tracked (tokens characters)) (scalar value)

/-- The three words. -/
def keyword : Rule ν :=
  .choice [word "false" (.bool false), word "true" (.bool true), word "null" .none]

/-! ## Numbers -/

/-- A digit other than zero. -/
def nonzeroDigit : Rule ν := .literalChoice tracked (tokens "123456789")

/-- A digit. -/
def digit : Rule ν := .choice [char '0', nonzeroDigit]

/-- The digits before the point: zero alone, or a run that does not start with zero. -/
def integralPart : Rule ν := .choice [char '0', .sequence [nonzeroDigit, .zeroOrMore digit]]

/-- A point and the digits that have to follow it. -/
def fractionalPart : Rule ν :=
  .sequence
    [char '.',
      .failpoint (.oneOrMore digit)
        (.expecting (text "in number literal, after a decimal point, decimal digit"))]

/-- An exponent mark, an optional sign and the digits that have to follow. -/
def exponentialPart : Rule ν :=
  .sequence
    [.literalChoice tracked (tokens "eE"),
      .optional (.choice [char '+', char '-']) .none,
      .failpoint (.oneOrMore digit)
        (.expecting (text "in number literal, after an exponent sign, decimal digit"))]

/-- Sign, integral part, fraction and exponent; absent parts are `none`. -/
def numberParts : Rule ν :=
  .sequence
    [.optional (char '-') .none, integralPart, .optional fractionalPart .none,
      .optional exponentialPart .none]

/-- The error that a whole number has too many digits; it stands at the start of the literal. -/
def tooManyDigits (digits maxDigits : Nat) (start : State) : ErrorAt := fun _ =>
  ErrorAt.wording true (fun span => .numberTooLarge digits maxDigits span (some start.pos)) start

/-- The scalar node of a literal given by its parts. -/
def numberNode (limits : Limits) (isWhole : Bool) (parts : Value) : Except Fault Value :=
  match parts.joined? with
  | none => .error .typeMismatch
  | some literal =>
    if isWhole then (Number.readWhole limits.maxDigits literal).map (scalar ∘ .int)
    else .ok (scalar (.float (Number.double literal)))

/-- A derivation that ends with a result, or in the fault met in computing it. -/
def finishWith : Except Fault Value → Steps ν
  | .ok product => .finish product
  | .error fault => .fault fault

/-- What follows once the parts of a number are known. -/
def numberSteps (limits : Limits) (start : State) (parts : Value) : Steps ν :=
  match parts with
  | .tuple [_, integral, fraction, exponent] =>
    let digits := integral.flatten.length
    let isWhole := fraction.same .none && exponent.same .none
    if isWhole && 0 < limits.maxDigits && limits.maxDigits < digits then
      .apply (.escalate (tooManyDigits digits limits.maxDigits start)) fun _ =>
        finishWith (numberNode limits isWhole parts)
    else finishWith (numberNode limits isWhole parts)
  | _ => .fault .typeMismatch

/-- A number. -/
def number (limits : Limits) : Rule ν :=
  .derivation
    (.getState fun start => .apply numberParts fun parts => numberSteps limits start parts) []

/-! ## Strings -/

/-- The digits of an escaped code unit. -/
def hexDigits : Text := text "0123456789abcdefABCDEF"

/-- A hexadecimal digit of either case. -/
def hexDigit : Rule ν :=
  .trackColumn (.term fun
    | .str points => .pure (points.holds hexDigits)
    | _ => .fault .typeMismatch)

/-- A character that stands for itself: neither a control character nor quote nor backslash. -/
def unescaped : Rule ν :=
  .exclude
    (.trackColumn (.term fun
      | .str points => .pure (Text.le (text " ") points)
      | _ => .fault .typeMismatch))
    [char '"', char '\\']

/-- The number that hexadecimal digits spell. -/
def hexNumber : Text → Except Fault Value
  | [] => .error .badNumeral
  | digits =>
    match digits.mapM CodePoint.hexValue? with
    | some values => .ok (.int (values.foldl (fun number value => number * 16 + value) 0 : Nat))
    | none => .error .badNumeral

/-- Four hexadecimal digits, all mandatory; the product is their number. -/
def hexQuad : Rule ν :=
  .semantics (.exactly 4 (.failpoint hexDigit (.expecting (text "hexadecimal digit"))))
    fun digits =>
      match digits.joined? with
      | some digits => ⟨hexNumber digits, []⟩
      | none => .fault .typeMismatch

/-- Backslash, `u` and four digits. -/
def escapedUnit : Rule ν :=
  .semantics (.sequence [char '\\', char 'u', hexQuad]) (Rule.itemAt 2)

/-- Whether a product is the number of a low surrogate. -/
def isLowSurrogate : Value → Bool
  | .int number => CodePoint.isLowSurrogate number.toNat
  | _ => false

/-- An escaped low surrogate; every other escape is declined. -/
def lowSurrogate : Rule ν := .accepting escapedUnit isLowSurrogate

/-- The text of the code point with a number. -/
def character (number : Nat) : Except Fault Value :=
  match CodePoint.ofNat? number with
  | some point => .ok (.ofCodePoint point)
  | none => .error .badNumeral

/-- What follows an escaped code unit: after a high surrogate, a low one joins it. -/
def unitSteps : Value → Steps ν
  | .int unit =>
    if CodePoint.isHighSurrogate unit.toNat then
      .apply (.optional lowSurrogate .none) fun
        | .int low => finishWith (character (CodePoint.joinSurrogates unit.toNat low.toNat))
        | _ => finishWith (character unit.toNat)
    else finishWith (character unit.toNat)
  | _ => .fault .typeMismatch

/-- The rest of an escape by number. -/
def unicodeEscape : Rule ν :=
  .derivation (.apply (char 'u') fun _ => .apply hexQuad unitSteps) []

/-- The characters with an escape of their own, and what they stand for. -/
def shortEscapes : List (Char × Char) :=
  [('"', '"'), ('\\', '\\'), ('/', '/'), ('b', '\x08'), ('f', '\x0c'), ('n', '\n'), ('r', '\r'),
    ('t', '\t')]

/-- What the character after a backslash stands for. -/
def shortEscapeValue (spelled : Value) : Except Fault Value :=
  match shortEscapes.find? fun escape => (token escape.1).same spelled with
  | some escape => .ok (token escape.2)
  | none => .error .missingKey

/-- The rest of an escape by letter. -/
def shortEscape : Rule ν :=
  .semantics (.literalChoice tracked (shortEscapes.map fun escape => token escape.1))
    fun spelled => ⟨shortEscapeValue spelled, []⟩

/-- A backslash and what has to follow it. -/
def escape : Rule ν :=
  .derivation
    (.apply (char '\\') fun _ =>
      .apply
        (.failpoint (.choice [unicodeEscape, shortEscape]) (.expecting (text "escape sequence")))
        .finish) []

/-- A string without its node. -/
def string : Rule ν :=
  .derivation
    (.apply (char '"') fun _ =>
      .apply (.zeroOrMore (.choice [escape, unescaped])) fun contents =>
        .apply
          (.failpoint (char '"')
            (.expecting (text "a string is unclosed, or holds a control character; \"\\\"\"")))
          fun _ =>
            match contents.joined? with
            | some points => .finish (.str points)
            | none => .fault .typeMismatch) []

/-- A string as a node. -/
def stringValue : Rule ν := .semantics string fun points => .pure (scalar points)

/-! ## Arrays and objects -/

/-- Whether the limit for the nesting can be named in a message. -/
def Limits.depthIsWritable (limits : Limits) : Bool :=
  Text.isWritable limits.maxDigits 0 limits.maxDepth

/-- The error that too many containers are open. -/
def tooDeep (limits : Limits) : ErrorAt := fun state =>
  ErrorAt.wording limits.depthIsWritable
    (fun span => .nestingDepthExceeded limits.maxDepth span (some state.pos)) state

/-- Goes on only if the context's depth is within the limit. A mapping is no record and has no
depth to be asked for. -/
def withinDepth (limits : Limits) (next : Steps ν) : Steps ν :=
  .getState fun state =>
    match state.context with
    | .record kind fields =>
      match (Fields.find? (text "depth") kind.fieldNames fields).map Value.whole? with
      | none => .fault .missingField
      | some none => .fault .typeMismatch
      | some (some depth) =>
        if limits.maxDepth < depth.toInt then .apply (.escalate (tooDeep limits)) fun _ => next
        else next
    | _ => .fault .missingField

/-- The members of a container: none, or a first one and all that follow. -/
def members (first additional : Rule ν) (close : List Value → Steps ν) : Steps ν :=
  .apply (.optional first .none) fun
    | .none => close []
    | head => .apply (.zeroOrMore additional) fun
      | .tuple rest => close (head :: rest)
      | _ => .fault .typeMismatch

/-- A comma and the value that has to follow it. -/
def additionalValue (self : Rule ν) : Rule ν :=
  .derivation
    (.apply (separator ',') fun _ =>
      .apply (.failpoint self (.expecting (text "in an array, after a comma, a value"))) .finish)
    []

/-- An array. -/
def array (limits : Limits) (self : Rule ν) : Rule ν :=
  .derivation
    (.apply (bracket '[' 1) fun _ =>
      withinDepth limits (members self (additionalValue self) fun items =>
        .apply
          (.failpoint (bracket ']' (-1)) (.expecting (text "an array is unclosed; \"]\"")))
          fun _ => .finish (.record .array [.tuple items]))) []

/-- A key by the given rule, then the colon and the value that have to follow it. -/
def entrySteps (key self : Rule ν) : Steps ν :=
  .apply key fun name =>
    .apply (.failpoint (separator ':') (.expecting (text "after an object key, \":\""))) fun _ =>
      .apply (.failpoint self (.expecting (text "after an object key, a value"))) fun value =>
        .finish (.tuple [name, value])

/-- The first entry of an object. -/
def entry (self : Rule ν) : Rule ν := .derivation (entrySteps string self) []

/-- A comma and the entry that has to follow it. -/
def additionalEntry (self : Rule ν) : Rule ν :=
  .derivation
    (.apply (separator ',') fun _ =>
      entrySteps
        (.failpoint string (.expecting (text "in an object, after a comma, a string key"))) self)
    []

/-- An object. -/
def object (limits : Limits) (self : Rule ν) : Rule ν :=
  .derivation
    (.apply (bracket '\x7b' 1) fun _ =>
      withinDepth limits (members (entry self) (additionalEntry self) fun entries =>
        .apply
          (.failpoint (bracket '\x7d' (-1))
            (.expecting (text
              "either \"\x7d\" or another object entry (which always starts with a string)")))
          fun _ => .finish (.record .object [.tuple entries]))) []

/-! ## Values and documents -/

/-- A value, given the rule for the values nested in it. -/
def value (limits : Limits) (self : Rule ν) : Rule ν :=
  .choice [stringValue, number limits, keyword, array limits self, object limits self]

/-- A whole document, given the rule for values. -/
def document (self : Rule ν) : Rule ν :=
  .semantics (.sequence [whitespace, self, whitespace]) (Rule.itemAt 1)

/-- The grammar of documents on their own: its one name stands for a value. -/
def grammar (limits : Limits) : Grammar Unit := fun _ => some (value limits (.reference ()))

/-- The context in which a document is read. -/
def initialContext : Value := .record .document [.int 1, .int 1, .int 0]

/-- The first state of a document. The limit on the digits of what is written plays no part in a
document's states and is left at its standard: all that an error writes about its state are
characters, and places that are no larger than the source. Where a limit of the loader is written
instead, its own `Limits.maxDigits` counts. -/
def initialState (source : Text) : State where
  tokens := .ofText source
  context := initialContext

end Descent.Document
