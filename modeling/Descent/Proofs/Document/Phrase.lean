import Descent.Document.Grammar
import Descent.Document.Node

/-!
# Phrases of documents

The grammar of RFC 8259 as a type. A `Phrase` is a derivation of a value: it records every choice
that a text leaves open, white space included, so that its text, its node, the nesting of its
containers and its number literals are functions of it. A `Form` is a derivation of a document.

Structural characters carry the white space on both sides of them. Digit runs, escapes and plain
characters carry the proof that they are well formed, so every phrase has a text that the grammar
derives. No rule of the library is mentioned here.
-/

namespace Descent

namespace CodePoint

/-- The carriage return, a line break on its own or before a line feed. -/
def carriageReturn : CodePoint := ofChar '\r'

/-- A character that may stand between the tokens of a document. -/
def isBlank (point : CodePoint) : Bool :=
  point = ofChar ' ' || point = ofChar '\t' || point = lineFeed || point = carriageReturn

/-- A character that stands for itself inside a string. -/
def isPlain (point : CodePoint) : Bool :=
  0x20 ≤ point.val && point ≠ ofChar '"' && point ≠ ofChar '\\'

end CodePoint

namespace Document

/-! ## White space -/

/-- A run of white space. -/
abbrev Blanks := {points : Text // ∀ point ∈ points, point.isBlank}

/-- The white space on both sides of a structural character. -/
structure Margin where
  before : Blanks
  after : Blanks

/-- No white space on either side. -/
def Margin.none : Margin := ⟨⟨[], by simp⟩, ⟨[], by simp⟩⟩

/-- A structural character inside its white space. -/
def Margin.around (margin : Margin) (character : Char) : Text :=
  margin.before.val ++ CodePoint.ofChar character :: margin.after.val

/-! ## Strings -/

/-- The four hexadecimal digits of an escaped code unit. -/
structure CodeUnit where
  digits : Text
  length_digits : digits.length = 4
  areHex : ∀ digit ∈ digits, digit.hexValue?.isSome

/-- The number that the digits spell. -/
def CodeUnit.number (unit : CodeUnit) : Nat :=
  unit.digits.foldl (fun number digit => number * 16 + digit.hexValue?.getD 0) 0

/-- A hexadecimal digit is below sixteen. -/
theorem hexValue?_lt {point : CodePoint} {value : Nat} (spelled : point.hexValue? = some value) :
    value < 16 := by
  have digits : '0'.toNat = 48 ∧ '9'.toNat = 57 ∧ 'a'.toNat = 97 ∧ 'f'.toNat = 102 ∧
      'A'.toNat = 65 ∧ 'F'.toNat = 70 := by decide
  unfold CodePoint.hexValue? at spelled
  simp only [CodePoint.isDigit, CodePoint.isBetween, Bool.and_eq_true, decide_eq_true_eq] at spelled
  split at spelled
  · cases spelled
    omega
  · split at spelled
    · cases spelled
      omega
    · split at spelled
      · cases spelled
        omega
      · cases spelled

/-- Four digits spell a number of sixteen bits. -/
theorem CodeUnit.number_lt (unit : CodeUnit) : unit.number < 0x10000 := by
  have bounded : ∀ (digits : Text) (start : Nat),
      digits.foldl (fun number digit => number * 16 + digit.hexValue?.getD 0) start <
        (start + 1) * 16 ^ digits.length := by
    intro digits
    induction digits with
    | nil => simp
    | cons digit rest inductionHypothesis =>
        intro start
        have step := inductionHypothesis (start * 16 + digit.hexValue?.getD 0)
        have small : digit.hexValue?.getD 0 < 16 := by
          cases spelled : digit.hexValue? with
          | none => simp
          | some value => simpa using hexValue?_lt spelled
        rw [List.foldl_cons, List.length_cons, Nat.pow_succ']
        calc _ < (start * 16 + digit.hexValue?.getD 0 + 1) * 16 ^ rest.length := step
          _ ≤ ((start + 1) * 16) * 16 ^ rest.length := Nat.mul_le_mul_right _ (by omega)
          _ = (start + 1) * (16 * 16 ^ rest.length) := Nat.mul_assoc _ _ _
  have all := bounded unit.digits 0
  rw [unit.length_digits] at all
  simpa [CodeUnit.number] using all

/-- The code point with the number of the unit, a surrogate among them. -/
def CodeUnit.point (unit : CodeUnit) : CodePoint :=
  ⟨unit.number, Nat.lt_trans unit.number_lt (by decide)⟩

/-- An escape by letter. -/
inductive ShortEscape where
  | quote
  | backslash
  | slash
  | backspace
  | formFeed
  | lineFeed
  | carriageReturn
  | tab

namespace ShortEscape

/-- The letter behind the backslash. -/
def letter : ShortEscape → Char
  | quote => '"'
  | backslash => '\\'
  | slash => '/'
  | backspace => 'b'
  | formFeed => 'f'
  | lineFeed => 'n'
  | carriageReturn => 'r'
  | tab => 't'

/-- The character that the escape stands for. -/
def character : ShortEscape → Char
  | quote => '"'
  | backslash => '\\'
  | slash => '/'
  | backspace => '\x08'
  | formFeed => '\x0c'
  | lineFeed => '\n'
  | carriageReturn => '\r'
  | tab => '\t'

end ShortEscape

/-- One element of the contents of a string, as it is spelled. -/
inductive StringItem where
  /-- A character that stands for itself. -/
  | plain (point : CodePoint) (isPlain : point.isPlain)
  /-- A backslash and a letter. -/
  | short (escape : ShortEscape)
  /-- A backslash, `u` and four digits. -/
  | coded (unit : CodeUnit)

namespace StringItem

/-- How the item is spelled. -/
def text : StringItem → Text
  | plain point _ => [point]
  | short escape => [CodePoint.ofChar '\\', CodePoint.ofChar escape.letter]
  | coded unit => CodePoint.ofChar '\\' :: CodePoint.ofChar 'u' :: unit.digits

/-- The code point that the item stands for on its own. -/
def point : StringItem → CodePoint
  | plain point _ => point
  | short escape => CodePoint.ofChar escape.character
  | coded unit => unit.point

/-- The code point that two neighbours stand for together: only an escaped high surrogate and the
escaped low surrogate right behind it do. -/
def pair? : StringItem → StringItem → Option CodePoint
  | coded high, coded low =>
    if CodePoint.isHighSurrogate high.number && CodePoint.isLowSurrogate low.number then
      CodePoint.ofNat? (CodePoint.joinSurrogates high.number low.number)
    else Option.none
  | _, _ => Option.none

/-- The spelling of several items in a row. -/
def texts (items : List StringItem) : Text := items.flatMap text

/-- What items in a row stand for, surrogate pairs joined from the left. -/
def decode : List StringItem → Text
  | [] => []
  | [item] => [item.point]
  | first :: second :: rest =>
    match pair? first second with
    | some point => point :: decode rest
    | none => first.point :: decode (second :: rest)

/-- A string with its quotes. -/
def quoted (items : List StringItem) : Text :=
  CodePoint.ofChar '"' :: (texts items ++ [CodePoint.ofChar '"'])

end StringItem

/-! ## Numbers -/

/-- One or more decimal digits. -/
abbrev Digits := {digits : Text // digits ≠ [] ∧ ∀ digit ∈ digits, digit.isDigit}

/-- The sign of an exponent. -/
inductive ExponentSign where
  | absent
  | plus
  | minus

/-- How the sign is spelled. -/
def ExponentSign.text : ExponentSign → Text
  | absent => []
  | plus => [CodePoint.ofChar '+']
  | minus => [CodePoint.ofChar '-']

/-- A power of ten behind a number. -/
structure Exponent where
  capital : Bool
  sign : ExponentSign
  digits : Digits

/-- How the exponent is spelled. -/
def Exponent.text (exponent : Exponent) : Text :=
  CodePoint.ofChar (if exponent.capital then 'E' else 'e') ::
    (exponent.sign.text ++ exponent.digits.val)

/-- A number as it is spelled. -/
structure NumberLiteral where
  negative : Bool
  integral : Digits
  /-- A zero in front stands alone. -/
  zeroAlone : integral.val.head? = some (CodePoint.ofChar '0') → integral.val.length = 1
  fraction : Option Digits
  exponent : Option Exponent

namespace NumberLiteral

/-- How the sign is spelled. -/
def signText (literal : NumberLiteral) : Text :=
  if literal.negative then [CodePoint.ofChar '-'] else []

/-- How a fraction is spelled, if there is one. -/
def fractionText : Option Digits → Text
  | some digits => CodePoint.ofChar '.' :: digits.val
  | none => []

/-- How an exponent is spelled, if there is one. -/
def exponentText : Option Exponent → Text
  | some exponent => exponent.text
  | none => []

/-- How the number is spelled. -/
def text (literal : NumberLiteral) : Text :=
  literal.signText ++ literal.integral.val ++ fractionText literal.fraction ++
    exponentText literal.exponent

/-- Whether there is neither a fraction nor an exponent. -/
def isWhole (literal : NumberLiteral) : Bool := literal.fraction.isNone && literal.exponent.isNone

/-- The number itself: exact for a whole number, else the double nearest to the spelling. -/
def value (literal : NumberLiteral) : Value :=
  if literal.isWhole then
    .int (if literal.negative then -(literal.integral.val.decimalValue : Int)
      else literal.integral.val.decimalValue)
  else .float (Number.double literal.text)

end NumberLiteral

/-- Whether a number literal has at most as many digits as a whole number may have. -/
def Limits.Admits (limits : Limits) (literal : NumberLiteral) : Prop :=
  literal.isWhole → 0 < limits.maxDigits → literal.integral.val.length ≤ limits.maxDigits

/-! ## Values -/

/-- A word that stands for a value. -/
inductive Keyword where
  | no
  | yes
  | null

/-- How the word is spelled. -/
def Keyword.text : Keyword → Text
  | no => Descent.text "false"
  | yes => Descent.text "true"
  | null => Descent.text "null"

/-- What the word stands for. -/
def Keyword.value : Keyword → Value
  | no => .bool false
  | yes => .bool true
  | null => .none

mutual

/-- A derivation of a value. -/
inductive Phrase where
  | string (items : List StringItem)
  | number (literal : NumberLiteral)
  | word (keyword : Keyword)
  | emptyArray (opening closing : Margin)
  | array (opening : Margin) (first : Phrase) (others : ItemTail) (closing : Margin)
  | emptyObject (opening closing : Margin)
  | object (opening : Margin) (key : List StringItem) (colon : Margin) (first : Phrase)
      (others : EntryTail) (closing : Margin)

/-- The items of an array after the first one, each behind a comma. -/
inductive ItemTail where
  | nil
  | cons (comma : Margin) (item : Phrase) (others : ItemTail)

/-- The entries of an object after the first one, each behind a comma. -/
inductive EntryTail where
  | nil
  | cons (comma : Margin) (key : List StringItem) (colon : Margin) (item : Phrase)
      (others : EntryTail)

end

mutual

/-- The text that the derivation derives. -/
def Phrase.text : Phrase → Text
  | .string items => StringItem.quoted items
  | .number literal => literal.text
  | .word keyword => keyword.text
  | .emptyArray opening closing => opening.around '[' ++ closing.around ']'
  | .array opening first others closing =>
    opening.around '[' ++ first.text ++ others.text ++ closing.around ']'
  | .emptyObject opening closing => opening.around '\x7b' ++ closing.around '\x7d'
  | .object opening key colon first others closing =>
    opening.around '\x7b' ++ StringItem.quoted key ++ colon.around ':' ++ first.text ++
      others.text ++ closing.around '\x7d'

/-- The text of further items. -/
def ItemTail.text : ItemTail → Text
  | .nil => []
  | .cons comma item others => comma.around ',' ++ item.text ++ others.text

/-- The text of further entries. -/
def EntryTail.text : EntryTail → Text
  | .nil => []
  | .cons comma key colon item others =>
    comma.around ',' ++ StringItem.quoted key ++ colon.around ':' ++ item.text ++ others.text

end

mutual

/-- The tree that the derivation stands for. -/
def Phrase.node : Phrase → Node
  | .string items => .scalar (.str (StringItem.decode items))
  | .number literal => .scalar literal.value
  | .word keyword => .scalar keyword.value
  | .emptyArray _ _ => .array []
  | .array _ first others _ => .array (first.node :: others.nodes)
  | .emptyObject _ _ => .object []
  | .object _ key _ first others _ =>
    .object ((StringItem.decode key, first.node) :: others.nodes)

/-- The trees of further items. -/
def ItemTail.nodes : ItemTail → List Node
  | .nil => []
  | .cons _ item others => item.node :: others.nodes

/-- The keys and trees of further entries. -/
def EntryTail.nodes : EntryTail → List (Text × Node)
  | .nil => []
  | .cons _ key _ item others => (StringItem.decode key, item.node) :: others.nodes

end

mutual

/-- The most containers that are open at once. -/
def Phrase.nesting : Phrase → Nat
  | .string _ | .number _ | .word _ => 0
  | .emptyArray _ _ | .emptyObject _ _ => 1
  | .array _ first others _ => max first.nesting others.nesting + 1
  | .object _ _ _ first others _ => max first.nesting others.nesting + 1

/-- The most containers that are open at once among further items. -/
def ItemTail.nesting : ItemTail → Nat
  | .nil => 0
  | .cons _ item others => max item.nesting others.nesting

/-- The most containers that are open at once among further entries. -/
def EntryTail.nesting : EntryTail → Nat
  | .nil => 0
  | .cons _ _ _ item others => max item.nesting others.nesting

end

mutual

/-- The number literals, in order. -/
def Phrase.literals : Phrase → List NumberLiteral
  | .number literal => [literal]
  | .string _ | .word _ | .emptyArray _ _ | .emptyObject _ _ => []
  | .array _ first others _ => first.literals ++ others.literals
  | .object _ _ _ first others _ => first.literals ++ others.literals

/-- The number literals of further items. -/
def ItemTail.literals : ItemTail → List NumberLiteral
  | .nil => []
  | .cons _ item others => item.literals ++ others.literals

/-- The number literals of further entries. -/
def EntryTail.literals : EntryTail → List NumberLiteral
  | .nil => []
  | .cons _ _ _ item others => item.literals ++ others.literals

end

/-- A derivation of a document: a value between white space. -/
structure Form where
  before : Blanks
  phrase : Phrase
  after : Blanks

/-- The text that the derivation derives. -/
def Form.text (form : Form) : Text := form.before.val ++ form.phrase.text ++ form.after.val

end Document

end Descent
