/-!
# Texts as sequences of code points

Positions, columns, lengths and clipping all count code points, and a text may hold surrogate
code points that are part of no pair. `Char` excludes those, so the library has its own
`CodePoint`; a `Text` is a plain list of them. Encodings in bytes or in sixteen-bit units are
absent: nothing here measures a text in any other unit.
-/

namespace Descent

/-- A Unicode code point, surrogates included. -/
abbrev CodePoint := Fin 0x110000

/-- A text is a finite sequence of code points. -/
abbrev Text := List CodePoint

namespace CodePoint

/-- Every character is below the end of the code space. -/
theorem toNat_lt_codeSpace (character : Char) : character.toNat < 0x110000 := by
  rcases character.valid with low | high
  · exact Nat.lt_trans low (by decide)
  · exact high.2

/-- The code point of a character. -/
def ofChar (character : Char) : CodePoint :=
  ⟨character.toNat, toNat_lt_codeSpace character⟩

/-- The character of a code point that is no surrogate. -/
def toChar? (point : CodePoint) : Option Char :=
  if h : point.val.isValidChar then some (Char.ofNatAux point.val h) else none

/-- The code point of a number inside the code space. -/
def ofNat? (number : Nat) : Option CodePoint :=
  if h : number < 0x110000 then some ⟨number, h⟩ else none

/-- The line feed, the only code point that ends a line of a text. -/
def lineFeed : CodePoint := ofChar '\n'

/-- The first half of a surrogate pair. -/
def isHighSurrogate (number : Nat) : Bool := 0xD800 ≤ number && number < 0xDC00

/-- The second half of a surrogate pair. -/
def isLowSurrogate (number : Nat) : Bool := 0xDC00 ≤ number && number < 0xE000

/-- The number of the code point that a surrogate pair encodes. -/
def joinSurrogates (high low : Nat) : Nat :=
  0x10000 + (high - 0xD800) * 0x400 + (low - 0xDC00)

/-- The code points between two characters, ends included. -/
def isBetween (first last : Char) (point : CodePoint) : Bool :=
  first.toNat ≤ point.val && point.val ≤ last.toNat

/-- An ASCII decimal digit. -/
def isDigit (point : CodePoint) : Bool := point.isBetween '0' '9'

/-- An ASCII letter. -/
def isLetter (point : CodePoint) : Bool := point.isBetween 'a' 'z' || point.isBetween 'A' 'Z'

/-- The value of an ASCII hexadecimal digit of either case. -/
def hexValue? (point : CodePoint) : Option Nat :=
  if point.isDigit then some (point.val - '0'.toNat)
  else if point.isBetween 'a' 'f' then some (point.val - 'a'.toNat + 10)
  else if point.isBetween 'A' 'F' then some (point.val - 'A'.toNat + 10)
  else none

end CodePoint

/-- The text of a string. -/
def text (string : String) : Text := string.toList.map CodePoint.ofChar

namespace Text

/-- The string of a text without surrogates. -/
def toString? (points : Text) : Option String :=
  (points.mapM CodePoint.toChar?).map String.ofList

/-- A natural number in decimal. -/
def ofNat (number : Nat) : Text := (Nat.toDigits 10 number).map CodePoint.ofChar

/-- A whole number in decimal, with a minus sign when it is negative. -/
def ofInt : Int → Text
  | .ofNat number => ofNat number
  | .negSucc number => text "-" ++ ofNat (number + 1)

/-- The most digits that are written of a number, unless another limit is set. -/
def standardMaxDigits : Nat := 4300

/-- Whether a whole number may be written where at most `maxDigits` digits of a number are written;
zero stands for no limit.

A number up to `held` is always written. It counts what is held in memory, so it fits a machine
word, and no limit is as low as the digits of one. -/
def isWritable (maxDigits held : Nat) (number : Int) : Bool :=
  number.natAbs ≤ held || maxDigits == 0 || number.natAbs < Nat.pow 10 maxDigits

/-- A number may be written if it counts what is held in memory, if there is no limit, or if it has
no more digits than the limit says. -/
theorem isWritable_iff {maxDigits held : Nat} {number : Int} :
    isWritable maxDigits held number ↔
      number.natAbs ≤ held ∨ maxDigits = 0 ∨ (ofNat number.natAbs).length ≤ maxDigits := by
  rcases Nat.eq_zero_or_pos maxDigits with rfl | positive
  · simp [isWritable]
  · have digits : (Nat.toDigits 10 number.natAbs).length ≤ maxDigits ↔
        number.natAbs < 10 ^ maxDigits := Nat.length_toDigits_le_iff (by decide) positive
    simp [isWritable, ofNat, digits, or_assoc]

/-- The least number with more digits than are written by default. -/
def leastUnwritten : Nat := Nat.pow 10 standardMaxDigits

/-- What counts something that is held in memory may be written. -/
theorem isWritable_of_le {maxDigits held : Nat} {number : Int} (le : number.natAbs ≤ held) :
    isWritable maxDigits held number = true := by
  simp [isWritable, le]

/-- A number below `16 ^ width` in exactly `width` lower-case hexadecimal digits. -/
def hex (width number : Nat) : Text :=
  let digits := Nat.toDigits 16 number
  (List.replicate (width - digits.length) '0' ++ digits).map CodePoint.ofChar

/-- The texts in order, with `separator` between neighbours. -/
def join (separator : Text) (texts : List Text) : Text := separator.intercalate texts

/-- The lines of a text: one more than it has line feeds, and without them. -/
def lines : Text → List Text
  | [] => [[]]
  | point :: rest =>
    if point = CodePoint.lineFeed then [] :: lines rest
    else match lines rest with
      | [] => [[point]]
      | first :: others => (point :: first) :: others

/-- A text with spaces before it so that it is at least `width` long. -/
def padLeft (width : Nat) (points : Text) : Text :=
  List.replicate (width - points.length) (CodePoint.ofChar ' ') ++ points

/-- Lexicographic order by code point: `first` does not stand after `second`. -/
def le : Text → Text → Bool
  | [], _ => true
  | _ :: _, [] => false
  | first :: firstRest, second :: secondRest =>
    if first = second then le firstRest secondRest else first < second

/-- Whether `part` stands somewhere in the text as consecutive code points. -/
def holds (part : Text) : Text → Bool
  | [] => part.isEmpty
  | point :: rest => part.isPrefixOf (point :: rest) || holds part rest

/-- The value of a run of decimal digits, read from the left. -/
def decimalValue (digits : Text) : Nat :=
  digits.foldl (fun value digit => value * 10 + (digit.val - '0'.toNat)) 0

end Text

/-- The place in a sequence of `length` elements that `index` bounds: a negative index counts
from the end, and the result never leaves the sequence. -/
def clampIndex (length : Nat) (index : Int) : Nat :=
  if index < 0 then (index + length).toNat else min index.toNat length

end Descent
