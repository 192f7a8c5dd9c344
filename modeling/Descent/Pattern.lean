import Descent.Text

/-!
# Patterns for one token

A pattern describes a set of texts, and a token matches it as a whole or not at all. `accepts`
decides membership by partial derivatives: after each code point it holds the patterns that the
rest may match, so no order of trying plays a part.

What a digit, a letter of a word or a space is, and which letters differ in case only, is up to the
tables of a character set. Patterns are read against an `Alphabet` that has these tables, and what
is proved of them holds for every alphabet. `Alphabet.ascii` has the part of the tables that
concerns ASCII; outside of it, it says nothing of the code points that are digits, letters or
spaces elsewhere.
-/

namespace Descent

/-- The named sets of code points. -/
inductive PointCategory where
  | digit
  | word
  | space
  deriving DecidableEq, Repr

/-- What a character set says of its code points. -/
structure Alphabet where
  /-- Whether a code point belongs to a named set. -/
  has : PointCategory → CodePoint → Bool
  /-- The lower case of a letter; every other code point is left alone. -/
  lower : CodePoint → CodePoint
  /-- The upper case of a letter; every other code point is left alone. -/
  upper : CodePoint → CodePoint

namespace Alphabet

/-- The named sets on ASCII. -/
def asciiHas : PointCategory → CodePoint → Bool
  | .digit, point => point.isDigit
  | .word, point => point.isLetter || point.isDigit || point = CodePoint.ofChar '_'
  | .space, point =>
    point = CodePoint.ofChar ' ' || (0x09 ≤ point.val && point.val ≤ 0x0D) ||
      (0x1C ≤ point.val && point.val ≤ 0x1F)

/-- The code points of ASCII. -/
def ascii : Alphabet where
  has := asciiHas
  lower point := if point.isBetween 'A' 'Z' then point + 32 else point
  upper point := if point.isBetween 'a' 'z' then point - 32 else point

end Alphabet

/-- One part of a set of code points. -/
inductive PointItem where
  /-- The code points from `low` to `high`. -/
  | range (low high : CodePoint)
  /-- A named set, or everything outside it. -/
  | category (category : PointCategory) (inside : Bool)
  deriving DecidableEq, Repr

/-- A set of code points. -/
structure PointSet where
  items : List PointItem
  /-- Whether the set is everything outside the items. -/
  negated : Bool
  /-- Whether letters of either case count as one. -/
  foldCase : Bool
  deriving DecidableEq, Repr

namespace PointSet

/-- Whether an item has a code point, up to case if `foldCase`. -/
def itemHas (alphabet : Alphabet) (foldCase : Bool) (point : CodePoint) : PointItem → Bool
  | .range low high =>
    if foldCase then
      (low ≤ alphabet.lower point && alphabet.lower point ≤ high) ||
        (low ≤ alphabet.upper point && alphabet.upper point ≤ high)
    else low ≤ point && point ≤ high
  | .category category inside => alphabet.has category point == inside

/-- Whether a code point is in the set. -/
def has (set : PointSet) (alphabet : Alphabet) (point : CodePoint) : Bool :=
  set.items.any (itemHas alphabet set.foldCase point) != set.negated

end PointSet

/-- A set of texts. -/
inductive Pattern where
  /-- The empty text. -/
  | blank
  /-- One code point of a set. -/
  | one (set : PointSet)
  /-- A text of the first and then one of the second. -/
  | both (first second : Pattern)
  /-- A text of either. -/
  | either (first second : Pattern)
  /-- At least `least` and at most `most` texts of the body in a row. -/
  | repeated (body : Pattern) (least : Nat) (most : Option Nat)
  deriving DecidableEq, Repr

namespace Pattern

/-- Whether the empty text is in the set. -/
def nullable : Pattern → Bool
  | blank => true
  | one _ => false
  | both first second => first.nullable && second.nullable
  | either first second => first.nullable || second.nullable
  | repeated body least _ => least == 0 || body.nullable

/-- `first` and then `second`, without a blank in front. -/
def followedBy (second : Pattern) : Pattern → Pattern
  | blank => second
  | first => both first second

/-- What the rest of a text may match after its first code point. -/
def partials (alphabet : Alphabet) (point : CodePoint) : Pattern → List Pattern
  | blank => []
  | one set => if set.has alphabet point then [blank] else []
  | both first second =>
    (first.partials alphabet point).map (followedBy second) ++
      if first.nullable then second.partials alphabet point else []
  | either first second => first.partials alphabet point ++ second.partials alphabet point
  | repeated body least most =>
    if most = some 0 then []
    else (body.partials alphabet point).map
      (followedBy (repeated body (least - 1) (most.map fun most => most - 1)))

/-- What the rest of a text may match behind a code point, if it may match one of several patterns
in front of it. -/
def step (alphabet : Alphabet) (patterns : List Pattern) (point : CodePoint) : List Pattern :=
  (patterns.flatMap (partials alphabet point)).eraseDups

/-- Whether a whole text is in the set. -/
def accepts (pattern : Pattern) (alphabet : Alphabet) (points : Text) : Bool :=
  (points.foldl (step alphabet) [pattern]).any nullable

end Pattern

end Descent
