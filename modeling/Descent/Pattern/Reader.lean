import Descent.Pattern

/-!
# Reading patterns

The written form of patterns: characters, the point, sets in brackets, named sets after a
backslash, groups, bars and counts. A pattern that is not well formed is refused: brackets that do
not pair, a count with nothing in front of it or with another count in front of it, a count or a
range whose ends are in the wrong order, an unknown escape. Look-around, references to groups and
named groups are absent and refused as well. Anchors are read as the empty text, which is what they
amount to at the ends of a pattern that has to match a token as a whole.
-/

namespace Descent.Pattern

/-- How a written pattern is to be understood. -/
structure Flags where
  /-- Letters of either case count as one. -/
  foldCase : Bool
  /-- The point takes a line feed too. -/
  pointTakesAll : Bool
  deriving DecidableEq, Repr

namespace Reader

/-- What stands in front of a count. -/
inductive PieceKind where
  /-- Something that may be counted. -/
  | plain
  /-- Something that is counted already. -/
  | counted
  /-- The start or the end of the text. -/
  | anchor
  deriving DecidableEq, Repr

/-- A part of a branch. -/
structure Piece where
  pattern : Pattern
  kind : PieceKind

/-- The pieces of a branch, last one first, as one pattern. -/
def join (pieces : List Piece) : Pattern :=
  pieces.foldl (fun rest piece => if rest = .blank then piece.pattern else .both piece.pattern rest)
    .blank

/-- What a backslash and a character stand for. -/
inductive Escape where
  | point (point : CodePoint)
  | category (category : PointCategory) (inside : Bool)
  | anchor

/-- A character that an escape stands for. -/
def Escape.character (character : Char) : Escape := .point (CodePoint.ofChar character)

/-- The character with the given code point. -/
def isChar (character : Char) (point : CodePoint) : Bool := point = CodePoint.ofChar character

/-- The escapes by letter, outside brackets and inside them. -/
def escapes : List (Char × Escape) :=
  [('d', .category .digit true), ('D', .category .digit false), ('w', .category .word true),
    ('W', .category .word false), ('s', .category .space true), ('S', .category .space false),
    ('a', .character '\x07'), ('f', .character '\x0c'), ('n', .character '\n'),
    ('r', .character '\r'), ('t', .character '\t'), ('v', .character '\x0b'),
    ('0', .character '\x00')]

/-- The escape of a character; a letter or a digit has to have one, all else stands for itself. -/
def escape? (inBrackets : Bool) (point : CodePoint) : Option Escape :=
  match escapes.find? fun entry => isChar entry.1 point with
  | some entry => some entry.2
  | none =>
    if inBrackets && isChar 'b' point then some (.character '\x08')
    else if !inBrackets && (isChar 'A' point || isChar 'Z' point) then some .anchor
    else if point.isLetter || point.isDigit then none
    else some (.point point)

/-- The next code point or named set in brackets. -/
def setAtom : Text → Option (PointItem × Text)
  | [] => none
  | first :: rest =>
    if isChar '\\' first then
      match rest with
      | [] => none
      | escaped :: rest =>
        match escape? true escaped with
        | some (.point point) => some (.range point point, rest)
        | some (.category category inside) => some (.category category inside, rest)
        | _ => none
    else some (.range first first, rest)

/-- The range between two parts of a set. -/
def rangeOf : PointItem → PointItem → Option PointItem
  | .range low _, .range high _ => if low ≤ high then some (.range low high) else none
  | _, _ => none

/-- The next part of a set in brackets: a range if there is a dash and not the end behind it. -/
def setItem (input : Text) : Option (PointItem × Text) := do
  let (low, rest) ← setAtom input
  match rest with
  | dash :: next :: more =>
    if isChar '-' dash && !isChar ']' next then do
      let (high, rest) ← setAtom (next :: more)
      (rangeOf low high).map fun range => (range, rest)
    else some (low, rest)
  | _ => some (low, rest)

/-- The parts of a set up to its closing bracket; a closing bracket in front stands for itself. -/
def setItems : (fuel : Nat) → (atStart : Bool) → List PointItem → Text →
    Option (List PointItem × Text)
  | 0, _, _, _ => none
  | _ + 1, _, _, [] => none
  | fuel + 1, atStart, items, point :: rest =>
    if isChar ']' point && !atStart then some (items, rest)
    else do
      let (item, rest) ← setItem (point :: rest)
      setItems fuel false (item :: items) rest

/-- A set in brackets, from behind its opening bracket. -/
def pointSet (flags : Flags) (input : Text) : Option (PointSet × Text) :=
  let negated := match input with
    | first :: _ => isChar '^' first
    | [] => false
  let body := if negated then input.drop 1 else input
  (setItems (body.length + 1) true [] body).map fun (items, rest) =>
    ({ items, negated, foldCase := flags.foldCase }, rest)

/-- The bounds in braces, from behind the opening brace; `none` if no count stands there. -/
def bounds? (input : Text) : Option (Nat × Option Nat × Text) :=
  let low := input.takeWhile CodePoint.isDigit
  let least := Text.decimalValue low
  match input.dropWhile CodePoint.isDigit with
  | [] => none
  | point :: rest =>
    if isChar '\x7d' point then
      if low.isEmpty then none else some (least, some least, rest)
    else if isChar ',' point then
      let high := rest.takeWhile CodePoint.isDigit
      match rest.dropWhile CodePoint.isDigit with
      | [] => none
      | close :: rest =>
        if isChar '\x7d' close then
          some (least, if high.isEmpty then none else some (Text.decimalValue high), rest)
        else none
    else none

/-- The count that starts the input, if one does. -/
def count? : Text → Option (Nat × Option Nat × Text)
  | [] => none
  | point :: rest =>
    if isChar '*' point then some (0, none, rest)
    else if isChar '+' point then some (1, none, rest)
    else if isChar '?' point then some (0, some 1, rest)
    else if isChar '\x7b' point then bounds? rest
    else none

/-- The input behind the mark that makes a count take as little or give back nothing; which texts
match as a whole does not depend on it. -/
def skipMark : Text → Text
  | [] => []
  | point :: rest => if isChar '?' point || isChar '+' point then rest else point :: rest

/-- The pieces with the last one counted. -/
def counted (least : Nat) (most : Option Nat) : List Piece → Option (List Piece)
  | ⟨body, .plain⟩ :: pieces =>
    match most with
    | some bound =>
      if bound < least then none else some (⟨.repeated body least (some bound), .counted⟩ :: pieces)
    | none => some (⟨.repeated body least none, .counted⟩ :: pieces)
  | _ => none

/-- A single code point of a set with one part. -/
def single (flags : Flags) (item : PointItem) : Pattern :=
  .one { items := [item], negated := false, foldCase := flags.foldCase }

/-- What the point takes. -/
def anyPoint (flags : Flags) : Pattern :=
  .one {
    items := if flags.pointTakesAll then [] else [.range CodePoint.lineFeed CodePoint.lineFeed]
    negated := true
    foldCase := false }

/-- The inside of a group, behind the mark of a group that is not kept; other marks are refused. -/
def groupBody : Text → Option Text
  | first :: second :: rest =>
    if isChar '?' first then if isChar ':' second then some rest else none
    else some (first :: second :: rest)
  | [first] => if isChar '?' first then none else some [first]
  | [] => some []

/-- The piece that a backslash starts. -/
def escapedPiece (flags : Flags) : Text → Option (Piece × Text)
  | [] => none
  | point :: rest =>
    match escape? false point with
    | some (.point point) => some (⟨single flags (.range point point), .plain⟩, rest)
    | some (.category category inside) =>
      some (⟨single flags (.category category inside), .plain⟩, rest)
    | some .anchor => some (⟨.blank, .anchor⟩, rest)
    | none => none

/-- The piece that a character starts, and the input behind it; `group` reads the inside of a
group. -/
def nextPiece (flags : Flags) (group : Text → Option (Pattern × Text)) (point : CodePoint)
    (rest : Text) : Option (Piece × Text) :=
  if isChar '(' point then do
    let (body, rest) ← group (← groupBody rest)
    match rest with
    | [] => none
    | _ :: rest => some (⟨body, .plain⟩, rest)
  else if isChar '[' point then
    (pointSet flags rest).map fun (set, rest) => (⟨.one set, .plain⟩, rest)
  else if isChar '\\' point then escapedPiece flags rest
  else if isChar '.' point then some (⟨anyPoint flags, .plain⟩, rest)
  else if isChar '^' point || isChar '$' point then some (⟨.blank, .anchor⟩, rest)
  else some (⟨single flags (.range point point), .plain⟩, rest)

/-- The pieces with one more, or with a count for the last one, and the input behind. -/
def nextPieces (flags : Flags) (group : Text → Option (Pattern × Text)) (pieces : List Piece)
    (point : CodePoint) (rest : Text) : Option (List Piece × Text) :=
  match count? (point :: rest) with
  | some (least, most, rest) =>
    (counted least most pieces).map fun pieces => (pieces, skipMark rest)
  | none => (nextPiece flags group point rest).map fun (piece, rest) => (piece :: pieces, rest)

mutual

/-- Branches with bars between them, up to a closing bracket or the end. -/
def alternatives (flags : Flags) : (fuel : Nat) → Text → Option (Pattern × Text)
  | 0, _ => none
  | fuel + 1, input => do
    let (first, rest) ← branch flags fuel [] input
    match rest with
    | [] => some (first, [])
    | point :: more =>
      if isChar '|' point then
        (alternatives flags fuel more).map fun (others, rest) => (.either first others, rest)
      else some (first, point :: more)

/-- The rest of a branch behind the given pieces. -/
def branch (flags : Flags) : (fuel : Nat) → List Piece → Text → Option (Pattern × Text)
  | 0, _, _ => none
  | _ + 1, pieces, [] => some (join pieces, [])
  | fuel + 1, pieces, point :: rest =>
    if isChar '|' point || isChar ')' point then some (join pieces, point :: rest)
    else do
      let (pieces, rest) ← nextPieces flags (alternatives flags fuel) pieces point rest
      branch flags fuel pieces rest

end

end Reader

/-- The pattern that a text spells. Every call of the reader takes a code point or enters a branch,
so twice the length bounds them. -/
def read? (flags : Flags) (input : Text) : Option Pattern :=
  match Reader.alternatives flags (2 * input.length + 2) input with
  | some (pattern, []) => some pattern
  | _ => none

end Descent.Pattern
