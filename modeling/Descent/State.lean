import Descent.Fault
import Descent.Value.Field
import Descent.Value.Render

/-!
# Parse states

A state is a place in a token sequence together with a context that the grammar carries along. The
sequence is shared by all states of a run; moving on changes only the place. A place may lie before
the sequence or past its end: reads count a negative index from the end, and slices are clamped.

Line and column come from the context if it holds both as whole numbers, and are counted in the
text otherwise; a token list without such a context has no location.

A message about a state names places and shows tokens. Numbers with too many digits are not written:
where a message would name one, there is a fault instead.
-/

namespace Descent

/-- A sequence of tokens: the characters of a text, or arbitrary values. -/
inductive Tokens where
  | text (points : Array CodePoint)
  | items (values : Array Value)
  deriving Inhabited

namespace Tokens

/-- The tokens of a text. -/
def ofText (points : Text) : Tokens := .text points.toArray

/-- How many tokens there are. -/
def size : Tokens → Nat
  | text points => points.size
  | items values => values.size

/-- The token at a place inside the sequence. -/
def get? (index : Nat) : Tokens → Option Value
  | text points => points[index]?.map Value.ofCodePoint
  | items values => values[index]?

/-- The tokens in order. -/
def toList : Tokens → List Value
  | text points => points.toList.map Value.ofCodePoint
  | items values => values.toList

/-- The token at an index; a negative index counts from the end. -/
def fetch (index : Int) (tokens : Tokens) : Except Fault Value :=
  let place := if index < 0 then index + tokens.size else index
  if place < 0 then .error .indexOutOfRange
  else match tokens.get? place.toNat with
    | none => .error .indexOutOfRange
    | some token => .ok token

/-- The tokens from `start` to before `stop`; negative bounds count from the end. -/
def slice (start stop : Int) : Tokens → Tokens
  | text points =>
    text (points.extract (clampIndex points.size start) (clampIndex points.size stop))
  | items values =>
    items (values.extract (clampIndex values.size start) (clampIndex values.size stop))

/-- The tokens from `start` on. -/
def dropTo (start : Int) (tokens : Tokens) : Tokens := tokens.slice start tokens.size

/-- A token sequence as a value: a text, or a list. -/
def toValue : Tokens → Value
  | text points => .str points.toList
  | items values => .list values.toList

/-- How tokens are shown in messages: a text as it is, other tokens with spaces between them. -/
def display : Tokens → Text
  | text points => points.toList
  | items values => Text.join (Descent.text " ") (values.toList.map Value.display)

/-- Whether every number in the tokens may be written. -/
def areWritable (maxDigits : Nat) : Tokens → Bool
  | text _ => true
  | items values => Value.areWritable maxDigits values.toList

/-- Writable tokens stay so when some of them are taken. -/
theorem areWritable_slice {maxDigits : Nat} {tokens : Tokens}
    (written : tokens.areWritable maxDigits) (start stop : Int) :
    (tokens.slice start stop).areWritable maxDigits := by
  cases tokens with
  | text points => rfl
  | items values =>
      refine Value.areWritable_iff.mpr fun value taken => ?_
      refine Value.areWritable_iff.mp written value ?_
      rw [Array.toList_extract, List.extract_eq_take_drop] at taken
      exact List.mem_of_mem_drop (List.mem_of_mem_take taken)

/-- Each of the writable tokens may be written. -/
theorem isWritable_of_get? {maxDigits index : Nat} {tokens : Tokens} {token : Value}
    (written : tokens.areWritable maxDigits) (found : tokens.get? index = some token) :
    token.isWritable maxDigits := by
  cases tokens with
  | text points =>
      obtain ⟨point, -, rfl⟩ := Option.map_eq_some_iff.mp found
      rfl
  | items values =>
      exact Value.areWritable_iff.mp written token (Array.mem_toList_iff.mpr
        (Array.mem_of_getElem? found))

end Tokens

/-- A place in a token sequence, with a context. -/
structure State where
  tokens : Tokens
  pos : Int := 0
  context : Value := .none
  /-- The most digits that are written of a number; zero stands for no limit. It is a setting of the
  interpreter that runs the rules, and the same for all states of a run. -/
  maxDigits : Nat := Text.standardMaxDigits
  deriving Inhabited

/-- A line and a column, both counted from one. -/
structure Location where
  line : Whole
  column : Whole
  deriving DecidableEq, Repr

namespace Location

/-- The location of an offset in a text. The line is one more than the number of line feeds before
the offset, and the column one more than the distance to the last of them. -/
def inText (points : Text) (pos : Int) : Location :=
  let place := min pos points.length
  let before := points.take (clampIndex points.length place)
  let sinceBreak := (before.reverse.takeWhile (· ≠ CodePoint.lineFeed)).length
  { line := .int (before.count CodePoint.lineFeed + 1)
    column := .int (place - before.length + sinceBreak + 1) }

/-- The location that a context holds in its fields for line and column. -/
def ofContext? (context : Value) : Option Location := do
  let line ← (← context.field? (text "line")).whole?
  let column ← (← context.field? (text "column")).whole?
  some { line, column }

end Location

namespace State

/-- How many tokens a preview shows. -/
def previewLimit : Int := 20

/-- The first state of a text whose context tracks line and column. -/
def forText (tokens : Tokens) : State where
  tokens := tokens
  context := .record .position [.int 1, .int 1]

/-- Whether every token has been consumed. -/
def atEnd (state : State) : Bool := state.tokens.size ≤ state.pos

/-- Whether a number may be written in a message about the state. Places in the tokens and right
behind them always may. -/
def writes (state : State) (number : Int) : Bool :=
  Text.isWritable state.maxDigits (state.tokens.size + 1) number

/-- Places in the tokens and right behind them may be written. -/
theorem writes_of_within {state : State} {number : Int} (nonneg : 0 ≤ number)
    (within : number ≤ state.tokens.size + 1) : state.writes number = true :=
  Text.isWritable_of_le (by omega)

/-- The next token. -/
def current (state : State) : Except Fault Value :=
  if state.atEnd then .error (Fault.naming (.endOfInput state.pos) (state.writes state.pos))
  else state.tokens.fetch state.pos

/-- The tokens that are left, as a value. -/
def remainder (state : State) : Value := (state.tokens.dropTo state.pos).toValue

/-- The token `offset` places on, or `none` past the end. -/
def peek (state : State) (offset : Int) : Except Fault Value :=
  if state.tokens.size ≤ state.pos + offset then .ok .none
  else state.tokens.fetch (state.pos + offset)

/-- The state `count` tokens on, at the end of the input at most. -/
def forward (state : State) (count : Nat) : State :=
  { state with pos := min (state.pos + count) state.tokens.size }

/-- The state `count` tokens on; a negative count is refused. -/
def advance (state : State) (count : Int) : Except Fault State :=
  if count < 0 then .error (Fault.naming (.negativeAdvance count) (state.writes count))
  else .ok (state.forward count.toNat)

/-- The state at the same place with another context. -/
def withContext (state : State) (context : Value) : State := { state with context }

/-- Whether two states stand at the same place with equal contexts. -/
def samePosition (first second : State) : Bool :=
  first.pos == second.pos && first.context.same second.context

/-- Line and column of the place, where they are known. -/
def location (state : State) : Option Location :=
  match Location.ofContext? state.context, state.tokens with
  | some location, _ => some location
  | none, .text points => some (Location.inText points.toList state.pos)
  | none, .items _ => none

/-- The span from the place to `stop`, or of the place alone; lines and columns below one count as
one. -/
def span (state : State) (stop : Option Int) : Except Fault (Option Span) :=
  match state.location with
  | none => .ok none
  | some location =>
    let bounded := match stop with
      | none => state.pos
      | some stop => max stop state.pos
    match Span.make state.pos bounded (location.line.atLeast 1) (location.column.atLeast 1) with
    | .ok span => .ok (some span)
    | .error fault => .error (Fault.naming (.badSpan fault) (fault.numbers.all state.writes))

/-- From a place that is not negative and has a location, a span can be made. -/
theorem exists_span_of_location {state : State} {location : Location} (nonneg : 0 ≤ state.pos)
    (located : state.location = some location) : ∃ span, state.span none = .ok (some span) := by
  have line := location.line.le_toInt_atLeast 1
  have column := location.column.le_toInt_atLeast 1
  refine ⟨⟨state.pos, state.pos, _, _, nonneg, Int.le_refl _, line, column⟩, ?_⟩
  simp only [span, located, Span.make, nonneg, Int.le_refl, line, column, dite_true]

/-- From a place before the sequence that has a location, no span can be made. -/
theorem span_of_neg {state : State} {location : Location} (neg : state.pos < 0)
    (located : state.location = some location) :
    state.span none =
      .error (Fault.naming (.badSpan (.startNegative state.pos)) (state.writes state.pos)) := by
  have before : ¬ 0 ≤ state.pos := Int.not_le.mpr neg
  simp only [span, located, Span.make, before, dite_false, SpanFault.numbers, List.all_cons,
    List.all_nil, Bool.and_true]

/-- From a place that is not negative a span can always be made. -/
theorem exists_span {state : State} (nonneg : 0 ≤ state.pos) :
    ∃ span, state.span none = .ok span := by
  cases located : state.location with
  | none => exact ⟨none, by simp only [span, located]⟩
  | some location =>
    obtain ⟨span, made⟩ := exists_span_of_location nonneg located
    exact ⟨some span, made⟩

/-- Whether the place can be named in a message: line and column, or the offset where they are
unknown. -/
def placeIsWritable (state : State) : Bool :=
  match state.location with
  | none => state.writes state.pos
  | some location => state.writes location.line.toInt && state.writes location.column.toInt

/-- Where line and column can be named, those of a span can be. -/
theorem writes_atLeast_one {state : State} {number : Whole}
    (written : state.writes number.toInt) : state.writes (number.atLeast 1).toInt := by
  unfold Whole.atLeast
  split
  · exact writes_of_within (by decide) (by show (1 : Int) ≤ _; omega)
  · exact written

/-- Up to `limit` of the tokens that are left. -/
def ahead (state : State) (limit : Int) : Tokens :=
  state.tokens.slice state.pos (state.pos + limit)

/-- Up to `limit` of the tokens that are left, as they are shown in messages. -/
def preview (state : State) (limit : Int) : Option Text :=
  if state.atEnd then none else some (state.ahead limit).display

/-- Whether the preview can be written. -/
def previewIsWritable (state : State) (limit : Int) : Bool :=
  state.atEnd || (state.ahead limit).areWritable state.maxDigits

/-- The state as a product. -/
def snapshot (state : State) : Value :=
  .record .snapshot [.int state.pos, state.context, state.remainder]

end State

end Descent
