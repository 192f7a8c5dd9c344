import Descent.Value

/-!
# Source spans

A span is a stretch of a token sequence together with the line and column of its start. Its bounds
are part of the type, so a span that exists can be shown; `Span.make` says which bound a refused
one breaks.
-/

namespace Descent

/-- A stretch of tokens from `start` to before `stop`; line and column count from one. -/
structure Span where
  start : Int
  stop : Int
  line : Whole
  column : Whole
  start_nonneg : 0 ≤ start
  start_le_stop : start ≤ stop
  one_le_line : 1 ≤ line.toInt
  one_le_column : 1 ≤ column.toInt
  deriving DecidableEq, Repr

/-- The bound that a span would break. -/
inductive SpanFault where
  | startNegative (start : Int)
  | stopBeforeStart (stop start : Int)
  | lineBelowOne (line : Whole)
  | columnBelowOne (column : Whole)
  deriving DecidableEq, Repr

/-- The wording of a broken bound. -/
def SpanFault.message : SpanFault → Text
  | startNegative start => text "SourceSpan.start must be >= 0, got " ++ Text.ofInt start
  | stopBeforeStart stop start =>
    text "SourceSpan.end (" ++ Text.ofInt stop ++ text ") must be >= start (" ++
      Text.ofInt start ++ text ")"
  | lineBelowOne line => text "SourceSpan.line must be >= 1 (1-indexed), got " ++ line.text
  | columnBelowOne column =>
    text "SourceSpan.column must be >= 1 (1-indexed), got " ++ column.text

/-- The numbers that the wording of a broken bound names. -/
def SpanFault.numbers : SpanFault → List Int
  | startNegative start => [start]
  | stopBeforeStart stop start => [stop, start]
  | lineBelowOne line => [line.toInt]
  | columnBelowOne column => [column.toInt]

/-- The span with the given bounds, or the first bound it breaks: start, stop, line, column. -/
def Span.make (start stop : Int) (line column : Whole) : Except SpanFault Span :=
  if startNonneg : 0 ≤ start then
    if startLeStop : start ≤ stop then
      if oneLeLine : 1 ≤ line.toInt then
        if oneLeColumn : 1 ≤ column.toInt then
          .ok ⟨start, stop, line, column, startNonneg, startLeStop, oneLeLine, oneLeColumn⟩
        else .error (.columnBelowOne column)
      else .error (.lineBelowOne line)
    else .error (.stopBeforeStart stop start)
  else .error (.startNegative start)

/-- A span has the line and the column that it is made with. -/
theorem Span.place_of_make {start stop : Int} {line column : Whole} {span : Span}
    (made : Span.make start stop line column = .ok span) :
    span.line = line ∧ span.column = column := by
  unfold Span.make at made
  repeat' split at made
  all_goals cases made
  exact ⟨rfl, rfl⟩

end Descent
