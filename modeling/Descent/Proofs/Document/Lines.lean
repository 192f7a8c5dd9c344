import Descent.Proofs.Document.Counters

/-!
# Lines between line feeds

The lines of a text lie between its line feeds. A place cuts one of them in two: the characters of
the line in front of the place, and those from the place on. Which line that is, is told by the line
feeds in front of the place.

A carriage return is a character like any other here.
-/

namespace Descent

namespace Document

/-! ## The line of a place -/

/-- The characters of a line in front of a place, given all that lies before it. -/
def lineBefore (before : Text) : Text :=
  before.rtakeWhile fun point => !decide (point = CodePoint.lineFeed)

/-- The characters of a line from a place on, given all that lies ahead. -/
def lineBehind (rest : Text) : Text :=
  rest.takeWhile fun point => !decide (point = CodePoint.lineFeed)

/-- Whether a text has a line feed. -/
theorem any_feed_iff {points : Text} :
    points.any (fun point => decide (point = CodePoint.lineFeed)) ↔
      CodePoint.lineFeed ∈ points := by
  simp

/-- A text without line feeds is one line. -/
theorem lineBefore_of_free {points : Text} (free : CodePoint.lineFeed ∉ points) :
    lineBefore points = points :=
  rtakeWhile_of_free (Bool.eq_false_iff.mpr (mt any_feed_iff.mp free))

/-- Characters in front of a line feed do not belong to the line behind it. -/
theorem lineBefore_cons_of_mem {rest : Text} (held : CodePoint.lineFeed ∈ rest)
    (point : CodePoint) : lineBefore (point :: rest) = lineBefore rest :=
  rtakeWhile_cons_of_any (any_feed_iff.mpr held) point

/-- A line feed begins a line. -/
theorem lineBefore_feed_cons (rest : Text) :
    lineBefore (CodePoint.lineFeed :: rest) = lineBefore rest := by
  by_cases held : CodePoint.lineFeed ∈ rest
  · exact lineBefore_cons_of_mem held _
  · rw [lineBefore_of_free held]
    exact rtakeWhile_cons_of_stop (by simp) (Bool.eq_false_iff.mpr (mt any_feed_iff.mp held))

/-- A character that is no line feed belongs to the first line. -/
theorem exists_lines_cons {point : CodePoint} (noFeed : point ≠ CodePoint.lineFeed) (rest : Text) :
    ∃ first others, rest.lines = first :: others ∧
      Text.lines (point :: rest) = (point :: first) :: others := by
  have some : ∀ points : Text, points.lines ≠ [] := by
    intro points
    cases points with
    | nil => exact List.cons_ne_nil _ _
    | cons point rest =>
        rw [Text.lines]
        split
        · exact List.cons_ne_nil _ _
        · split <;> exact List.cons_ne_nil _ _
  obtain ⟨first, others, lines⟩ := List.exists_cons_of_ne_nil (some rest)
  exact ⟨first, others, lines, by rw [Text.lines, if_neg noFeed, lines]⟩

/-- The first line of a text. -/
theorem head?_lines (points : Text) : points.lines.head? = some (lineBehind points) := by
  induction points with
  | nil => rfl
  | cons point rest inductionHypothesis =>
      by_cases isFeed : point = CodePoint.lineFeed
      · simp [Text.lines, lineBehind, isFeed]
      · obtain ⟨first, others, lines, extended⟩ := exists_lines_cons isFeed rest
        rw [lines] at inductionHypothesis
        rw [extended, lineBehind, List.takeWhile_cons_of_pos (by simp [isFeed]), List.head?_cons,
          Option.some.inj inductionHypothesis]
        rfl

/-- How much a text takes up to the end of some lines, each with a line feed behind it. -/
def extent : List Text → Nat
  | [] => 0
  | line :: lines => line.length + 1 + extent lines

@[simp] theorem extent_nil : extent [] = 0 := rfl

@[simp] theorem extent_cons (line : Text) (lines : List Text) :
    extent (line :: lines) = line.length + 1 + extent lines := rfl

/-- Lines in a row extend as far as both groups of them. -/
theorem extent_append (first second : List Text) :
    extent (first ++ second) = extent first + extent second := by
  induction first with
  | nil => simp
  | cons line lines inductionHypothesis =>
      rw [List.cons_append, extent_cons, extent_cons, inductionHypothesis]
      omega

/-- The lines of a text are those above a place, the line that the place cuts in two, and those
below. There is a line above for each line feed in front of the place, and in front of it are the
lines above and the characters of its own line. -/
theorem exists_lines_append (before rest : Text) :
    ∃ above below,
      Text.lines (before ++ rest) = above ++ (lineBefore before ++ lineBehind rest) :: below ∧
        above.length = before.count CodePoint.lineFeed ∧
        extent above + (lineBefore before).length = before.length := by
  induction before with
  | nil =>
      obtain ⟨below, lines⟩ := List.head?_eq_some_iff.mp (head?_lines rest)
      exact ⟨[], below, lines, rfl, rfl⟩
  | cons point others inductionHypothesis =>
      obtain ⟨above, below, lines, counted, fills⟩ := inductionHypothesis
      by_cases isFeed : point = CodePoint.lineFeed
      · refine ⟨[] :: above, below, ?_, ?_, ?_⟩
        · rw [isFeed, lineBefore_feed_cons, List.cons_append, Text.lines, if_pos rfl, lines,
            List.cons_append]
        · rw [isFeed, List.length_cons, List.count_cons_self, counted]
        · rw [isFeed, lineBefore_feed_cons, extent_cons, List.length_nil, List.length_cons]
          omega
      · obtain ⟨first, more, same, extended⟩ := exists_lines_cons isFeed (others ++ rest)
        rw [lines] at same
        rw [List.cons_append, extended, List.count_cons_of_ne isFeed, ← counted]
        cases above with
        | nil =>
            -- The place is still on the first line, which gets longer.
            have free : CodePoint.lineFeed ∉ others := List.count_eq_zero.mp counted.symm
            have freeToo : CodePoint.lineFeed ∉ point :: others := by simp [Ne.symm isFeed, free]
            obtain ⟨rfl, rfl⟩ := List.cons.inj same
            refine ⟨[], below, ?_, rfl, ?_⟩
            · rw [lineBefore_of_free free, lineBefore_of_free freeToo]
              rfl
            · rw [lineBefore_of_free freeToo]
              exact Nat.zero_add _
        | cons top inner =>
            have held : CodePoint.lineFeed ∈ others :=
              List.count_pos_iff.mp (by rw [← counted, List.length_cons]; omega)
            obtain ⟨rfl, rfl⟩ := List.cons.inj same
            refine ⟨(point :: top) :: inner, below, ?_, rfl, ?_⟩
            · rw [lineBefore_cons_of_mem held]
              rfl
            · rw [lineBefore_cons_of_mem held, extent_cons, List.length_cons, List.length_cons]
              rw [extent_cons] at fills
              omega

/-- The line of a place is the one behind as many line feeds as there are before the place. -/
theorem getElem?_lines (before rest : Text) :
    (Text.lines (before ++ rest))[before.count CodePoint.lineFeed]? =
      some (lineBefore before ++ lineBehind rest) := by
  obtain ⟨above, below, lines, counted, -⟩ := exists_lines_append before rest
  rw [lines, ← counted, List.getElem?_append_right (Nat.le_refl _), Nat.sub_self]
  rfl

/-- The lines of a text take all of it, and a line feed that the last one does not have. -/
theorem extent_lines (points : Text) : extent points.lines = points.length + 1 := by
  induction points with
  | nil => rfl
  | cons point rest inductionHypothesis =>
      by_cases isFeed : point = CodePoint.lineFeed
      · rw [Text.lines, if_pos isFeed, extent_cons, inductionHypothesis, List.length_nil,
          List.length_cons]
        omega
      · obtain ⟨first, others, lines, extended⟩ := exists_lines_cons isFeed rest
        rw [lines, extent_cons] at inductionHypothesis
        rw [extended, extent_cons, List.length_cons, List.length_cons]
        omega

end Document

end Descent
