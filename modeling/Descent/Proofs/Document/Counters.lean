import Descent.Proofs.Document.Cursor
import Mathlib.Data.List.DropRight

/-!
# What the counters count

The three counters of a document's context, as facts about a text: how many line breaks it has, how
many characters stand behind the last of them, and how many containers are open at its end. The
last one depends on which brackets stand in strings, and so on a scan for quotes and backslashes.

`track`, which moves the line and the column of a cursor, agrees with the first two counts.
-/

namespace Descent

namespace CodePoint

/-- A character that belongs to a line break. -/
def isBreak (point : CodePoint) : Bool := point = lineFeed || point = carriageReturn

/-- A character that opens or closes neither a string nor a container. -/
def isUnmarked (point : CodePoint) : Bool := !(text "\"[]\x7b\x7d").contains point

end CodePoint

namespace Document

/-! ## Lines and columns -/

/-- How many line breaks a text has: a line feed is one, and so is a carriage return that no line
feed follows. -/
def lineBreaks : Text → Nat
  | [] => 0
  | point :: rest =>
    lineBreaks rest +
      if point = CodePoint.lineFeed ∨
        point = CodePoint.carriageReturn ∧ rest.head? ≠ some CodePoint.lineFeed then 1 else 0

/-- The characters of a text behind its last line break. -/
def lastLine (points : Text) : Text := points.rtakeWhile fun point => !point.isBreak

section Runs

variable {stops : CodePoint → Bool} {rest : Text}

/-- A text in which nothing stops a run from its end. -/
theorem rtakeWhile_of_free (free : rest.any stops = false) :
    rest.rtakeWhile (fun point => !stops point) = rest := by
  rw [List.rtakeWhile_eq_self_iff]
  intro point held
  rw [Bool.not_eq_true']
  exact Bool.eq_false_iff.mpr (List.any_eq_false.mp free point held)

/-- What stands in front of a text in which something stops the run is not in it. -/
theorem rtakeWhile_cons_of_any (found : rest.any stops) (point : CodePoint) :
    (point :: rest).rtakeWhile (fun point => !stops point) =
      rest.rtakeWhile fun point => !stops point := by
  obtain ⟨other, held, isStop⟩ := List.any_eq_true.mp found
  rw [List.rtakeWhile, List.reverse_cons, List.takeWhile_append, if_neg]
  · rfl
  · intro whole
    have free := List.takeWhile_eq_self_iff.mp
      ((List.takeWhile_prefix _).eq_of_length whole) other (List.mem_reverse.mpr held)
    rw [isStop] at free
    cases free

/-- Behind the last character that stops a run lies all of it. -/
theorem rtakeWhile_cons_of_stop {point : CodePoint} (isStop : stops point)
    (free : rest.any stops = false) :
    (point :: rest).rtakeWhile (fun point => !stops point) = rest := by
  have all : ∀ other ∈ rest.reverse, (!stops other) = true := by
    intro other held
    rw [Bool.not_eq_true']
    exact Bool.eq_false_iff.mpr (List.any_eq_false.mp free other (List.mem_reverse.mp held))
  rw [List.rtakeWhile, List.reverse_cons, List.takeWhile_append_of_pos all,
    List.takeWhile_cons_of_neg (by simp [isStop]), List.append_nil, List.reverse_reverse]

end Runs

/-- A text without breaks is one line. -/
theorem lastLine_of_unbroken {points : Text} (unbroken : points.any CodePoint.isBreak = false) :
    lastLine points = points :=
  rtakeWhile_of_free unbroken

/-- What stands in front of a text with breaks is not on its last line. -/
theorem lastLine_cons_of_broken {rest : Text} (broken : rest.any CodePoint.isBreak)
    (point : CodePoint) : lastLine (point :: rest) = lastLine rest :=
  rtakeWhile_cons_of_any broken point

/-- Behind a break that none follows lies the last line. -/
theorem lastLine_cons_of_isBreak {point : CodePoint} (isBreak : point.isBreak) {rest : Text}
    (unbroken : rest.any CodePoint.isBreak = false) : lastLine (point :: rest) = rest :=
  rtakeWhile_cons_of_stop isBreak unbroken

/-- The column behind a text, from the column in front of it. -/
def columnBehind (points : Text) (column : Int) : Int :=
  if points.any CodePoint.isBreak then 1 + ((lastLine points).length : Int)
  else column + points.length

/-- From the first column on, the column counts the characters of the last line. -/
theorem columnBehind_one (points : Text) :
    columnBehind points 1 = 1 + ((lastLine points).length : Int) := by
  unfold columnBehind
  split
  · rfl
  · next unbroken => rw [lastLine_of_unbroken (Bool.eq_false_iff.mpr unbroken)]

/-- A break moves to the first column. -/
theorem columnBehind_cons_of_isBreak {point : CodePoint} (isBreak : point.isBreak) (rest : Text)
    (column : Int) : columnBehind (point :: rest) column = columnBehind rest 1 := by
  unfold columnBehind
  rw [List.any_cons, isBreak, Bool.true_or, if_pos rfl]
  by_cases broken : rest.any CodePoint.isBreak
  · rw [if_pos broken, lastLine_cons_of_broken broken]
  · rw [if_neg broken, lastLine_cons_of_isBreak isBreak (Bool.eq_false_iff.mpr broken)]

/-- Every other character moves one column on. -/
theorem columnBehind_cons {point : CodePoint} (noBreak : point.isBreak = false) (rest : Text)
    (column : Int) : columnBehind (point :: rest) column = columnBehind rest (column + 1) := by
  unfold columnBehind
  rw [List.any_cons, noBreak, Bool.false_or]
  by_cases broken : rest.any CodePoint.isBreak
  · rw [if_pos broken, if_pos broken, lastLine_cons_of_broken broken]
  · rw [if_neg broken, if_neg broken, List.length_cons]
    omega

/-- Moving over a text counts its line breaks, and the characters of its last line. -/
theorem track_eq (points : Text) (line column : Int) :
    track points (line, column) = (line + lineBreaks points, columnBehind points column) := by
  induction points generalizing line column with
  | nil => simp [track, lineBreaks, columnBehind]
  | cons point rest inductionHypothesis =>
      rw [track, trackPoint, lineBreaks]
      by_cases halved : point = CodePoint.carriageReturn ∧ rest.head? = some CodePoint.lineFeed
      · -- The break is that of the line feed, which is still ahead.
        have broken : rest.any CodePoint.isBreak := by
          obtain ⟨others, rfl⟩ := List.head?_eq_some_iff.mp halved.2
          rfl
        have noBreak : ¬ (point = CodePoint.lineFeed ∨
            point = CodePoint.carriageReturn ∧ rest.head? ≠ some CodePoint.lineFeed) := by
          rw [halved.1, halved.2]
          decide
        rw [if_pos halved, if_neg noBreak, inductionHypothesis]
        simp [columnBehind, broken, lastLine_cons_of_broken broken]
      · rw [if_neg halved]
        by_cases isBreak : point.isBreak
        · have either : point = CodePoint.carriageReturn ∨ point = CodePoint.lineFeed := by
            simpa [CodePoint.isBreak, or_comm] using isBreak
          have counted : point = CodePoint.lineFeed ∨
              point = CodePoint.carriageReturn ∧ rest.head? ≠ some CodePoint.lineFeed := by
            rcases either with isReturn | isFeed
            · exact .inr ⟨isReturn, fun feed => halved ⟨isReturn, feed⟩⟩
            · exact .inl isFeed
          rw [if_pos either, if_pos counted, inductionHypothesis,
            columnBehind_cons_of_isBreak isBreak]
          simp only [Prod.mk.injEq, and_true]
          omega
        · have neither : ¬ (point = CodePoint.carriageReturn ∨ point = CodePoint.lineFeed) := by
            simpa [CodePoint.isBreak, or_comm] using isBreak
          have uncounted : ¬ (point = CodePoint.lineFeed ∨
              point = CodePoint.carriageReturn ∧ rest.head? ≠ some CodePoint.lineFeed) :=
            fun counted => neither (counted.symm.imp_left And.left)
          rw [if_neg neither, if_neg uncounted, inductionHypothesis,
            columnBehind_cons (Bool.eq_false_iff.mpr isBreak)]
          rfl

/-! ## Containers -/

/-- Where a text ends with regard to strings. -/
inductive Zone where
  | outside
  | inside
  /-- Inside a string, behind a backslash that takes the next character with it. -/
  | escaped
  deriving DecidableEq, Repr

namespace Zone

/-- The zone behind one more character. -/
def step : Zone → CodePoint → Zone
  | outside, point => if point = CodePoint.ofChar '"' then inside else outside
  | inside, point =>
    if point = CodePoint.ofChar '"' then outside
    else if point = CodePoint.ofChar '\\' then escaped
    else inside
  | escaped, _ => inside

/-- The zone behind a text. -/
def behind (zone : Zone) (points : Text) : Zone := points.foldl step zone

/-- The characters that stand outside of strings. -/
def visible : Zone → Text → Text
  | _, [] => []
  | outside, point :: rest => point :: visible (outside.step point) rest
  | zone, point :: rest => visible (zone.step point) rest

@[simp] theorem visible_nil (zone : Zone) : zone.visible [] = [] := by
  cases zone <;> rfl

theorem behind_append (zone : Zone) (first second : Text) :
    zone.behind (first ++ second) = (zone.behind first).behind second :=
  List.foldl_append

theorem visible_append (zone : Zone) (first second : Text) :
    zone.visible (first ++ second) = zone.visible first ++ (zone.behind first).visible second := by
  induction first generalizing zone with
  | nil => simp [behind]
  | cons point rest inductionHypothesis =>
      cases zone with
      | outside => exact congrArg (point :: ·) (inductionHypothesis _)
      | inside => exact inductionHypothesis _
      | escaped => exact inductionHypothesis _

end Zone

/-- How many more opening than closing brackets there are. -/
def balance (points : Text) : Int :=
  points.count (CodePoint.ofChar '[') + points.count (CodePoint.ofChar '\x7b') -
    points.count (CodePoint.ofChar ']') - points.count (CodePoint.ofChar '\x7d')

theorem balance_append (first second : Text) :
    balance (first ++ second) = balance first + balance second := by
  simp only [balance, List.count_append, Int.natCast_add]
  omega

/-- How many containers are open at the end of a text: the brackets that open one, less those that
close one, strings aside. -/
def openContainers (points : Text) : Int := balance (Zone.outside.visible points)

/-- A character without a mark leaves everything as it is. -/
theorem step_of_unmarked {point : CodePoint} (unmarked : point.isUnmarked) :
    Zone.outside.step point = .outside ∧ balance [point] = 0 := by
  simp only [CodePoint.isUnmarked, text, String.reduceToList, List.map_cons, List.map_nil,
    List.contains_eq_mem, List.mem_cons, List.not_mem_nil, or_false, Bool.not_eq_true',
    decide_eq_false_iff_not, Bool.decide_or, Bool.or_eq_false_iff] at unmarked
  obtain ⟨noQuote, noOpening, noClosing, noOpening', noClosing'⟩ := unmarked
  exact ⟨if_neg noQuote, by simp [balance, noOpening, noClosing, noOpening', noClosing']⟩

/-- Characters without a mark leave everything as it is. -/
theorem behind_of_unmarked {points : Text} (unmarked : ∀ point ∈ points, point.isUnmarked) :
    Zone.outside.behind points = .outside ∧ balance (Zone.outside.visible points) = 0 := by
  induction points with
  | nil => exact ⟨rfl, rfl⟩
  | cons point rest inductionHypothesis =>
      obtain ⟨stays, balanced⟩ := step_of_unmarked (unmarked point List.mem_cons_self)
      obtain ⟨sameZone, visible⟩ := inductionHypothesis fun other held =>
        unmarked other (List.mem_cons_of_mem point held)
      constructor
      · rw [Zone.behind, List.foldl_cons, stays]
        exact sameZone
      · rw [Zone.visible, stays, ← List.singleton_append, balance_append, balanced, visible]
        rfl

end Document

end Descent
