import Descent.Proofs.Document.Lines
import Descent.State

/-!
# Offsets of a text and their places

A place of a text is a line and a column: one for each character of the line, and one behind the
last. The offset of a place is what the lines above take, with the line feeds behind them, and what
stands in front of the place on its own line.

Where the context does not know better, the location of a state is counted in the text. It is the
inverse of the offset: every offset up to the end of the text is that of one place only, and this
place is the location. So locations come in the order of their offsets, line by line, and none is
left out.
-/

namespace Descent

open Document

/-- A line and a column, both counted from one. -/
@[ext] structure Place where
  line : Nat
  column : Nat
  deriving DecidableEq, Repr

namespace Place

/-- The place as a location. -/
def location (place : Place) : Location := ⟨.int place.line, .int place.column⟩

/-- The text has the line, and the column is that of one of its characters or the one behind the
last of them. -/
structure IsIn (source : Text) (place : Place) : Prop where
  one_le_line : 1 ≤ place.line
  line_le : place.line ≤ source.lines.length
  one_le_column : 1 ≤ place.column
  column_le : place.column ≤ (source.lines.getD (place.line - 1) []).length + 1

/-- Where the place is in the text: behind the lines above, each with its line feed, and behind the
columns before it. -/
def offset (source : Text) (place : Place) : Nat :=
  extent (source.lines.take (place.line - 1)) + place.column - 1

/-- On an earlier line, or further left on the same one. -/
def Before (first second : Place) : Prop :=
  first.line < second.line ∨ first.line = second.line ∧ first.column < second.column

theorem location_inj {first second : Place} (same : first.location = second.location) :
    first = second := by
  simp only [location, Location.mk.injEq, Whole.int.injEq, Int.natCast_inj] at same
  exact Place.ext same.1 same.2

theorem before_or_before_of_ne {first second : Place} (differ : first ≠ second) :
    first.Before second ∨ second.Before first := by
  by_contra neither
  rw [Before, Before] at neither
  have sameLine : first.line = second.line := by omega
  have sameColumn : first.column = second.column := by omega
  exact differ (Place.ext sameLine sameColumn)

/-! ## The order of offsets -/

variable {source : Text} {first second place : Place}

/-- A place is a line of the text that is cut in two. -/
theorem IsIn.exists_lines (isIn : place.IsIn source) :
    ∃ above content below, source.lines = above ++ content :: below ∧
      place.line = above.length + 1 ∧ 1 ≤ place.column ∧ place.column ≤ content.length + 1 ∧
      place.offset source + 1 = extent above + place.column := by
  obtain ⟨oneLine, lineLe, oneColumn, columnLe⟩ := isIn
  have within : place.line - 1 < source.lines.length := by omega
  refine ⟨source.lines.take (place.line - 1), source.lines[place.line - 1],
    source.lines.drop (place.line - 1 + 1), ?_, ?_, oneColumn, ?_, ?_⟩
  · rw [List.getElem_cons_drop, List.take_append_drop]
  · rw [List.length_take]
    omega
  · rwa [List.getD_eq_getElem?_getD, List.getElem?_eq_getElem within, Option.getD_some]
      at columnLe
  · rw [offset]
    omega

/-- Lines in front of others take no more than all of them. -/
theorem extent_le_of_prefix {lines more : List Text} (begins : lines <+: more) :
    extent lines ≤ extent more := by
  obtain ⟨others, rfl⟩ := begins
  rw [extent_append]
  omega

/-- An earlier place has a smaller offset. -/
theorem offset_lt_offset (isIn : first.IsIn source) (isInToo : second.IsIn source)
    (before : first.Before second) : first.offset source < second.offset source := by
  obtain ⟨above, content, below, lines, line, -, columnLe, offset⟩ := isIn.exists_lines
  obtain ⟨above', content', below', lines', line', oneColumn', -, offset'⟩ := isInToo.exists_lines
  rcases before with earlier | ⟨sameLine, earlier⟩
  · -- The line of the first place is among those above the second.
    have whole : above ++ [content] <+: source.lines :=
      ⟨below, by rw [lines, List.append_assoc, List.singleton_append]⟩
    have begins : above ++ [content] <+: above' := by
      refine List.prefix_of_prefix_length_le whole ⟨content' :: below', lines'.symm⟩ ?_
      rw [List.length_append, List.length_singleton]
      omega
    have fits := extent_le_of_prefix begins
    rw [extent_append, extent_cons, extent_nil] at fits
    omega
  · have sameAbove : above = above' :=
      (List.append_inj (lines.symm.trans lines') (by omega)).1
    rw [sameAbove] at offset
    omega

/-- A place of a text is at an offset of the text. -/
theorem IsIn.offset_le (isIn : place.IsIn source) : place.offset source ≤ source.length := by
  obtain ⟨above, content, below, lines, -, -, columnLe, offset⟩ := isIn.exists_lines
  have whole := extent_lines source
  rw [lines, extent_append, extent_cons] at whole
  omega

/-- No two places have one offset. -/
theorem eq_of_offset_eq (isIn : first.IsIn source) (isInToo : second.IsIn source)
    (same : first.offset source = second.offset source) : first = second := by
  by_contra differ
  rcases before_or_before_of_ne differ with before | after
  · have less := offset_lt_offset isIn isInToo before
    omega
  · have less := offset_lt_offset isInToo isIn after
    omega

end Place

/-! ## Locations -/

/-- The place behind the first characters of a text. -/
def Place.behind (before : Text) : Place :=
  ⟨before.count CodePoint.lineFeed + 1, (lineBefore before).length + 1⟩

/-- The location of an offset is counted on what stands in front of it. -/
theorem Location.inText_eq_behind (before rest : Text) :
    inText (before ++ rest) before.length = (Place.behind before).location := by
  have place : min (before.length : Int) (before ++ rest).length = before.length := by
    rw [List.length_append]
    omega
  have clamped : clampIndex (before ++ rest).length before.length = before.length := by
    rw [clampIndex, if_neg (by omega), Int.toNat_natCast, List.length_append]
    omega
  have column : (before.reverse.takeWhile (· ≠ CodePoint.lineFeed)).length =
      (lineBefore before).length := by
    rw [lineBefore, List.rtakeWhile, List.length_reverse]
    simp
  simp only [inText, place, clamped, List.take_left, column, Place.location, Place.behind,
    Int.sub_self, Int.zero_add]
  rfl

/-- The place behind the first characters of a text is one of the text, with their number as its
offset. -/
theorem Place.isIn_behind (before rest : Text) :
    (behind before).IsIn (before ++ rest) ∧
      (behind before).offset (before ++ rest) = before.length := by
  obtain ⟨above, below, lines, counted, fills⟩ := exists_lines_append before rest
  have line : (behind before).line - 1 = above.length := counted.symm
  refine ⟨⟨Nat.le_add_left 1 _, ?_, Nat.le_add_left 1 _, ?_⟩, ?_⟩
  · rw [lines, List.length_append, List.length_cons]
    omega
  · rw [line, lines]
    simp [behind]
  · rw [offset, line, lines, List.take_left]
    exact fills

namespace State

variable {source : Text} {context : Value} {maxDigits : Nat}

/-- Where the context has no line and column, they are counted in the text. -/
theorem location_of_untracked (untracked : Location.ofContext? context = none) (pos : Int) :
    location ⟨.ofText source, pos, context, maxDigits⟩ =
      some (Location.inText source pos) := by
  simp [location, untracked, Tokens.ofText]

/-- Up to the end of the text the location is the place behind what stands in front of it. -/
theorem location_eq_behind (untracked : Location.ofContext? context = none) {pos : Nat}
    (within : pos ≤ source.length) :
    location ⟨.ofText source, pos, context, maxDigits⟩ =
      some (Place.behind (source.take pos)).location := by
  have counted := Location.inText_eq_behind (source.take pos) (source.drop pos)
  rw [List.take_append_drop, List.length_take_of_le within] at counted
  rw [location_of_untracked untracked, counted]

/-- Up to the end of the text the location is a place with the offset of the state. -/
theorem exists_place (untracked : Location.ofContext? context = none) {pos : Nat}
    (within : pos ≤ source.length) :
    ∃ place : Place,
      location ⟨.ofText source, pos, context, maxDigits⟩ = some place.location ∧
        place.IsIn source ∧ place.offset source = pos := by
  have placed := Place.isIn_behind (source.take pos) (source.drop pos)
  rw [List.take_append_drop, List.length_take_of_le within] at placed
  exact ⟨_, location_eq_behind untracked within, placed⟩

/-- The location that is counted in a text is the inverse of the offset. At every offset up to the
end it is the one place with this offset; so two offsets have different locations, the smaller one
the earlier, and every place of the text is the location of an offset. Behind the end the location
is that of the end. -/
theorem location_inverse (source : Text) (context : Value) (maxDigits : Nat)
    (untracked : Location.ofContext? context = none) :
    let locate (pos : Int) := location ⟨.ofText source, pos, context, maxDigits⟩
    (∀ pos : Nat, pos ≤ source.length → ∃ place : Place, locate pos = some place.location ∧
      ∀ other : Place, other.IsIn source ∧ other.offset source = pos ↔ other = place) ∧
    (∀ first second : Nat, first ≤ source.length → second ≤ source.length →
      locate first = locate second → first = second) ∧
    (∀ first second : Nat, first < second → second ≤ source.length →
      ∃ earlier later : Place, locate first = some earlier.location ∧
        locate second = some later.location ∧ earlier.Before later) ∧
    (∀ place : Place, place.IsIn source →
      ∃ pos : Nat, pos ≤ source.length ∧ locate pos = some place.location) ∧
    ∀ pos : Int, source.length ≤ pos → locate pos = locate source.length := by
  intro locate
  have placed : ∀ {pos : Nat}, pos ≤ source.length → ∃ place : Place,
      locate pos = some place.location ∧ place.IsIn source ∧ place.offset source = pos :=
    exists_place untracked
  refine ⟨?_, ?_, ?_, ?_, ?_⟩
  · intro pos within
    obtain ⟨place, located, isIn, offset⟩ := placed within
    refine ⟨place, located, fun other => ⟨fun placedToo => ?_, fun same => ?_⟩⟩
    · exact Place.eq_of_offset_eq placedToo.1 isIn (placedToo.2.trans offset.symm)
    · exact same ▸ ⟨isIn, offset⟩
  · intro first second within withinToo same
    obtain ⟨place, located, -, offset⟩ := placed within
    obtain ⟨other, locatedToo, -, offsetToo⟩ := placed withinToo
    have samePlace : place = other :=
      Place.location_inj (Option.some.inj (located.symm.trans (same.trans locatedToo)))
    rw [← offset, samePlace, offsetToo]
  · intro first second less within
    obtain ⟨earlier, located, isIn, offset⟩ := placed (Nat.le_trans (Nat.le_of_lt less) within)
    obtain ⟨later, locatedToo, isInToo, offsetToo⟩ := placed within
    refine ⟨earlier, later, located, locatedToo, ?_⟩
    have differ : earlier ≠ later := by
      rintro rfl
      omega
    refine (Place.before_or_before_of_ne differ).resolve_right fun after => ?_
    have more := Place.offset_lt_offset isInToo isIn after
    omega
  · intro place isIn
    obtain ⟨other, located, isInToo, offset⟩ := placed isIn.offset_le
    rw [Place.eq_of_offset_eq isInToo isIn offset] at located
    exact ⟨place.offset source, isIn.offset_le, located⟩
  · intro pos beyond
    have clamped : min pos (source.length : Int) = min (source.length : Int) source.length := by
      omega
    simp only [locate, location_of_untracked untracked, Location.inText, clamped]

/-- An empty line between two others, in a context that has a line and no column. -/
theorem location_inverse_empty_line :
    let source : Text := text "a\n\nb"
    let context : Value := .mapping [(.str (text "line"), .int 7)]
    let locate (pos : Int) := location { tokens := .ofText source, pos, context }
    Location.ofContext? context = none ∧
      (∀ place : Place, place.IsIn source ∧ place.offset source = 2 ↔ place = ⟨2, 1⟩) ∧
      locate 2 = some (Place.location ⟨2, 1⟩) ∧
      (∃ earlier later : Place, locate 1 = some earlier.location ∧
        locate 2 = some later.location ∧ earlier.Before later) ∧
      locate 9 = locate 4 := by
  intro source context locate
  have untracked : Location.ofContext? context = none := rfl
  obtain ⟨inverse, -, increasing, -, beyond⟩ := location_inverse source context _ untracked
  have second : locate 2 = some (Place.location ⟨2, 1⟩) := by decide
  obtain ⟨place, located, only⟩ := inverse 2 (by decide)
  have isSecond : place = ⟨2, 1⟩ :=
    Place.location_inj (Option.some.inj (located.symm.trans second))
  exact ⟨untracked, isSecond ▸ only, second, increasing 1 2 (by decide) (by decide),
    beyond 9 (by decide)⟩

end State

end Descent
