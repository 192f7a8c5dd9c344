import Descent.Proofs.Document.Excerpt
import Descent.Proofs.Location

/-!
# The window of lines around an error

An error in a text is shown with the lines around it. Each line is behind its number, from as many
lines above the error as were asked for to as many below, as far as the text has them. One further
row, right below the line of the error, has a caret under the character at the offset of the error,
or behind the last one if the offset is at the end of the line. A number may be wider than its
margin: the row of the caret gets wider with it.

The line and the column are those counted in the text. What a context says instead may point
anywhere.
-/

namespace Descent

open Document

namespace ParseError

/-! ## Numbered rows -/

/-- The row of a line: its number in at least four columns, a bar, and the line. -/
def numberedRow (source : Text) (number : Nat) : Text :=
  Text.padLeft 4 (Text.ofNat number) ++ text " | " ++ source.lines.getD (number - 1) []

/-- The rows of the lines from one number to another. -/
def numberedRows (source : Text) (first last : Nat) : List Text :=
  (List.range' first (last + 1 - first)).map (numberedRow source)

/-- The lines of a text with their numbers, by number. -/
theorem zipIdx_lines (source : Text) :
    source.lines.zipIdx 1 =
      (List.range' 1 source.lines.length).map fun number =>
        (source.lines.getD (number - 1) [], number) := by
  refine List.ext_getElem (by simp) fun index within _ => ?_
  rw [List.length_zipIdx] at within
  simp [List.getD_eq_getElem?_getD, List.getElem?_eq_getElem within, Nat.add_comm 1 index]

/-- Numbers from one to a second, and from there to a third. -/
theorem range'_append_of_le {low middle high : Nat} (lower : low ≤ middle)
    (upper : middle ≤ high) :
    List.range' low (middle - low) ++ List.range' middle (high - middle) =
      List.range' low (high - low) := by
  obtain ⟨width, rfl⟩ := Nat.exists_eq_add_of_le lower
  rw [Nat.add_sub_cancel_left, List.range'_append_1]
  congr 1
  omega

/-- What is made of the numbers inside of a window is made of the window. -/
theorem flatMap_window {low first next high : Nat} (lower : low ≤ first) (window : first ≤ next)
    (upper : next ≤ high) {shown : Nat → Bool} (rows : Nat → List Text)
    (inside : ∀ number, shown number ↔ first ≤ number ∧ number < next) :
    ((List.range' low (high - low)).flatMap fun number =>
      if shown number then rows number else []) =
      (List.range' first (next - first)).flatMap rows := by
  have hidden : ∀ {start width : Nat}, (start + width ≤ first ∨ next ≤ start) →
      ((List.range' start width).flatMap fun number =>
        if shown number then rows number else []) = [] := by
    intro start width apart
    refine List.flatMap_eq_nil_iff.mpr fun number held => if_neg ?_
    rw [List.mem_range'_1] at held
    rw [inside]
    omega
  have visible : ((List.range' first (next - first)).flatMap fun number =>
      if shown number then rows number else []) =
        (List.range' first (next - first)).flatMap rows := by
    refine List.flatMap_congr fun number held => if_pos ?_
    rw [List.mem_range'_1] at held
    rw [inside]
    omega
  rw [← range'_append_of_le (Nat.le_trans lower window) upper,
    ← range'_append_of_le lower window, List.flatMap_append, List.flatMap_append, visible,
    hidden (.inl (by omega)), hidden (.inr (Nat.le_refl _)), List.nil_append, List.append_nil]

section Rows

variable {location : Location} {line contextLines : Nat} {source : Text}
  (isLine : location.line.toInt = line)

include isLine

/-- The rows of a line by its number. Only the line of the error has a second one. -/
theorem sourceRows_eq (number : Nat) :
    sourceRows location number (source.lines.getD (number - 1) []) =
      numberedRow source number ::
        if number = line then [pointer line location.column.toInt] else [] := by
  rw [sourceRows, isLine]
  by_cases same : number = line
  · rw [if_pos (by rw [same]), if_pos same, same]
    rfl
  · rw [if_neg (by omega), if_neg same]
    rfl

/-- The rows of lines that are all above the error, or all below it. -/
theorem flatMap_sourceRows_of_ne {first width : Nat}
    (apart : first + width ≤ line ∨ line < first) :
    ((List.range' first width).flatMap fun number =>
      sourceRows location number (source.lines.getD (number - 1) [])) =
      (List.range' first width).map (numberedRow source) := by
  rw [← List.flatMap_pure_eq_map]
  refine List.flatMap_congr fun number held => ?_
  rw [List.mem_range'_1] at held
  rw [sourceRows_eq isLine, if_neg (by omega)]
  rfl

/-- An excerpt has the rows of the lines in its window. -/
theorem excerptRows_eq_flatMap (positive : 1 ≤ line) (within : line ≤ source.lines.length) :
    excerptRows location contextLines source =
      (List.range' (max 1 (line - contextLines))
        (min source.lines.length (line + contextLines) + 1 - max 1 (line - contextLines))).flatMap
          fun number => sourceRows location number (source.lines.getD (number - 1) []) := by
  simp only [excerptRows, excerptBounds, isLine, zipIdx_lines, List.flatMap_map]
  have low : 1 ≤ max 1 (line - contextLines) := by omega
  have high : min source.lines.length (line + contextLines) + 1 ≤ source.lines.length + 1 := by
    omega
  refine flatMap_window low (by omega) high _ fun number => ?_
  rw [Bool.and_eq_true, decide_eq_true_eq, decide_eq_true_eq]
  omega

/-- The rows of an excerpt: those up to the line of the error, the row of the caret, and those of
the lines below. -/
theorem excerptRows_eq (positive : 1 ≤ line) (within : line ≤ source.lines.length) :
    excerptRows location contextLines source =
      numberedRows source (max 1 (line - contextLines)) line ++
        pointer line location.column.toInt ::
          numberedRows source (line + 1) (min source.lines.length (line + contextLines)) := by
  have above : max 1 (line - contextLines) ≤ line := by omega
  have below : line + 1 ≤ min source.lines.length (line + contextLines) + 1 := by omega
  have here : List.range' line (line + 1 - line) = [line] := by simp
  rw [excerptRows_eq_flatMap isLine positive within, numberedRows, numberedRows,
    ← range'_append_of_le (Nat.le_succ_of_le above) below,
    ← range'_append_of_le above (Nat.le_succ line), here, List.flatMap_append,
    List.flatMap_append, flatMap_sourceRows_of_ne isLine (.inl (by omega)),
    flatMap_sourceRows_of_ne isLine (.inr (Nat.lt_succ_self line)), List.flatMap_singleton,
    sourceRows_eq isLine, if_pos rfl, List.map_append, List.append_assoc, List.append_assoc]
  rfl

end Rows

/-! ## The caret -/

/-- What is shown of an error in a text that has a location whose caret can be written. -/
theorem formatWithContext_of_location {error : ParseError} {source : Text} {location : Location}
    {contextLines : Int} (isText : error.state.tokens = .ofText source)
    (located : error.state.location = some location) (named : error.state.placeIsWritable)
    (fits : caretOverflows location contextLines source = false) :
    error.formatWithContext contextLines = .ok (Text.join (text "\n")
      ([error.format, []] ++ excerptRows location contextLines source)) := by
  simp only [formatWithContext, formatError, named, requireWritable_true, isText, located,
    Tokens.ofText, fits, Bool.false_eq_true, if_false, bind, Except.bind, pure, Except.pure]

/-- Line and column of a place in a text are no larger than the text is long. -/
theorem placeIsWritable_behind {state : State} {source before : Text}
    (isText : state.tokens = .ofText source)
    (located : state.location = some (Place.behind before).location) (begins : before <+: source) :
    state.placeIsWritable = true := by
  have size : state.tokens.size = source.length := by rw [isText]; rfl
  have short := begins.length_le
  have lines : before.count CodePoint.lineFeed ≤ before.length := List.count_le_length
  have columns : (lineBefore before).length ≤ before.length :=
    (List.rtakeWhile_suffix _ _).length_le
  rw [State.placeIsWritable, located]
  refine Bool.and_eq_true_iff.mpr ⟨State.writes_of_within ?_ ?_, State.writes_of_within ?_ ?_⟩ <;>
    simp only [Place.location, Place.behind, Whole.toInt] <;> omega

/-- The blanks in front of a caret are no more than the characters of the text. -/
theorem caretOverflows_behind {before : Text} {contextLines : Int} {source : Text}
    (begins : before <+: source) (writable : source.length < 0x8000000000000000) :
    caretOverflows (Place.behind before).location contextLines source = false := by
  have short : (lineBefore before).length ≤ source.length :=
    Nat.le_trans (List.rtakeWhile_suffix _ _).length_le begins.length_le
  have column : (Place.behind before).location.column.toInt = (lineBefore before).length + 1 := rfl
  have repeatable :
      isRepeatable ((Place.behind before).location.column.toInt - 1) = true := by
    rw [isRepeatable, column, Bool.and_eq_true, decide_eq_true_eq, decide_eq_true_eq]
    omega
  simp [caretOverflows, repeatable]

/-- An error at an offset of a text, where the context has no line and column, is shown with as many
lines as were asked for: the lines from the first to that of the error, the row of the caret, and
the lines up to the last. The caret stands behind as many characters as the row of the line shows in
front of the offset. What a row shows from the offset on is the rest of the line, and nothing where
the line ends there. The length of the text is a machine word, as that of any text in memory. -/
theorem formatWithContext_eq (error : ParseError) (source : Text)
    (isText : error.state.tokens = .ofText source)
    (untracked : Location.ofContext? error.state.context = none)
    (nonneg : 0 ≤ error.state.pos) (within : error.state.pos ≤ source.length)
    (writable : source.length < 0x8000000000000000) (contextLines : Nat) :
    ∃ (place : Place) (margin caret : Text),
      error.state.location = some place.location ∧
      error.formatWithContext contextLines = .ok (Text.join (text "\n")
        ([error.format, []] ++
          (numberedRows source (max 1 (place.line - contextLines)) place.line ++
            caret ::
              numberedRows source (place.line + 1)
                (min source.lines.length (place.line + contextLines))))) ∧
      numberedRow source place.line =
        margin ++ lineBehind (source.drop error.state.pos.toNat) ∧
      Points caret margin.length := by
  obtain ⟨pos, atPos⟩ := Int.eq_ofNat_of_zero_le nonneg
  rw [atPos, Int.ofNat_le] at within
  let before := source.take pos
  let place := Place.behind before
  have located : error.state.location = some place.location := by
    have state : error.state =
        ⟨.ofText source, pos, error.state.context, error.state.maxDigits⟩ := by
      rw [← isText, ← atPos]
    rw [state]
    exact State.location_eq_behind untracked within
  have isIn : place.IsIn source := by
    have isIn := (Place.isIn_behind before (source.drop pos)).1
    rwa [List.take_append_drop] at isIn
  have named : error.state.placeIsWritable = true :=
    placeIsWritable_behind isText located (List.take_prefix pos source)
  refine ⟨place, gutter place.line ++ lineBefore before, pointer place.line place.column, located,
    ?_, ?_, ?_⟩
  · rw [formatWithContext_of_location isText located named
      (caretOverflows_behind (List.take_prefix pos source) writable)]
    exact congrArg (fun rows => Except.ok (Text.join (text "\n") ([error.format, []] ++ rows)))
      (excerptRows_eq rfl isIn.one_le_line isIn.line_le)
  · have line := getElem?_lines before (source.drop pos)
    rw [List.take_append_drop] at line
    have content : source.lines[place.line - 1]? =
        some (lineBefore before ++ lineBehind (source.drop pos)) := line
    rw [atPos, Int.toNat_natCast, numberedRow, List.getD_eq_getElem?_getD, content,
      Option.getD_some]
    exact (List.append_assoc _ _ _).symm
  · rw [List.length_append]
    exact points_pointer place.line _

/-- The end of a line between others. -/
theorem formatWithContext_eq_line_end :
    let error : ParseError :=
      { message := text "x expected"
        state := { tokens := .ofText (text "ab\ncd\nef\ngh"), pos := 5 } }
    ∃ caret, error.formatWithContext 1 = .ok (Text.join (text "\n")
        [error.format, [], text "   1 | ab", text "   2 | cd", caret, text "   3 | ef"]) ∧
      Points caret (text "   2 | cd").length := by
  intro error
  obtain ⟨place, margin, caret, located, shown, row, points⟩ :=
    formatWithContext_eq error (text "ab\ncd\nef\ngh") rfl rfl (by decide) (by decide) (by decide) 1
  have second : error.state.location = some (Place.location ⟨2, 3⟩) := by decide
  obtain rfl : place = ⟨2, 3⟩ :=
    Place.location_inj (Option.some.inj (located.symm.trans second))
  have whole : text "   2 | cd" = margin := by
    rw [← List.append_nil margin]
    exact row
  exact ⟨caret, shown, whole ▸ points⟩

end ParseError

end Descent
