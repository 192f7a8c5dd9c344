import Mathlib.Data.List.Chain
import Descent.Proofs.Document.Lines
import Descent.Proofs.Document.ReadBack
import Descent.Proofs.Document.Tracking
import Descent.Proofs.Document.ViablePrefix

/-!
# Where the caret of an excerpt stands

The excerpt below a parse error numbers the lines between line feeds, while the line and the column
of the error count every line break, a carriage return on its own among them. The two agree as long
as each carriage return in front of the place stands before a line feed: then the caret is in the
row under the line that holds the place, under the character there. Behind a carriage return that
stands alone the error has the number of a later line, and the caret is under that one or missing.

Nothing is said here about lines other than the one with the place, nor about the row of the
message, which may have line breaks of its own.
-/

namespace Descent

namespace Document

/-! ## Carriage returns on their own -/

/-- A text has a carriage return that no line feed follows. -/
def LoneReturn (points : Text) : Prop :=
  ∃ before behind, points = before ++ CodePoint.carriageReturn :: behind ∧
    behind.head? ≠ some CodePoint.lineFeed

theorem loneReturn_cons_iff {point : CodePoint} {rest : Text} :
    LoneReturn (point :: rest) ↔
      (point = CodePoint.carriageReturn ∧ rest.head? ≠ some CodePoint.lineFeed) ∨
        LoneReturn rest := by
  constructor
  · rintro ⟨before, behind, spelled, alone⟩
    cases before with
    | nil =>
        obtain ⟨rfl, rfl⟩ := List.cons.inj spelled
        exact .inl ⟨rfl, alone⟩
    | cons first others => exact .inr ⟨others, behind, (List.cons.inj spelled).2, alone⟩
  · rintro (⟨rfl, alone⟩ | ⟨before, behind, rfl, alone⟩)
    · exact ⟨[], rest, rfl, alone⟩
    · exact ⟨point :: before, behind, rfl, alone⟩

theorem not_loneReturn_nil : ¬ LoneReturn [] := fun ⟨_, _, spelled, _⟩ =>
  List.append_ne_nil_of_right_ne_nil _ (by simp) spelled.symm

instance LoneReturn.decidable : (points : Text) → Decidable (LoneReturn points)
  | [] => .isFalse not_loneReturn_nil
  | _ :: rest =>
    haveI := LoneReturn.decidable rest
    decidable_of_iff' _ loneReturn_cons_iff

/-- There are at least as many line breaks as line feeds, and more of them exactly if a carriage
return stands alone. -/
theorem lineBreaks_count (points : Text) :
    (¬ LoneReturn points → lineBreaks points = points.count CodePoint.lineFeed) ∧
      (LoneReturn points → points.count CodePoint.lineFeed < lineBreaks points) := by
  induction points with
  | nil => exact ⟨fun _ => rfl, fun lone => absurd lone not_loneReturn_nil⟩
  | cons point rest inductionHypothesis =>
      obtain ⟨ofPaired, ofLone⟩ := inductionHypothesis
      have atLeast : rest.count CodePoint.lineFeed ≤ lineBreaks rest := by
        by_cases lone : LoneReturn rest
        · exact Nat.le_of_lt (ofLone lone)
        · exact Nat.le_of_eq (ofPaired lone).symm
      have apart : CodePoint.carriageReturn ≠ CodePoint.lineFeed := by decide
      rw [loneReturn_cons_iff, lineBreaks, List.count_cons]
      grind

/-- A text without line feeds has no line break at all unless a carriage return stands alone. -/
theorem unbroken_of_paired {points : Text} (paired : ¬ LoneReturn points)
    (free : CodePoint.lineFeed ∉ points) : points.any CodePoint.isBreak = false := by
  rw [List.any_eq_false]
  intro point held
  rw [CodePoint.isBreak, Bool.or_eq_true, decide_eq_true_eq, decide_eq_true_eq]
  rintro (rfl | rfl)
  · exact free held
  · obtain ⟨before, behind, rfl⟩ := List.append_of_mem held
    refine paired ⟨before, behind, rfl, fun feed => free ?_⟩
    exact List.mem_append_right _ (List.mem_cons_of_mem _ (List.mem_of_head? feed))

/-- Without lone carriage returns the last line is the one behind the last line feed. -/
theorem lastLine_eq_lineBefore {points : Text} (paired : ¬ LoneReturn points) :
    lastLine points = lineBefore points := by
  induction points with
  | nil => rfl
  | cons point rest inductionHypothesis =>
      rw [loneReturn_cons_iff, not_or] at paired
      by_cases held : CodePoint.lineFeed ∈ rest
      · have broken : rest.any CodePoint.isBreak :=
          List.any_eq_true.mpr ⟨_, held, by decide⟩
        rw [lastLine_cons_of_broken broken, lineBefore_cons_of_mem held,
          inductionHypothesis paired.2]
      · have unbroken := unbroken_of_paired paired.2 held
        by_cases isFeed : point = CodePoint.lineFeed
        · rw [isFeed, lastLine_cons_of_isBreak (by decide) unbroken, lineBefore_feed_cons,
            lineBefore_of_free held]
        · have noFeed : rest.head? ≠ some CodePoint.lineFeed :=
            fun feed => held (List.mem_of_head? feed)
          have noReturn : point ≠ CodePoint.carriageReturn := fun isReturn =>
            paired.1 ⟨isReturn, noFeed⟩
          rw [lastLine_of_unbroken, lineBefore_of_free]
          · simp [Ne.symm isFeed, held]
          · simp [CodePoint.isBreak, isFeed, noReturn, unbroken]

/-! ## Rows -/

/-- The number at the front of a row of an excerpt; zero if there is none. -/
def rowNumber (row : Text) : Nat :=
  Text.decimalValue ((row.dropWhile fun point => point = CodePoint.ofChar ' ').takeWhile
    CodePoint.isDigit)

/-- The row of a source line has the number of the line. -/
theorem rowNumber_gutter (number : Nat) (content : Text) :
    rowNumber (ParseError.gutter number ++ content) = number := by
  let digits : Digits := ⟨Text.ofNat number, Text.ofNat_ne_nil number, fun _ =>
    Text.isDigit_of_mem_ofNat⟩
  have spelled : ParseError.gutter number ++ content =
      List.replicate (4 - digits.val.length) (CodePoint.ofChar ' ') ++
        (digits.val ++ (text " | " ++ content)) := by
    simp [ParseError.gutter, Text.padLeft, digits]
  have dropped : (digits.val ++ (text " | " ++ content)).dropWhile
      (fun point => point = CodePoint.ofChar ' ') = digits.val ++ (text " | " ++ content) := by
    obtain ⟨digit, others, first, isDigit⟩ := Digits.exists_head digits
    rw [first, List.cons_append, List.dropWhile_cons_of_neg]
    intro isSpace
    rw [of_decide_eq_true isSpace] at isDigit
    exact absurd isDigit (by decide)
  rw [rowNumber, spelled, List.dropWhile_append_of_pos (by simp), dropped,
    takeWhile_digits digits, Text.decimalValue_ofNat]
  rintro point ahead
  cases ahead
  decide

/-- The caret of a row stands behind so many characters, which are blanks but for the bar. -/
def Points (row : Text) (width : Nat) : Prop :=
  ∃ margin : Text, row = margin ++ [CodePoint.ofChar '^'] ∧ margin.length = width ∧
    ∀ point ∈ margin, point = CodePoint.ofChar ' ' ∨ point = CodePoint.ofChar '|'

/-- A row with a caret has no number. -/
theorem Points.rowNumber_eq_zero {row : Text} {width : Nat} (points : Points row width) :
    rowNumber row = 0 := by
  obtain ⟨margin, rfl, -, blank⟩ := points
  have noDigit : ∀ point ∈ margin ++ [CodePoint.ofChar '^'], ¬ point.isDigit := by
    intro point held
    rcases List.mem_append.mp held with inMargin | isCaret
    · rcases blank point inMargin with rfl | rfl
      · decide
      · decide
    · rw [List.mem_singleton.mp isCaret]
      decide
  rw [rowNumber]
  cases visible : (margin ++ [CodePoint.ofChar '^']).dropWhile
      (fun point => point = CodePoint.ofChar ' ') with
  | nil => rfl
  | cons point others =>
      have held : point ∈ margin ++ [CodePoint.ofChar '^'] :=
        (List.dropWhile_suffix _).subset (visible ▸ List.mem_cons_self)
      rw [List.takeWhile_cons_of_neg (noDigit point held)]
      rfl

/-- The caret under a column, seen from the end of the number and its bar. -/
theorem points_pointer (number column : Nat) :
    Points (ParseError.pointer number (column + 1))
      ((ParseError.gutter number).length + column) := by
  have wide : 2 ≤ (ParseError.gutter number).length := by
    simp [ParseError.gutter, text]
  refine ⟨List.replicate ((ParseError.gutter number).length - 2) (CodePoint.ofChar ' ') ++
    text "| " ++ List.replicate column (CodePoint.ofChar ' '), ?_, ?_, ?_⟩
  · simp [ParseError.pointer, text]
  · simp [text]
    omega
  · intro point held
    simp only [text, String.reduceToList, List.map_cons, List.map_nil, List.mem_append,
      List.mem_replicate, List.mem_cons, List.not_mem_nil, or_false] at held
    grind

section Rows

variable (location : Location)

/-- A row without a number follows only the row of the line of the error. -/
def Follows (row next : Text) : Prop :=
  rowNumber next = 0 → (rowNumber row : Int) = location.line.toInt

/-- The rows of one source line: the first has its number, and a caret follows only where the error
is. -/
theorem isChain_sourceRows {number : Nat} (positive : 0 < number) (content : Text) :
    (ParseError.sourceRows location number content).IsChain (Follows location) ∧
      ∀ first ∈ (ParseError.sourceRows location number content).head?, 0 < rowNumber first := by
  unfold ParseError.sourceRows
  split
  · next isLine =>
      refine ⟨List.isChain_pair.mpr fun _ => ?_, ?_⟩
      · rw [rowNumber_gutter, isLine]
      · rintro _ ⟨⟩
        rwa [rowNumber_gutter]
  · refine ⟨List.isChain_singleton _, ?_⟩
    rintro _ ⟨⟩
    rwa [rowNumber_gutter]

/-- The rows of any source lines. -/
theorem isChain_rows {numbered : List (Text × Nat)} (positive : ∀ line ∈ numbered, 0 < line.2)
    (shows : Text × Nat → Bool) :
    let rows := numbered.flatMap fun line =>
      if shows line then ParseError.sourceRows location line.2 line.1 else []
    rows.IsChain (Follows location) ∧ ∀ first ∈ rows.head?, 0 < rowNumber first := by
  induction numbered with
  | nil => simp
  | cons line others inductionHypothesis =>
      obtain ⟨chain, begins⟩ := inductionHypothesis fun other held =>
        positive other (List.mem_cons_of_mem _ held)
      obtain ⟨lineChain, lineBegins⟩ := isChain_sourceRows location
        (positive line List.mem_cons_self) line.1
      dsimp only
      rw [List.flatMap_cons]
      split
      · refine ⟨List.isChain_append.mpr ⟨lineChain, chain, ?_⟩, ?_⟩
        · intro row _ next isNext unnumbered
          have numbered := begins next isNext
          omega
        · intro first isFirst
          rw [List.head?_append, Option.mem_def, Option.or_eq_some_iff] at isFirst
          rcases isFirst with inLine | ⟨-, inOthers⟩
          · exact lineBegins first inLine
          · exact begins first inOthers
      · exact ⟨chain, begins⟩

/-- Rows with their numbers, as far as an excerpt shows them. -/
theorem isChain_excerptRows (contextLines : Int) (source : Text) :
    (ParseError.excerptRows location contextLines source).IsChain (Follows location) := by
  refine (isChain_rows location ?_ _).1
  intro line held
  have numbered := List.le_snd_of_mem_zipIdx held
  omega

end Rows

/-! ## The caret -/

/-- In the rows of an excerpt the line of a place is directly above a row whose caret stands under
the character at the place, or behind the last one if the place is at the end of the line. -/
def CaretUnder (before rest : Text) (rows : List Text) : Prop :=
  let gutter := ParseError.gutter (before.count CodePoint.lineFeed + 1)
  ∃ caret, [gutter ++ (lineBefore before ++ lineBehind rest), caret] <:+: rows ∧
    Points caret (gutter ++ lineBefore before).length

/-- The caret stands under a place only if the error has the number of the line of the place. -/
theorem line_of_caretUnder {location : Location} {contextLines : Int} {before rest : Text}
    (under : CaretUnder before rest
      (ParseError.excerptRows location contextLines (before ++ rest))) :
    location.line.toInt = before.count CodePoint.lineFeed + 1 := by
  obtain ⟨caret, ⟨above, below, rows⟩, points⟩ := under
  have chain := isChain_excerptRows location contextLines (before ++ rest)
  rw [← rows] at chain
  have follows := List.isChain_pair.mp chain.left_of_append.right_of_append
  have numbered := follows points.rowNumber_eq_zero
  rw [rowNumber_gutter] at numbered
  omega

/-- The caret stands under a place whose line and column the error has. -/
theorem caretUnder_of_location {location : Location} {contextLines : Int} {before rest : Text}
    (nonneg : 0 ≤ contextLines)
    (line : location.line.toInt = before.count CodePoint.lineFeed + 1)
    (column : location.column.toInt = (lineBefore before).length + 1) :
    CaretUnder before rest
      (ParseError.excerptRows location contextLines (before ++ rest)) := by
  let number := before.count CodePoint.lineFeed + 1
  have isLine := getElem?_lines before rest
  have counted : number ≤ (Text.lines (before ++ rest)).length :=
    (List.getElem?_eq_some_iff.mp isLine).1
  have shown : (lineBefore before ++ lineBehind rest, number) ∈
      (Text.lines (before ++ rest)).zipIdx 1 := by
    rw [List.mk_mem_zipIdx_iff_le_and_getElem?_sub]
    exact ⟨Nat.le_add_left 1 _, isLine⟩
  obtain ⟨above, below, numbered⟩ := List.append_of_mem shown
  have rows : ParseError.sourceRows location number (lineBefore before ++ lineBehind rest) =
      [ParseError.gutter number ++ (lineBefore before ++ lineBehind rest),
        ParseError.pointer number ((lineBefore before).length + 1)] := by
    rw [ParseError.sourceRows, if_pos (by rw [line]; rfl), column]
  refine ⟨ParseError.pointer number ((lineBefore before).length + 1), ?_, ?_⟩
  · simp only [ParseError.excerptRows, ParseError.excerptBounds, numbered, List.flatMap_append,
      List.flatMap_cons, line]
    rw [if_pos, rows]
    · exact List.infix_append' _ _ _
    · rw [Bool.and_eq_true, decide_eq_true_eq, decide_eq_true_eq]
      omega
  · rw [List.length_append]
    exact points_pointer number _

/-! ## Errors of a loader -/

namespace Loader

/-- A source that is too long is refused without a parse error. -/
theorem refusesSize_of_error {loader : Loader} {source : Text} {error : ParseError}
    (stopped : (loader.parse source).error? = some error) : loader.refusesSize source = false := by
  refine Bool.eq_false_iff.mpr fun refused => ?_
  rw [parse, parseWithin, if_pos refused, rejectWhole] at stopped
  split at stopped <;> cases stopped

/-- The counters are exact wherever a source is stopped reading. -/
theorem tracked_reply (loader : Loader) (source : Text) :
    Tracked loader.limits source ⟨.outside, 0⟩ (loader.reply source) :=
  carries_document (Nat.lt_succ_self _) _ (.start source)

/-- The error of a rejection stands at a place that its context tells exactly. -/
theorem exact_of_error {loader : Loader} {source : Text} {error : ParseError}
    (stopped : (loader.parse source).error? = some error) : Exact source error.state := by
  have replied := reply_of_error (refusesSize_of_error stopped) stopped
  have tracked := loader.tracked_reply source
  rw [replied] at tracked
  cases tracked with
  | failed _ place tracks =>
      rw [place]
      exact tracks.exact

end Loader

/-- The error that a source is rejected with is shown with an excerpt. The caret of the excerpt
stands under the place of the error exactly if no carriage return before the place stands alone. -/
theorem caretUnder_iff (loader : Loader) (source : Text) (error : ParseError)
    (stopped : (loader.parse source).error? = some error)
    (writable : source.length < 0x8000000000000000) :
    ∃ (before rest : Text) (location : Location), source = before ++ rest ∧
      error.state.pos = before.length ∧ error.state.location = some location ∧
      error.formatWithContext ParseError.defaultContextLines = .ok (Text.join (text "\n")
        ([error.format, []] ++
          ParseError.excerptRows location ParseError.defaultContextLines source)) ∧
      (CaretUnder before rest
          (ParseError.excerptRows location ParseError.defaultContextLines source) ↔
        ¬ LoneReturn before) := by
  have exact := Loader.exact_of_error stopped
  have named := Loader.placeIsWritable_of_failed
    (Loader.reply_of_error (Loader.refusesSize_of_error stopped) stopped)
  let before := source.take error.state.pos.toNat
  let rest := source.drop error.state.pos.toNat
  have whole : source = before ++ rest := (List.take_append_drop _ _).symm
  have position : error.state.pos = before.length := by
    have nonneg := exact.nonneg
    have within := exact.within
    rw [List.length_take]
    omega
  let location : Location := ⟨.int (1 + lineBreaks before), .int (1 + (lastLine before).length)⟩
  have located : error.state.location = some location := by
    rw [State.location, exact.context]
    rfl
  have line : location.line.toInt = 1 + lineBreaks before := rfl
  have column : location.column.toInt = 1 + (lastLine before).length := rfl
  have fits : ParseError.caretOverflows location ParseError.defaultContextLines source = false := by
    have short : (lastLine before).length ≤ source.length :=
      Nat.le_trans (List.rtakeWhile_suffix _ _).length_le (List.length_take_le' _ _)
    have repeatable : ParseError.isRepeatable (location.column.toInt - 1) = true := by
      rw [ParseError.isRepeatable, column, Bool.and_eq_true, decide_eq_true_eq, decide_eq_true_eq]
      omega
    simp [ParseError.caretOverflows, repeatable]
  refine ⟨before, rest, location, whole, position, located, ?_, ?_, ?_⟩
  · simp only [ParseError.formatWithContext, ParseError.formatError, named, requireWritable_true,
      exact.tokens, located, Tokens.ofText, fits, Bool.false_eq_true, if_false, bind, Except.bind,
      pure, Except.pure]
  · intro under lone
    rw [whole] at under
    have numbered := line_of_caretUnder under
    have more := (lineBreaks_count before).2 lone
    omega
  · intro paired
    rw [whole]
    apply caretUnder_of_location (by decide)
    · rw [line, (lineBreaks_count before).1 paired]
      omega
    · rw [column, lastLine_eq_lineBefore paired]
      omega

/-- Behind a carriage return and a line feed the caret stands under the character that is wrong. -/
theorem caretUnder_iff_paired :
    ∃ error location, (Loader.parse ⟨0, ⟨1, 0⟩⟩ (text "[1,\r\n x")).error? = some error ∧
      error.state.pos = 6 ∧ error.state.location = some location ∧
      ParseError.excerptRows location ParseError.defaultContextLines (text "[1,\r\n x") =
        [text "   1 | [1,\r", text "   2 |  x", text "     |  ^"] ∧
      CaretUnder (text "[1,\r\n ") (text "x")
        [text "   1 | [1,\r", text "   2 |  x", text "     |  ^"] := by
  have reported : (Loader.parse ⟨0, ⟨1, 0⟩⟩ (text "[1,\r\n x")).error?.map
      (fun error => (error.state.pos, error.state.location)) = some (6, some ⟨.int 2, .int 2⟩) := by
    decide +kernel
  obtain ⟨error, stopped, place⟩ := Option.map_eq_some_iff.mp reported
  obtain ⟨position, located⟩ := Prod.mk.inj place
  obtain ⟨before, rest, location, whole, width, isLocation, -, caret⟩ :=
    caretUnder_iff _ _ error stopped (by decide)
  cases located.symm.trans isLocation
  have counted : (text "[1,\r\n ").length = 6 := by decide
  have parts : text "[1,\r\n " = before ∧ text "x" = rest :=
    List.append_inj whole (by omega)
  have rows : ParseError.excerptRows ⟨.int 2, .int 2⟩ ParseError.defaultContextLines
      (text "[1,\r\n x") = [text "   1 | [1,\r", text "   2 |  x", text "     |  ^"] := by
    decide +kernel
  rw [rows, ← parts.1, ← parts.2] at caret
  exact ⟨error, _, stopped, position, located, rows, caret.mpr (by decide)⟩

/-- Behind a carriage return that stands alone the caret is under the line after that of the
character that is wrong. -/
theorem not_caretUnder_return :
    ∃ error location, (Loader.parse ⟨0, ⟨1, 0⟩⟩ (text "[1,\r x\n]")).error? = some error ∧
      error.state.pos = 5 ∧ error.state.location = some location ∧
      ParseError.excerptRows location ParseError.defaultContextLines (text "[1,\r x\n]") =
        [text "   1 | [1,\r x", text "   2 | ]", text "     |  ^"] ∧
      ¬ CaretUnder (text "[1,\r ") (text "x\n]")
        [text "   1 | [1,\r x", text "   2 | ]", text "     |  ^"] := by
  have reported : (Loader.parse ⟨0, ⟨1, 0⟩⟩ (text "[1,\r x\n]")).error?.map
      (fun error => (error.state.pos, error.state.location)) = some (5, some ⟨.int 2, .int 2⟩) := by
    decide +kernel
  obtain ⟨error, stopped, place⟩ := Option.map_eq_some_iff.mp reported
  obtain ⟨position, located⟩ := Prod.mk.inj place
  have rows : ParseError.excerptRows ⟨.int 2, .int 2⟩ ParseError.defaultContextLines
      (text "[1,\r " ++ text "x\n]") =
        [text "   1 | [1,\r x", text "   2 | ]", text "     |  ^"] := by
    decide +kernel
  refine ⟨error, _, stopped, position, located, rows, fun under => ?_⟩
  rw [← rows] at under
  exact absurd (line_of_caretUnder under) (by decide)

end Document

end Descent
