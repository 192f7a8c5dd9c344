import Descent.Document.Grammar
import Descent.Proofs.Document.Phrase

/-!
# Cursors in a document

A cursor is a state of a document reader seen from inside the text: what lies before it, what lies
ahead, and the three counters of the context. Moving over a text changes the line and the column by
`track`, which counts a carriage return and the line feed behind it as one break; a cursor never
stops between the two.

`Cursor.Reads` describes the reply to a rule that is applied at a cursor. It speaks of the text
that was consumed and of the cursor reached. It leaves no room for a spent budget, nor for a fault
but one: a failure whose error would have to name a limit with too many digits to be written.
-/

namespace Descent

/-- The state in a text behind `before` and in front of `rest`. -/
def State.between (before rest : Text) (context : Value) : State where
  tokens := .ofText (before ++ rest)
  pos := before.length
  context := context

namespace Document

/-- Line and column behind a character, given the character that follows it. A carriage return in
front of a line feed leaves the break to the line feed. -/
def trackPoint (point : CodePoint) (following : Option CodePoint) (place : Int × Int) :
    Int × Int :=
  if point = CodePoint.carriageReturn ∧ following = some CodePoint.lineFeed then place
  else if point = CodePoint.carriageReturn ∨ point = CodePoint.lineFeed then (place.1 + 1, 1)
  else (place.1, place.2 + 1)

/-- Line and column behind a text, from line and column in front of it. -/
def track : Text → Int × Int → Int × Int
  | [], place => place
  | point :: rest, place => track rest (trackPoint point rest.head? place)

/-- A text may be tracked in two parts unless they cut a line break in two. -/
theorem track_append {first second : Text}
    (uncut : first.getLast? = some CodePoint.carriageReturn →
      second.head? ≠ some CodePoint.lineFeed) (place : Int × Int) :
    track (first ++ second) place = track second (track first place) := by
  induction first generalizing place with
  | nil => rfl
  | cons point rest inductionHypothesis =>
      cases rest with
      | nil =>
          have same : trackPoint point second.head? place = trackPoint point none place := by
            by_cases isReturn : point = CodePoint.carriageReturn
            · simp [trackPoint, uncut (by simp [isReturn])]
            · simp [trackPoint, isReturn]
          simp [track, same]
      | cons following others =>
          refine inductionHypothesis ?_ _
          intro last
          exact uncut (by simpa [List.getLast?_cons_cons] using last)

/-- Line and column grow by no more than the text is long. -/
theorem track_bounds (points : Text) {line column : Int} (oneLeLine : 1 ≤ line)
    (oneLeColumn : 1 ≤ column) :
    1 ≤ (track points (line, column)).1 ∧
      (track points (line, column)).1 ≤ line + points.length ∧
      1 ≤ (track points (line, column)).2 ∧
      (track points (line, column)).2 ≤ column + points.length := by
  induction points generalizing line column with
  | nil => simp [track, oneLeLine, oneLeColumn]
  | cons point rest inductionHypothesis =>
      rw [track, trackPoint, List.length_cons]
      split
      · have bounds := inductionHypothesis oneLeLine oneLeColumn
        omega
      · split
        · have bounds := inductionHypothesis (by omega : 1 ≤ line + 1) (Int.le_refl 1)
          simp only at bounds ⊢
          omega
        · have bounds := inductionHypothesis oneLeLine (by omega : 1 ≤ column + 1)
          simp only at bounds ⊢
          omega

/-- A place in a document: the text on both sides, and the counters of the context. -/
structure Cursor where
  before : Text
  rest : Text
  line : Int
  column : Int
  depth : Int

namespace Cursor

/-- The context that holds the counters. -/
def context (cursor : Cursor) : Value :=
  .record .document [.int cursor.line, .int cursor.column, .int cursor.depth]

/-- The state at the cursor. -/
def state (cursor : Cursor) : State := .between cursor.before cursor.rest cursor.context

/-- The cursor in front of a document. -/
def start (source : Text) : Cursor := ⟨[], source, 1, 1, 0⟩

/-- A state is that of one cursor only. -/
theorem eq_of_state_eq {first second : Cursor} (same : first.state = second.state) :
    first = second := by
  obtain ⟨before, rest, line, column, depth⟩ := first
  obtain ⟨before', rest', line', column', depth'⟩ := second
  simp only [state, State.between, context, State.mk.injEq, Tokens.ofText, Tokens.text.injEq,
    Value.record.injEq, List.cons.injEq, Value.int.injEq, Int.natCast_inj, true_and,
    and_true] at same
  obtain ⟨texts, lengths, rfl, rfl, rfl⟩ := same
  obtain ⟨rfl, rfl⟩ := List.append_inj (congrArg Array.toList texts) lengths
  rfl

theorem pos_nonneg (cursor : Cursor) : 0 ≤ cursor.state.pos := Int.natCast_nonneg _

/-- The place can always be named. -/
theorem writes_pos (cursor : Cursor) : cursor.state.writes cursor.state.pos = true := by
  refine State.writes_of_within cursor.pos_nonneg ?_
  simp only [state, State.between, Tokens.ofText, Tokens.size, List.size_toArray,
    List.length_append]
  omega

/-- What lies ahead can always be shown. -/
theorem previewIsWritable (cursor : Cursor) (limit : Int) :
    cursor.state.previewIsWritable limit = true :=
  Bool.or_eq_true_iff.mpr (.inr (Tokens.areWritable_slice rfl _ _))

/-- The next character can always be shown. -/
theorem foundIsWritable (cursor : Cursor) : cursor.state.foundIsWritable = true :=
  State.foundIsWritable_of_areWritable rfl

/-- A cursor is at the end of the input exactly if nothing is ahead. -/
theorem atEnd_iff (cursor : Cursor) : cursor.state.atEnd ↔ cursor.rest = [] := by
  simp only [state, State.between, State.atEnd, Tokens.ofText, Tokens.size, List.size_toArray,
    List.length_append, decide_eq_true_eq]
  constructor
  · intro covered
    exact List.length_eq_zero_iff.mp (by omega)
  · intro ended
    simp [ended]

/-- Moving from one cursor over a text to another. The depth is a matter of the rules. -/
structure Passes (cursor : Cursor) (consumed : Text) (next : Cursor) : Prop where
  before : next.before = cursor.before ++ consumed
  rest : cursor.rest = consumed ++ next.rest
  place : (next.line, next.column) = track consumed (cursor.line, cursor.column)
  uncut : consumed.getLast? = some CodePoint.carriageReturn →
    next.rest.head? ≠ some CodePoint.lineFeed

/-- Line and column are no larger than the text is long. -/
theorem Passes.placeIsWritable {source consumed : Text} {next : Cursor}
    (passes : (start source).Passes consumed next) : next.state.placeIsWritable = true := by
  have length : source.length = consumed.length + next.rest.length := by
    have texts : source = consumed ++ next.rest := passes.rest
    rw [texts, List.length_append]
  have size : (next.state.tokens.size : Int) = source.length := by
    have before : next.before = consumed := passes.before
    simp only [state, State.between, Tokens.ofText, Tokens.size, List.size_toArray,
      List.length_append, before, length]
  have place : (next.line, next.column) = track consumed (1, 1) := passes.place
  obtain ⟨oneLeLine, lineLe, oneLeColumn, columnLe⟩ :=
    track_bounds consumed (Int.le_refl 1) (Int.le_refl 1)
  rw [← place] at oneLeLine lineLe oneLeColumn columnLe
  have line : next.state.writes next.line := State.writes_of_within (by omega) (by omega)
  have column : next.state.writes next.column := State.writes_of_within (by omega) (by omega)
  exact Bool.and_eq_true_iff.mpr ⟨line, column⟩

/-- Staying where one is. -/
theorem Passes.refl (cursor : Cursor) : cursor.Passes [] cursor :=
  ⟨(List.append_nil _).symm, rfl, rfl, by simp⟩

/-- Moving on twice. -/
theorem Passes.trans {cursor middle last : Cursor} {consumed more : Text}
    (first : cursor.Passes consumed middle) (second : middle.Passes more last) :
    cursor.Passes (consumed ++ more) last where
  before := by rw [second.before, first.before, List.append_assoc]
  rest := by rw [first.rest, second.rest, List.append_assoc]
  place := by
    rw [second.place, first.place, track_append]
    intro cut
    have uncut := first.uncut cut
    rw [second.rest] at uncut
    cases more with
    | nil => simp
    | cons point others => simpa using uncut
  uncut := by
    intro cut
    cases more with
    | nil =>
        have uncut := first.uncut (by simpa using cut)
        rw [second.rest] at uncut
        simpa using uncut
    | cons point others =>
        exact second.uncut (by simpa [List.getLast?_append] using cut)

/-- Behind a text that is known to be ahead lies the rest of it. -/
theorem Passes.rest_eq {cursor next : Cursor} {consumed points : Text}
    (passes : cursor.Passes consumed next) (ahead : cursor.rest = consumed ++ points) :
    next.rest = points :=
  List.append_cancel_left (passes.rest.symm.trans ahead)

/-- What lies ahead gets shorter by what is consumed. -/
theorem Passes.length {cursor next : Cursor} {consumed : Text}
    (passes : cursor.Passes consumed next) :
    cursor.rest.length = consumed.length + next.rest.length := by
  rw [passes.rest, List.length_append]

/-- A cursor that has consumed something stands at another place. -/
theorem Passes.not_samePosition {cursor next : Cursor} {consumed : Text}
    (passes : cursor.Passes consumed next) (consumes : consumed ≠ []) :
    next.state.samePosition cursor.state = false := by
  have longer : 0 < consumed.length := List.length_pos_iff.mpr consumes
  have places : next.state.pos ≠ cursor.state.pos := by
    simp only [state, State.between, passes.before, List.length_append]
    omega
  simp [State.samePosition, places]

/-- The cursor behind the next character, for characters that are no line break. -/
def step (cursor : Cursor) (point : CodePoint) (rest : Text) : Cursor :=
  { cursor with before := cursor.before ++ [point], rest, column := cursor.column + 1 }

theorem passes_step {cursor : Cursor} {point : CodePoint} {rest : Text}
    (ahead : cursor.rest = point :: rest) (noReturn : point ≠ CodePoint.carriageReturn)
    (noFeed : point ≠ CodePoint.lineFeed) : cursor.Passes [point] (cursor.step point rest) where
  before := rfl
  rest := ahead
  place := by simp [track, trackPoint, step, noReturn, noFeed]
  uncut := by simp [noReturn]

end Cursor

/-! ## What a reply says about the text -/

/-- What is left at a cursor of the error that too many containers are open, where the limit cannot
be written. -/
def Cursor.unworded (cursor : Cursor) : ParseError where
  message := []
  state := cursor.state
  code := .nestingDepthExceeded

/-- The reply of a rule at a cursor: a match that consumed a text and reached another cursor, a
decline, or a failure whose error stands at a cursor further on. Where the error of a failure cannot
be worded there is a fault in its place, and the description speaks of an error without words. -/
inductive Cursor.Reads {α : Type} (cursor : Cursor) (onMatch : Text → α → Cursor → Prop)
    (onDecline : Prop) (onFail : Text → Cursor → ParseError → Prop) : Reply α → Prop where
  | matched {consumed : Text} {product : α} {next : Cursor}
      (passes : cursor.Passes consumed next) (holds : onMatch consumed product next) :
      Reads cursor onMatch onDecline onFail (.matched product next.state)
  | declined (holds : onDecline) : Reads cursor onMatch onDecline onFail .declined
  | failed {consumed : Text} {error : ParseError} {next : Cursor}
      (passes : cursor.Passes consumed next) (place : error.state = next.state)
      (holds : onFail consumed next error) : Reads cursor onMatch onDecline onFail (.failed error)
  | raised {consumed : Text} {next : Cursor} (passes : cursor.Passes consumed next)
      (holds : onFail consumed next next.unworded) :
      Reads cursor onMatch onDecline onFail (.raised .longNumeral)

namespace Cursor.Reads

variable {α β : Type} {cursor : Cursor} {onMatch : Text → α → Cursor → Prop} {onDecline : Prop}
  {onFail : Text → Cursor → ParseError → Prop}

/-- A weaker description. -/
theorem mono {onMatch' : Text → α → Cursor → Prop} {onDecline' : Prop}
    {onFail' : Text → Cursor → ParseError → Prop} {reply : Reply α}
    (reads : cursor.Reads onMatch onDecline onFail reply)
    (ofMatch : ∀ consumed product next, cursor.Passes consumed next →
      onMatch consumed product next → onMatch' consumed product next)
    (ofDecline : onDecline → onDecline')
    (ofFail : ∀ consumed next error, onFail consumed next error → onFail' consumed next error) :
    cursor.Reads onMatch' onDecline' onFail' reply := by
  cases reads with
  | matched passes holds => exact .matched passes (ofMatch _ _ _ passes holds)
  | declined holds => exact .declined (ofDecline holds)
  | failed passes place holds => exact .failed passes place (ofFail _ _ _ holds)
  | raised passes holds => exact .raised passes (ofFail _ _ _ holds)

/-- A weaker description of a match. -/
theorem weakenMatch {onMatch' : Text → α → Cursor → Prop} {reply : Reply α}
    (reads : cursor.Reads onMatch onDecline onFail reply)
    (weaker : ∀ consumed product next, cursor.Passes consumed next →
      onMatch consumed product next → onMatch' consumed product next) :
    cursor.Reads onMatch' onDecline onFail reply :=
  reads.mono weaker id fun _ _ _ holds => holds

/-- A weaker description of a decline. -/
theorem weakenDecline {onDecline' : Prop} {reply : Reply α}
    (reads : cursor.Reads onMatch onDecline onFail reply) (weaker : onDecline → onDecline') :
    cursor.Reads onMatch onDecline' onFail reply :=
  reads.mono (fun _ _ _ _ holds => holds) weaker fun _ _ _ holds => holds

/-- A weaker description of a failure. -/
theorem weakenFail {onFail' : Text → Cursor → ParseError → Prop} {reply : Reply α}
    (reads : cursor.Reads onMatch onDecline onFail reply)
    (weaker : ∀ consumed next error, onFail consumed next error → onFail' consumed next error) :
    cursor.Reads onMatch onDecline onFail' reply :=
  reads.mono (fun _ _ _ _ holds => holds) id weaker

/-- What never matches meets every description of a match. -/
theorem neverMatches {onMatch' : Text → α → Cursor → Prop} {reply : Reply α}
    (reads : cursor.Reads (fun _ _ _ => False) onDecline onFail reply) :
    cursor.Reads onMatch' onDecline onFail reply :=
  reads.weakenMatch fun _ _ _ _ impossible => impossible.elim

/-- What never declines meets every description of a decline. -/
theorem neverDeclines {onDecline' : Prop} {reply : Reply α}
    (reads : cursor.Reads onMatch False onFail reply) :
    cursor.Reads onMatch onDecline' onFail reply :=
  reads.weakenDecline False.elim

/-- Nothing is said of a decline. -/
theorem mayDecline {reply : Reply α} (reads : cursor.Reads onMatch onDecline onFail reply) :
    cursor.Reads onMatch True onFail reply :=
  reads.weakenDecline fun _ => trivial

/-- What never fails meets every description of a failure. -/
theorem neverFails {onFail' : Text → Cursor → ParseError → Prop} {reply : Reply α}
    (reads : cursor.Reads onMatch onDecline (fun _ _ _ => False) reply) :
    cursor.Reads onMatch onDecline onFail' reply :=
  reads.weakenFail fun _ _ _ impossible => impossible.elim

/-- Nothing is said of a failure. -/
theorem mayFail {reply : Reply α} (reads : cursor.Reads onMatch onDecline onFail reply) :
    cursor.Reads onMatch onDecline (fun _ _ _ => True) reply :=
  reads.weakenFail fun _ _ _ _ => trivial

/-- The error of a failure stands behind what was consumed. -/
theorem located {reply : Reply α} (reads : cursor.Reads onMatch onDecline onFail reply) :
    cursor.Reads onMatch onDecline
      (fun consumed next error => cursor.Passes consumed next ∧ onFail consumed next error)
      reply := by
  cases reads with
  | matched passes holds => exact .matched passes holds
  | declined holds => exact .declined holds
  | failed passes place holds => exact .failed passes place ⟨passes, holds⟩
  | raised passes holds => exact .raised passes ⟨passes, holds⟩

/-- Two descriptions of one match speak of the same cursor. -/
theorem and {onMatch' : Text → α → Cursor → Prop} {onDecline' : Prop}
    {onFail' : Text → Cursor → ParseError → Prop} {reply : Reply α}
    (reads : cursor.Reads onMatch onDecline onFail reply)
    (readsToo : cursor.Reads onMatch' onDecline' onFail' reply) :
    cursor.Reads
      (fun consumed product next => onMatch consumed product next ∧ onMatch' consumed product next)
      (onDecline ∧ onDecline') onFail reply := by
  have once : ∀ {first second : Text} {next last : Cursor}, cursor.Passes first next →
      cursor.Passes second last → next.state = last.state → first = second ∧ next = last := by
    intro first second next last passes passesToo same
    have one := eq_of_state_eq same
    subst one
    exact ⟨List.append_cancel_left (passes.before.symm.trans passesToo.before), rfl⟩
  cases reads with
  | matched passes holds =>
      generalize described : Reply.matched _ _ = reply at readsToo
      cases readsToo with
      | matched passesToo holdsToo =>
          obtain ⟨rfl, same⟩ := Reply.matched.inj described
          obtain ⟨rfl, rfl⟩ := once passes passesToo same
          exact .matched passes ⟨holds, holdsToo⟩
      | declined => cases described
      | failed => cases described
      | raised => cases described
  | declined holds =>
      cases readsToo with
      | declined holdsToo => exact .declined ⟨holds, holdsToo⟩
  | failed passes place holds => exact .failed passes place holds
  | raised passes holds => exact .raised passes holds

/-- A reply at a cursor further on, seen from where the reading began. -/
theorem after {middle : Cursor} {consumed : Text} {reply : Reply α}
    (passes : cursor.Passes consumed middle)
    (reads : middle.Reads (fun more => onMatch (consumed ++ more)) onDecline
      (fun more => onFail (consumed ++ more)) reply) :
    cursor.Reads onMatch onDecline onFail reply := by
  cases reads with
  | matched further holds => exact .matched (passes.trans further) holds
  | declined holds => exact .declined holds
  | failed further place holds => exact .failed (passes.trans further) place holds
  | raised further holds => exact .raised (passes.trans further) holds

/-- Going on from a reply that is described. -/
theorem branch {run : Run α} {afterMatch : α → State → Run β} {afterDecline : Unit → Run β}
    {onMatch' : Text → β → Cursor → Prop} {onDecline' : Prop}
    (reads : cursor.Reads onMatch onDecline onFail run.reply)
    (ofMatch : ∀ consumed product next, cursor.Passes consumed next →
      onMatch consumed product next →
      next.Reads (fun more => onMatch' (consumed ++ more)) onDecline'
        (fun more => onFail (consumed ++ more)) (afterMatch product next.state).reply)
    (ofDecline : onDecline → cursor.Reads onMatch' onDecline' onFail (afterDecline ()).reply) :
    cursor.Reads onMatch' onDecline' onFail (run.branch afterMatch afterDecline).reply := by
  generalize reply : run.reply = described at reads
  cases reads with
  | matched passes holds =>
      rw [Run.branch_of_matched reply]
      exact after passes (ofMatch _ _ _ passes holds)
  | declined holds =>
      rw [Run.branch_of_declined reply]
      exact ofDecline holds
  | failed passes place holds =>
      rw [Run.branch_of_failed reply]
      exact .failed passes place holds
  | raised passes holds =>
      rw [Run.branch_of_raised reply]
      exact .raised passes holds

/-- Going on after a match. -/
theorem andThen {run : Run α} {following : α → State → Run β}
    {onMatch' : Text → β → Cursor → Prop}
    (reads : cursor.Reads onMatch onDecline onFail run.reply)
    (ofMatch : ∀ consumed product next, cursor.Passes consumed next →
      onMatch consumed product next →
      next.Reads (fun more => onMatch' (consumed ++ more)) onDecline
        (fun more => onFail (consumed ++ more)) (following product next.state).reply) :
    cursor.Reads onMatch' onDecline onFail (run.andThen following).reply :=
  reads.branch ofMatch .declined

/-- Where there is never a match, nothing comes after it. -/
theorem andThen_unmatched {run : Run α} {following : α → State → Run β}
    {onMatch' : Text → β → Cursor → Prop}
    (reads : cursor.Reads (fun _ _ _ => False) onDecline onFail run.reply) :
    cursor.Reads onMatch' onDecline onFail (run.andThen following).reply :=
  reads.andThen fun _ _ _ _ impossible => impossible.elim

/-- Staying at the cursor with a product. -/
theorem here {product : α} (holds : onMatch [] product cursor) :
    cursor.Reads onMatch onDecline onFail (.matched product cursor.state) :=
  .matched (.refl cursor) holds

/-- Going on after a decline. -/
theorem orElse {run : Run α} {following : Unit → Run α} {onDecline' : Prop}
    (reads : cursor.Reads onMatch onDecline onFail run.reply)
    (ofDecline : onDecline → cursor.Reads onMatch onDecline' onFail (following ()).reply) :
    cursor.Reads onMatch onDecline' onFail (run.orElse following).reply := by
  refine reads.branch ?_ ofDecline
  intro consumed product next passes holds
  exact .matched (.refl next) (by simpa using holds)

/-- Changing the product. -/
theorem map {run : Run α} {change : α → β} {onMatch' : Text → β → Cursor → Prop}
    (reads : cursor.Reads (fun consumed product => onMatch' consumed (change product)) onDecline
      onFail run.reply) :
    cursor.Reads onMatch' onDecline onFail (run.map change).reply := by
  refine reads.andThen ?_
  intro consumed product next passes holds
  exact .matched (.refl next) (by simpa using holds)

/-- A description without declines and failures is a match. -/
theorem exists_matched {reply : Reply α}
    (reads : cursor.Reads onMatch False (fun _ _ _ => False) reply) :
    ∃ consumed product next, cursor.Passes consumed next ∧ onMatch consumed product next ∧
      reply = .matched product next.state := by
  cases reads with
  | matched passes holds => exact ⟨_, _, _, passes, holds, rfl⟩
  | declined holds => exact holds.elim
  | failed _ _ holds => exact holds.elim
  | raised _ holds => exact holds.elim

end Cursor.Reads

end Document

end Descent
