import Descent.Proofs.Document.Lexeme

/-!
# White space

White space is consumed as far as it goes, and a carriage return never without the line feed behind
it. `skipBlanks` is what remains of a text; structural characters skip on both sides of them.
-/

namespace Descent.Document

variable {ν : Type} {laps : Nat} {resolve : ν → Behaviour} {cursor : Cursor}

/-- Only the reply of a run decides how it is gone on from. -/
theorem reply_branch {α β : Type} (run : Run α) (onMatch : α → State → Run β)
    (onDecline : Unit → Run β) :
    (run.branch onMatch onDecline).reply =
      match run.reply with
      | .matched product state => (onMatch product state).reply
      | .declined => (onDecline ()).reply
      | .failed error => .failed error
      | .raised fault => .raised fault
      | .exhausted => .exhausted := by
  unfold Run.branch
  cases run.reply <;> rfl

/-- A literal that leaves the counters as they are. -/
theorem reply_literal (expected : CodePoint) (cursor : Cursor) :
    ((Rule.literal (.ofCodePoint expected) : Rule ν).evaluate laps resolve cursor.state).reply =
      if cursor.rest.head? = some expected then
        .matched (.ofCodePoint expected) (cursor.shift expected cursor.rest.tail).state
      else .declined := by
  cases ahead : cursor.rest with
  | nil => exact term_of_nil _ ahead
  | cons point rest =>
      refine (term_of_cons (congrArg Except.ok (same_ofCodePoint point expected)) ahead).trans ?_
      by_cases same : point = expected
      · simp [same]
      · simp [same]

/-- The cursor behind a line break. -/
def Cursor.breakLine (cursor : Cursor) (consumed rest : Text) : Cursor :=
  { cursor with before := cursor.before ++ consumed, rest, line := cursor.line + 1, column := 1 }

/-- A line break takes the longest spelling that is ahead. -/
theorem reply_lineBreak (cursor : Cursor) :
    ((lineBreak : Rule ν).evaluate laps resolve cursor.state).reply =
      if cursor.rest.head? = some CodePoint.carriageReturn then
        if cursor.rest.tail.head? = some CodePoint.lineFeed then
          .matched (.tuple [token '\r', token '\n'])
            (cursor.breakLine [CodePoint.carriageReturn, CodePoint.lineFeed]
              cursor.rest.tail.tail).state
        else .matched (token '\r')
          (cursor.breakLine [CodePoint.carriageReturn] cursor.rest.tail).state
      else if cursor.rest.head? = some CodePoint.lineFeed then
        .matched (token '\n') (cursor.breakLine [CodePoint.lineFeed] cursor.rest.tail).state
      else .declined := by
  have spelled : tokens "\r\n" =
    [.ofCodePoint CodePoint.carriageReturn, .ofCodePoint CodePoint.lineFeed] := rfl
  have feed : token '\n' = .ofCodePoint CodePoint.lineFeed := rfl
  have carriage : token '\r' = .ofCodePoint CodePoint.carriageReturn := rfl
  simp only [lineBreak, Rule.trackLine, Rule.literalSequence, spelled, feed, carriage,
    Rule.evaluate, Rule.evaluateAll, Behaviour.observe, Behaviour.updating, Behaviour.choice,
    Behaviour.sequence, Behaviour.parts, Run.andNote, Run.after, Run.andThen, Run.orElse, Run.map,
    reply_branch, List.map, reply_literal]
  by_cases isReturn : cursor.rest.head? = some CodePoint.carriageReturn
  · simp only [isReturn, if_true, reply_literal]
    by_cases isFeed : cursor.rest.tail.head? = some CodePoint.lineFeed
    · have behind : (cursor.shift CodePoint.carriageReturn cursor.rest.tail).rest.head? =
        some CodePoint.lineFeed := isFeed
      simp only [behind, isFeed, if_true]
      simp [Cursor.shift, Cursor.breakLine]
      rfl
    · have behind : ¬ (cursor.shift CodePoint.carriageReturn cursor.rest.tail).rest.head? =
        some CodePoint.lineFeed := isFeed
      simp only [behind, isFeed, if_false]
      rfl
  · by_cases isFeed : cursor.rest.head? = some CodePoint.lineFeed
    · simp only [isFeed, if_true]
      rfl
    · simp only [isReturn, isFeed, if_false]
      rfl

/-- Moving over a line break. -/
theorem Cursor.passes_breakLine {consumed rest : Text} (ahead : cursor.rest = consumed ++ rest)
    (tracked : ∀ place, track consumed place = (place.1 + 1, 1))
    (uncut : consumed.getLast? = some CodePoint.carriageReturn →
      rest.head? ≠ some CodePoint.lineFeed) :
    cursor.Passes consumed (cursor.breakLine consumed rest) :=
  ⟨rfl, ahead, (tracked (cursor.line, cursor.column)).symm, uncut⟩

/-- A line break. -/
theorem reads_lineBreak (cursor : Cursor) :
    cursor.Reads
      (fun consumed _ next => consumed ≠ [] ∧ (∃ blanks : Blanks, consumed = blanks.val) ∧
        next.depth = cursor.depth)
      (cursor.rest.head? ≠ some CodePoint.carriageReturn ∧
        cursor.rest.head? ≠ some CodePoint.lineFeed)
      noFailure ((lineBreak : Rule ν).evaluate laps resolve cursor.state).reply := by
  have ofHead : ∀ {points : Text} {point : CodePoint}, points.head? = some point →
      points = point :: points.tail := by
    intro points point head
    cases points with
    | nil => cases head
    | cons first others => rw [Option.some.inj head]; rfl
  rw [reply_lineBreak]
  split
  · rename_i isReturn
    split
    · rename_i isFeed
      refine .matched (Cursor.passes_breakLine ?_ (fun _ => rfl) ?_) ?_
      · rw [ofHead isReturn]
        exact congrArg _ (ofHead isFeed)
      · exact fun cut => absurd cut (by decide)
      · exact ⟨by simp, ⟨⟨[CodePoint.carriageReturn, CodePoint.lineFeed],
          by simp [CodePoint.isBlank]⟩, rfl⟩, rfl⟩
    · rename_i noFeed
      refine .matched (Cursor.passes_breakLine (ofHead isReturn) (fun _ => rfl) fun _ => noFeed) ?_
      exact ⟨by simp, ⟨⟨[CodePoint.carriageReturn], by simp [CodePoint.isBlank]⟩, rfl⟩, rfl⟩
  · rename_i noReturn
    split
    · rename_i isFeed
      refine .matched (Cursor.passes_breakLine (ofHead isFeed) (fun _ => rfl) ?_) ?_
      · exact fun cut => absurd cut (by decide)
      · exact ⟨by simp, ⟨⟨[CodePoint.lineFeed], by simp [CodePoint.isBlank]⟩, rfl⟩, rfl⟩
    · rename_i noFeed
      exact .declined ⟨noReturn, noFeed⟩

/-- A text without the white space in front of it. -/
def skipBlanks (points : Text) : Text := points.dropWhile CodePoint.isBlank

@[simp] theorem skipBlanks_nil : skipBlanks [] = [] := rfl

@[simp] theorem skipBlanks_append (blanks : Blanks) (points : Text) :
    skipBlanks (blanks.val ++ points) = skipBlanks points :=
  List.dropWhile_append_of_pos blanks.property

theorem skipBlanks_cons {point : CodePoint} (isNot : point.isBlank = false) (points : Text) :
    skipBlanks (point :: points) = point :: points :=
  List.dropWhile_cons_of_neg (by simp [isNot])

/-- Where no white space is ahead, nothing is skipped. -/
theorem skipBlanks_of_head {points : Text}
    (visible : ∀ point, points.head? = some point → point.isBlank = false) :
    skipBlanks points = points := by
  cases points with
  | nil => rfl
  | cons point others => exact skipBlanks_cons (visible point rfl) others

@[simp] theorem skipBlanks_skipBlanks (points : Text) :
    skipBlanks (skipBlanks points) = skipBlanks points := by
  refine skipBlanks_of_head ?_
  intro point head
  have stopped := List.head?_dropWhile_not CodePoint.isBlank points
  unfold skipBlanks at head
  rwa [head] at stopped

/-- One lap of white space. -/
theorem lap_whitespace :
    Lap ((Rule.choice [char ' ', char '\t', lineBreak] : Rule ν).evaluate laps resolve)
      (fun _ => True)
      (fun cursor consumed _ next => consumed ≠ [] ∧
        (∃ blanks : Blanks, consumed = blanks.val) ∧ next.depth = cursor.depth)
      (fun cursor => skipBlanks cursor.rest = cursor.rest)
      (fun _ => noFailure)
      (fun cursor consumed _ next => (∃ blanks : Blanks, consumed = blanks.val) ∧
        next.rest = skipBlanks cursor.rest ∧ next.depth = cursor.depth) where
  reads := by
    intro cursor _
    have single : ∀ {character : Char} (_ : (CodePoint.ofChar character).isBlank)
        {consumed : Text} {product : Value} {next : Cursor},
        (∃ point, (point == CodePoint.ofChar character) = true ∧ consumed = [point] ∧
          product = .ofCodePoint point ∧ next.depth = cursor.depth) →
        consumed ≠ [] ∧ (∃ blanks : Blanks, consumed = blanks.val) ∧
          next.depth = cursor.depth := by
      rintro character isBlank consumed product next ⟨point, same, rfl, -, depth⟩
      rw [beq_iff_eq] at same
      exact ⟨by simp, ⟨⟨[point], by simp [same, isBlank]⟩, rfl⟩, depth⟩
    refine Cursor.Reads.choice_cons
      ((takesOne_char (by decide) (by decide) cursor).weakenMatch
        (fun _ _ _ _ => single (by decide))) fun noSpace => ?_
    refine Cursor.Reads.choice_cons
      ((takesOne_char (by decide) (by decide) cursor).weakenMatch
        (fun _ _ _ _ => single (by decide))) fun noTab => ?_
    refine Cursor.Reads.choice_cons (reads_lineBreak cursor) fun noBreak => .choice_nil ?_
    refine skipBlanks_of_head ?_
    intro point head
    have notSpace : point ≠ CodePoint.ofChar ' ' := by simpa using noSpace point head
    have notTab : point ≠ CodePoint.ofChar '\t' := by simpa using noTab point head
    simp only [head, ne_eq, Option.some.injEq] at noBreak
    simp [CodePoint.isBlank, notSpace, notTab, noBreak]
  consumes := fun holds => holds.1
  reaches := fun _ _ _ => trivial
  stops := fun _ declines => ⟨⟨⟨[], by simp⟩, rfl⟩, declines.symm, rfl⟩
  continues := by
    rintro cursor consumed product next more products last passes ⟨-, ⟨first, rfl⟩, depth⟩
      further ⟨⟨second, rfl⟩, rest, lastDepth⟩
    refine ⟨⟨⟨first.val ++ second.val, ?_⟩, rfl⟩, ?_, by rw [lastDepth, depth]⟩
    · intro point mem
      exact (List.mem_append.mp mem).elim (first.property point) (second.property point)
    · rw [rest, passes.rest, skipBlanks_append]
  fails := fun _ fails => fails

/-- White space, as far as it goes. -/
theorem reads_whitespace (enough : cursor.rest.length < laps) :
    cursor.Reads
      (fun consumed _ next => (∃ blanks : Blanks, consumed = blanks.val) ∧
        next.rest = skipBlanks cursor.rest ∧ next.depth = cursor.depth)
      False noFailure ((whitespace : Rule ν).evaluate laps resolve cursor.state).reply := by
  refine Cursor.Reads.constant ?_
  refine (lap_whitespace.zeroOrMore trivial enough).weakenMatch ?_
  rintro consumed product next passes ⟨products, -, described⟩
  exact described

/-- A line break is white space. -/
theorem ne_break_of_visible {point : CodePoint} (visible : point.isBlank = false) :
    point ≠ CodePoint.carriageReturn ∧ point ≠ CodePoint.lineFeed := by
  simp only [CodePoint.isBlank, Bool.or_eq_false_iff, decide_eq_false_iff_not] at visible
  exact ⟨visible.2, visible.1.2⟩

/-- Moving over a structural character and over the white space around it, as far as it goes. -/
structure Cursor.Crosses (cursor : Cursor) (character : Char) (consumed : Text) (next : Cursor) :
    Prop where
  margin : ∃ margin : Margin, consumed = margin.around character
  rest : ∃ tail, skipBlanks cursor.rest = CodePoint.ofChar character :: tail ∧
    next.rest = skipBlanks tail

/-- A structural character with white space on both sides. -/
theorem reads_spaced {character : Char}
    (visible : (CodePoint.ofChar character).isBlank = false)
    (enough : cursor.rest.length < laps) :
    cursor.Reads
      (fun consumed _ next => cursor.Crosses character consumed next ∧
        next.depth = cursor.depth)
      ((skipBlanks cursor.rest).head? ≠ some (CodePoint.ofChar character))
      noFailure ((spaced character : Rule ν).evaluate laps resolve cursor.state).reply := by
  have noBreak := ne_break_of_visible visible
  refine Cursor.Reads.sequence ?_
  refine Cursor.Reads.parts_cons (reads_whitespace enough).neverDeclines ?_
  rintro _ _ first passes ⟨⟨before, rfl⟩, rest, depth⟩
  have shorter := passes.length
  refine Cursor.Reads.parts_cons ((takesOne_char noBreak.1 noBreak.2 first).weakenDecline ?_) ?_
  · intro lacks ahead
    rw [← rest] at ahead
    have refused := lacks _ ahead
    simp at refused
  · rintro _ _ second secondPasses ⟨point, same, rfl, -, secondDepth⟩
    rw [beq_iff_eq] at same
    subst same
    have evenShorter := secondPasses.length
    refine Cursor.Reads.parts_cons (reads_whitespace (by omega)).neverDeclines ?_
    rintro _ _ third thirdPasses ⟨⟨after, rfl⟩, thirdRest, thirdDepth⟩
    refine .parts_nil ⟨⟨⟨⟨before, after⟩, by simp [Margin.around]⟩, second.rest, ?_, thirdRest⟩, ?_⟩
    · rw [← rest, secondPasses.rest]
      rfl
    · rw [thirdDepth, secondDepth, depth]

/-- A separator. -/
theorem reads_separator {character : Char}
    (visible : (CodePoint.ofChar character).isBlank = false)
    (enough : cursor.rest.length < laps) :
    cursor.Reads
      (fun consumed _ next => cursor.Crosses character consumed next ∧
        next.depth = cursor.depth)
      ((skipBlanks cursor.rest).head? ≠ some (CodePoint.ofChar character))
      noFailure ((separator character : Rule ν).evaluate laps resolve cursor.state).reply :=
  (reads_spaced visible enough).constant

/-- A bracket. -/
theorem reads_bracket {character : Char} {change : Int}
    (visible : (CodePoint.ofChar character).isBlank = false)
    (enough : cursor.rest.length < laps) :
    cursor.Reads
      (fun consumed _ next => cursor.Crosses character consumed next ∧
        next.depth = cursor.depth + change)
      ((skipBlanks cursor.rest).head? ≠ some (CodePoint.ofChar character))
      noFailure ((bracket character change : Rule ν).evaluate laps resolve cursor.state).reply := by
  refine Cursor.Reads.constant ?_
  refine (reads_spaced visible enough).andThen ?_
  rintro consumed product next passes ⟨⟨margin, tail⟩, depth⟩
  show next.Reads _ _ _ (Reply.matched product
    (Cursor.state { next with depth := next.depth + change }))
  exact .matched ⟨(List.append_nil _).symm, rfl, rfl, by simp⟩
    ⟨⟨by simpa using margin, tail⟩, by rw [← depth]⟩

end Descent.Document
