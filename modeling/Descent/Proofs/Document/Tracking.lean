import Descent.Proofs.Budget
import Descent.Proofs.Document.Standing
import Descent.Proofs.Document.Value.Container

/-!
# Counters are exact

At every place where the document rule stops, the context says what the text before the place says:
how many lines there were, how far the last one has come, and how many containers are open. The
place is never between a carriage return and its line feed, and a document that has been matched
leaves no container open.

Every rule of the grammar carries cursors from one standing to another, and fails in words of the
grammar. A value starts and ends outside of strings, at one depth. Characters of a string are read
inside, and the one behind a backslash is read where it cannot close the string.
-/

namespace Descent.Document

variable {ν : Type} {limits : Limits} {source : Text} {laps : Nat} {resolve : ν → Behaviour}
  {depth : Int}

/-! ## Characters, words and white space -/

/-- A rule for one character, between zones that the accepted characters lead to. -/
theorem TakesOne.carries {rule : Rule ν} {accepts : CodePoint → Bool} {zone next : Zone}
    (takes : TakesOne laps resolve rule accepts)
    (moves : ∀ point, accepts point → zone.step point = next)
    (silent : ∀ point, accepts point → balance (zone.visible [point]) = 0) :
    Carries limits source ⟨zone, depth⟩ ⟨next, depth⟩ (rule.evaluate laps resolve) := by
  intro cursor tracks
  apply (takes cursor).tracked
  rintro _ _ last passes ⟨point, accepted, rfl, -, deep⟩
  have advanced := tracks.advance passes
  rw [silent point accepted, Int.add_zero] at advanced
  have behind : zone.behind [point] = next := moves point accepted
  rw [behind] at advanced
  exact advanced (deep.trans tracks.depth)

/-- A rule for one character that has no mark. -/
theorem TakesOne.carries_unmarked {rule : Rule ν} {accepts : CodePoint → Bool}
    (takes : TakesOne laps resolve rule accepts)
    (unmarked : ∀ point, accepts point → point.isUnmarked) :
    Stays limits source depth (rule.evaluate laps resolve) := by
  apply takes.carries
  · intro point accepted
    exact (step_of_unmarked (unmarked point accepted)).1
  · intro point accepted
    rw [Zone.visible, Zone.visible_nil]
    exact (step_of_unmarked (unmarked point accepted)).2

/-- A character outside of strings that is no white space and opens no string, and by which the
number of open containers changes. -/
abbrev Weighs (character : Char) (change : Int) : Prop :=
  (CodePoint.ofChar character).isBlank = false ∧
    Zone.outside.step (CodePoint.ofChar character) = .outside ∧
    balance [CodePoint.ofChar character] = change

/-- A character without weight. -/
theorem carries_char {character : Char} (weighs : Weighs character 0) :
    Stays limits source depth ((char character : Rule ν).evaluate laps resolve) := by
  obtain ⟨visible, stays, counts⟩ := weighs
  obtain ⟨noReturn, noFeed⟩ := ne_break_of_visible visible
  apply (takesOne_char noReturn noFeed).carries
  · intro point same
    rw [eq_of_beq same]
    exact stays
  · intro point same
    rw [Zone.visible, Zone.visible_nil, eq_of_beq same]
    exact counts

/-- White space has no marks. -/
theorem isUnmarked_of_isBlank {point : CodePoint} (blank : point.isBlank) : point.isUnmarked := by
  simp only [CodePoint.isBlank, Bool.or_eq_true, decide_eq_true_eq] at blank
  rcases blank with ((rfl | rfl) | rfl) | rfl
  · decide
  · decide
  · decide
  · decide

/-- White space neither opens a string nor counts. -/
theorem behind_blanks (blanks : Blanks) :
    Zone.outside.behind blanks.val = .outside ∧
      balance (Zone.outside.visible blanks.val) = 0 :=
  behind_of_unmarked fun point held => isUnmarked_of_isBlank (blanks.property point held)

/-- A structural character counts as itself, whatever white space is around it. -/
theorem behind_around {character : Char} {change : Int} (weighs : Weighs character change)
    (margin : Margin) :
    Zone.outside.behind (margin.around character) = .outside ∧
      balance (Zone.outside.visible (margin.around character)) = change := by
  obtain ⟨-, stays, counts⟩ := weighs
  obtain ⟨behindBefore, before⟩ := behind_blanks margin.before
  obtain ⟨behindAfter, after⟩ := behind_blanks margin.after
  constructor
  · rw [Margin.around, Zone.behind_append, behindBefore, Zone.behind, List.foldl_cons, stays]
    exact behindAfter
  · rw [Margin.around, Zone.visible_append, behindBefore, Zone.visible, stays,
      ← List.singleton_append, balance_append, balance_append, before, after, counts]
    omega

/-- White space. -/
theorem carries_whitespace (enough : source.length < laps) :
    Stays limits source depth ((whitespace : Rule ν).evaluate laps resolve) := by
  intro cursor tracks
  have ahead := tracks.length_rest_le
  apply (reads_whitespace (by omega)).tracked
  rintro _ _ next passes ⟨⟨blanks, rfl⟩, -, deep⟩
  obtain ⟨sameZone, balanced⟩ := behind_blanks blanks
  have advanced := tracks.advance passes
  rw [sameZone, balanced, Int.add_zero] at advanced
  exact advanced (deep.trans tracks.depth)

/-- Moving over a structural character whose weight the depth takes on. -/
theorem Cursor.Tracks.cross {cursor next : Cursor} {character : Char} {consumed : Text}
    {change : Int} (tracks : cursor.Tracks source ⟨.outside, depth⟩)
    (passes : cursor.Passes consumed next) (crosses : cursor.Crosses character consumed next)
    (weighs : Weighs character change) (deep : next.depth = cursor.depth + change) :
    next.Tracks source ⟨.outside, depth + change⟩ := by
  obtain ⟨margin, rfl⟩ := crosses.margin
  obtain ⟨sameZone, balanced⟩ := behind_around weighs margin
  have advanced := tracks.advance passes
  rw [sameZone, balanced] at advanced
  exact advanced (by rw [deep, tracks.depth])

/-- A bracket changes the depth by its weight. -/
theorem carries_bracket {character : Char} {change : Int} (enough : source.length < laps)
    (weighs : Weighs character change) :
    Carries limits source ⟨.outside, depth⟩ ⟨.outside, depth + change⟩
      ((bracket character change : Rule ν).evaluate laps resolve) := by
  intro cursor tracks
  have ahead := tracks.length_rest_le
  apply (reads_bracket weighs.1 (by omega)).tracked
  rintro consumed _ next passes ⟨crosses, deep⟩
  exact tracks.cross passes crosses weighs deep

/-- A separator leaves the depth as it is. -/
theorem carries_separator {character : Char} (enough : source.length < laps)
    (weighs : Weighs character 0) :
    Stays limits source depth ((separator character : Rule ν).evaluate laps resolve) := by
  intro cursor tracks
  have ahead := tracks.length_rest_le
  apply (reads_separator weighs.1 (by omega)).tracked
  rintro consumed _ next passes ⟨crosses, deep⟩
  have crossed := tracks.cross passes crosses weighs (deep.trans (Int.add_zero _).symm)
  rwa [Int.add_zero] at crossed

/-- A keyword has no marks. -/
theorem carries_keyword : Stays limits source depth ((keyword : Rule ν).evaluate laps resolve) := by
  intro cursor tracks
  apply (reads_keyword cursor).tracked
  rintro _ _ next passes ⟨word, rfl, -, deep⟩
  have quiet : Zone.outside.behind word.text = .outside ∧
      balance (Zone.outside.visible word.text) = 0 := by
    cases word with
    | no => decide
    | yes => decide
    | null => decide
  have advanced := tracks.advance passes
  rw [quiet.1, quiet.2, Int.add_zero] at advanced
  exact advanced (deep.trans tracks.depth)

/-! ## Numbers -/

/-- Digits have no marks. -/
theorem isUnmarked_of_isDigit {point : CodePoint} (isDigit : point.isDigit) : point.isUnmarked := by
  simp only [CodePoint.isDigit, CodePoint.isBetween, Char.reduceToNat, Bool.and_eq_true,
    decide_eq_true_eq] at isDigit
  simp only [CodePoint.isUnmarked, text, String.reduceToList, List.map_cons, List.map_nil,
    List.contains_eq_mem, List.mem_cons, List.not_mem_nil, or_false, Fin.ext_iff, CodePoint.ofChar,
    Char.reduceToNat, Bool.not_eq_true', decide_eq_false_iff_not]
  omega

/-- A digit. -/
theorem carries_digit : Stays limits source depth ((digit : Rule ν).evaluate laps resolve) :=
  takesOne_digit.carries_unmarked fun _ => isUnmarked_of_isDigit

/-- The digits before the point. -/
theorem carries_integralPart :
    Stays limits source depth ((integralPart : Rule ν).evaluate laps resolve) := by
  have leading : Stays limits source depth ((nonzeroDigit : Rule ν).evaluate laps resolve) := by
    apply takesOne_nonzeroDigit.carries_unmarked
    intro point accepted
    exact isUnmarked_of_isDigit (Bool.and_eq_true_iff.mp accepted).1
  apply Carries.choice_cons (carries_char (by decide))
  apply Carries.choice_cons _ .choice_nil
  exact .sequence (.parts_cons leading (.parts_cons carries_digit.zeroOrMore .parts_nil))

/-- The point and the digits behind it. -/
theorem carries_fractionalPart :
    Stays limits source depth ((fractionalPart : Rule ν).evaluate laps resolve) := by
  apply Carries.sequence
  apply Carries.parts_cons (carries_char (by decide))
  exact .parts_cons (carries_digit.oneOrMore.failpoint (by simp)) .parts_nil

/-- The mark, the sign and the digits of an exponent. -/
theorem carries_exponentialPart :
    Stays limits source depth ((exponentialPart : Rule ν).evaluate laps resolve) := by
  have mark : Stays limits source depth
      ((Rule.literalChoice tracked (tokens "eE") : Rule ν).evaluate laps resolve) := by
    apply takesOne_exponentMark.carries_unmarked
    intro point isMark
    simp only [Number.isExponentMark, Bool.or_eq_true, decide_eq_true_eq] at isMark
    rcases isMark with rfl | rfl
    · decide
    · decide
  have sign : Stays limits source depth
      ((Rule.choice [char '+', char '-'] : Rule ν).evaluate laps resolve) :=
    .choice_cons (carries_char (by decide))
      (.choice_cons (carries_char (by decide)) .choice_nil)
  apply Carries.sequence
  apply Carries.parts_cons mark
  apply Carries.parts_cons (sign.optional _)
  exact .parts_cons (carries_digit.oneOrMore.failpoint (by simp)) .parts_nil

/-- The parts of a number, none of which has a mark. -/
theorem carries_numberParts :
    Stays limits source depth ((numberParts : Rule ν).evaluate laps resolve) := by
  apply Carries.sequence
  apply Carries.parts_cons ((carries_char (by decide)).optional _)
  apply Carries.parts_cons carries_integralPart
  apply Carries.parts_cons (carries_fractionalPart.optional _)
  exact .parts_cons (carries_exponentialPart.optional _) .parts_nil

/-- A number. The error that it has too many digits stands where it starts. -/
theorem carries_number :
    Stays limits source depth ((number limits : Rule ν).evaluate laps resolve) := by
  intro cursor tracks
  apply (carries_numberParts tracks).branch
  · intro parts next nextTracks
    show Tracked limits source _
      ((numberSteps limits cursor.state parts : Steps ν).evaluate laps resolve next.state).reply
    unfold numberSteps
    split
    · dsimp only
      split
      · -- Where the digits end does not show in the error.
        obtain ⟨error, worded, place, -⟩ :=
          exists_tooManyDigits _ limits.maxDigits cursor next.state
        rw [reply_escalate worded]
        exact .failed (.tooManyDigits worded) place tracks
      · exact Carries.finishWith _ nextTracks
    · exact .raised _
  · exact .declined

/-! ## Strings -/

/-- The first quote of a string leads into it … -/
theorem carries_opening :
    Carries limits source ⟨.outside, depth⟩ ⟨.inside, depth⟩
      ((char '"' : Rule ν).evaluate laps resolve) := by
  apply takesOne_quote.carries
  · intro point same
    rw [eq_of_beq same]
    rfl
  · intro point same
    rw [eq_of_beq same]
    rfl

/-- … and the last one leads out of it. -/
theorem carries_closing :
    Carries limits source ⟨.inside, depth⟩ ⟨.outside, depth⟩
      ((char '"' : Rule ν).evaluate laps resolve) := by
  apply takesOne_quote.carries
  · intro point same
    rw [eq_of_beq same]
    rfl
  · intro point _
    rfl

/-- Behind a backslash the next character is escaped … -/
theorem carries_backslash :
    Carries limits source ⟨.inside, depth⟩ ⟨.escaped, depth⟩
      ((char '\\' : Rule ν).evaluate laps resolve) := by
  apply takesOne_backslash.carries
  · intro point same
    rw [eq_of_beq same]
    rfl
  · intro point _
    rfl

/-- … and where it announces digits, these are read inside of the string again. -/
theorem carries_u :
    Carries limits source ⟨.escaped, depth⟩ ⟨.inside, depth⟩
      ((char 'u' : Rule ν).evaluate laps resolve) := by
  apply takesOne_u.carries
  · intro point _
    rfl
  · intro point _
    rfl

/-- A character that neither closes a string nor escapes another one. -/
theorem TakesOne.carries_inside {rule : Rule ν} {accepts : CodePoint → Bool}
    (takes : TakesOne laps resolve rule accepts)
    (noQuote : ∀ point, accepts point → point ≠ CodePoint.ofChar '"')
    (noBackslash : ∀ point, accepts point → point ≠ CodePoint.ofChar '\\') :
    Carries limits source ⟨.inside, depth⟩ ⟨.inside, depth⟩ (rule.evaluate laps resolve) := by
  apply takes.carries
  · intro point accepted
    rw [Zone.step, if_neg (noQuote point accepted), if_neg (noBackslash point accepted)]
  · intro point _
    rfl

/-- A character that stands for itself. -/
theorem carries_unescaped :
    Carries limits source ⟨.inside, depth⟩ ⟨.inside, depth⟩
      ((unescaped : Rule ν).evaluate laps resolve) := by
  apply takesOne_unescaped.carries_inside
  · rintro _ plain rfl
    exact absurd plain (by decide)
  · rintro _ plain rfl
    exact absurd plain (by decide)

/-- Four hexadecimal digits. -/
theorem carries_hexQuad :
    Carries limits source ⟨.inside, depth⟩ ⟨.inside, depth⟩
      ((hexQuad : Rule ν).evaluate laps resolve) := by
  have carries : Carries limits source ⟨.inside, depth⟩ ⟨.inside, depth⟩
      ((hexDigit : Rule ν).evaluate laps resolve) := by
    apply takesOne_hexDigit.carries_inside
    · rintro _ spelled rfl
      exact absurd spelled (by decide)
    · rintro _ spelled rfl
      exact absurd spelled (by decide)
  exact ((carries.failpoint (by simp)).exactly 4).semantics _

/-- The escape of a low surrogate, whether it is accepted as one or not. -/
theorem carries_lowSurrogate :
    Carries limits source ⟨.inside, depth⟩ ⟨.inside, depth⟩
      ((lowSurrogate : Rule ν).evaluate laps resolve) := by
  apply Carries.accepting
  apply Carries.semantics
  apply Carries.sequence
  apply Carries.parts_cons carries_backslash
  apply Carries.parts_cons carries_u
  exact .parts_cons carries_hexQuad .parts_nil

/-- What follows the digits of an escape, whatever they spell. -/
theorem carries_unitSteps (unit : Value) :
    Carries limits source ⟨.inside, depth⟩ ⟨.inside, depth⟩
      ((unitSteps unit : Steps ν).evaluate laps resolve) := by
  unfold unitSteps
  split
  · split
    · apply Carries.apply (carries_lowSurrogate.optional _)
      intro low
      split
      · exact .finishWith _
      · exact .finishWith _
    · exact .finishWith _
  · exact .fault _

/-- An escape comes back into the string. -/
theorem carries_escape :
    Carries limits source ⟨.inside, depth⟩ ⟨.inside, depth⟩
      ((escape : Rule ν).evaluate laps resolve) := by
  have byNumber : Carries limits source ⟨.escaped, depth⟩ ⟨.inside, depth⟩
      ((unicodeEscape : Rule ν).evaluate laps resolve) :=
    .derivation (.apply carries_u fun _ => .apply carries_hexQuad carries_unitSteps)
  have byLetter : Carries limits source ⟨.escaped, depth⟩ ⟨.inside, depth⟩
      ((shortEscape : Rule ν).evaluate laps resolve) := by
    apply Carries.semantics
    apply takesOne_escapeLetter.carries
    · intro point _
      rfl
    · intro point _
      rfl
  apply Carries.derivation
  apply Carries.apply carries_backslash
  intro _
  apply Carries.apply
    ((byNumber.choice_cons (byLetter.choice_cons .choice_nil)).failpoint (by simp))
  intro product
  exact .finish product

/-- A string comes back to where it began. -/
theorem carries_string : Stays limits source depth ((string : Rule ν).evaluate laps resolve) := by
  apply Carries.derivation
  apply Carries.apply carries_opening
  intro _
  apply Carries.apply
    (carries_escape.choice_cons (carries_unescaped.choice_cons .choice_nil)).zeroOrMore
  intro contents
  apply Carries.apply (carries_closing.failpoint (by simp))
  intro _
  split
  · exact .finish _
  · exact .fault _

/-! ## Arrays and objects -/

/-- Going on within the limit for the depth, or failing beyond it. -/
theorem carries_withinDepth {before after : Standing} {steps : Steps ν}
    (carries : Carries limits source before after (steps.evaluate laps resolve)) :
    Carries limits source before after ((withinDepth limits steps).evaluate laps resolve) := by
  intro cursor tracks
  show Tracked limits source after ((if limits.maxDepth < cursor.depth then
    .apply (.escalate (tooDeep limits)) fun _ => steps else steps : Steps ν).evaluate laps resolve
      cursor.state).reply
  split
  · cases written : limits.depthIsWritable with
    | true =>
        obtain ⟨error, worded, place, -⟩ := exists_tooDeep written cursor
        rw [reply_escalate worded]
        exact .failed (.tooDeep worded) place tracks
    | false =>
        rw [reply_escalate_error (tooDeep_unwritten written cursor)]
        exact .raised .longNumeral
  · exact carries tracks

/-- Members stay in a standing, and what closes them leads on. -/
theorem carries_members {before after : Standing} {first additional : Rule ν}
    {close : List Value → Steps ν}
    (carriesFirst : Carries limits source before before (first.evaluate laps resolve))
    (carriesAdditional : Carries limits source before before (additional.evaluate laps resolve))
    (closes : ∀ items, Carries limits source before after ((close items).evaluate laps resolve)) :
    Carries limits source before after
      ((members first additional close).evaluate laps resolve) := by
  apply Carries.apply (carriesFirst.optional _)
  intro head
  split
  · exact closes []
  · apply Carries.apply carriesAdditional.zeroOrMore
    intro rest
    split
    · exact closes _
    · exact .fault _

/-- A container: its brackets change the depth, and its members leave it as it is. -/
theorem carries_container {opener closer : Char} {first additional : Rule ν}
    (enough : source.length < laps) {expectation : Text}
    (single : CodePoint.lineFeed ∉ expectation) (build : List Value → Value)
    (opens : Weighs opener 1) (closes : Weighs closer (-1))
    (carriesFirst : Stays limits source (depth + 1) (first.evaluate laps resolve))
    (carriesAdditional : Stays limits source (depth + 1) (additional.evaluate laps resolve)) :
    Stays limits source depth ((Rule.derivation (.apply (bracket opener 1) fun _ =>
        withinDepth limits (members first additional fun items =>
          .apply (.failpoint (bracket closer (-1)) (.expecting expectation)) fun _ =>
            .finish (build items))) []).evaluate laps resolve) := by
  have closing : Carries limits source ⟨.outside, depth + 1⟩ ⟨.outside, depth + 1 + -1⟩
      ((bracket closer (-1) : Rule ν).evaluate laps resolve) :=
    carries_bracket enough closes
  rw [Int.add_neg_cancel_right] at closing
  apply Carries.derivation
  apply Carries.apply (carries_bracket enough opens)
  intro _
  apply carries_withinDepth
  apply carries_members carriesFirst carriesAdditional
  intro items
  apply Carries.apply (closing.failpoint single)
  intro _
  exact .finish _

section Values

variable (enough : source.length < laps) {self : Rule ν}
  (nested : ∀ depth, Stays limits source depth (self.evaluate laps resolve))

include enough nested

/-- An array, if the rule for its items stays at every depth. -/
theorem carries_array : Stays limits source depth ((array limits self).evaluate laps resolve) := by
  apply carries_container enough (by simp) _ (by decide) (by decide) (nested _)
  apply Carries.derivation
  apply Carries.apply (carries_separator enough (by decide))
  intro _
  exact .apply ((nested _).failpoint (by simp)) .finish

/-- A key, a colon and a value. -/
theorem carries_entrySteps {key : Rule ν}
    (carries : Stays limits source depth (key.evaluate laps resolve)) :
    Stays limits source depth ((entrySteps key self).evaluate laps resolve) := by
  apply Carries.apply carries
  intro _
  apply Carries.apply ((carries_separator enough (by decide)).failpoint (by simp))
  intro _
  apply Carries.apply ((nested _).failpoint (by simp))
  intro _
  exact .finish _

/-- An object, if the rule for its values stays at every depth. -/
theorem carries_object :
    Stays limits source depth ((object limits self).evaluate laps resolve) := by
  apply carries_container enough (by simp) _ (by decide) (by decide)
  · exact .derivation (carries_entrySteps enough nested carries_string)
  · apply Carries.derivation
    apply Carries.apply (carries_separator enough (by decide))
    intro _
    exact carries_entrySteps enough nested (carries_string.failpoint (by simp))

/-- A value, if the rule for nested values stays at every depth. -/
theorem carries_value : Stays limits source depth ((value limits self).evaluate laps resolve) := by
  apply (carries_string.semantics _).choice_cons
  apply carries_number.choice_cons
  apply carries_keyword.choice_cons
  apply (carries_array enough nested).choice_cons
  exact (carries_object enough nested).choice_cons .choice_nil

end Values

/-! ## Documents -/

/-- Values, unfolded to any level: further down an evaluation gives up. -/
theorem carries_unfolded (enough : source.length < laps) (unfoldings : Nat) (depth : Int) :
    Stays limits source depth
      ((grammar limits).evaluateWithin laps unfoldings (value limits (.reference ()))) := by
  induction unfoldings generalizing depth with
  | zero => exact carries_value enough fun _ _ _ => .exhausted
  | succ unfoldings inductionHypothesis =>
      exact carries_value enough inductionHypothesis

/-- A document is a value with white space around it. -/
theorem carries_around {self : Rule ν} (enough : source.length < laps)
    (carries : Stays limits source depth (self.evaluate laps resolve)) :
    Stays limits source depth ((document self).evaluate laps resolve) := by
  apply Carries.semantics
  apply Carries.sequence
  apply Carries.parts_cons (carries_whitespace enough)
  apply Carries.parts_cons carries
  exact .parts_cons (carries_whitespace enough) .parts_nil

/-- The document rule, with names unfolded to any level. -/
theorem carries_document (enough : source.length < laps) (unfoldings : Nat) :
    Stays limits source 0
      ((grammar limits).evaluateWithin laps unfoldings (document (.reference ()))) := by
  cases unfoldings with
  | zero => exact carries_around enough fun _ _ => .exhausted
  | succ unfoldings => exact carries_around enough (carries_unfolded enough unfoldings 0)

/-- The context of a state says what the text before its place says: the line is one more than the
number of line breaks, the column is one more than the number of characters behind the last of
them, and the depth is the number of open containers. The place is inside the source or at its end,
and it is not between a carriage return and a line feed. -/
structure Exact (source : Text) (state : State) : Prop where
  tokens : state.tokens = .ofText source
  nonneg : 0 ≤ state.pos
  within : state.pos ≤ source.length
  context : state.context = .record .document
    [.int (1 + lineBreaks (source.take state.pos.toNat)),
      .int (1 + (lastLine (source.take state.pos.toNat)).length),
      .int (openContainers (source.take state.pos.toNat))]
  uncut : ¬ ((source.take state.pos.toNat).getLast? = some CodePoint.carriageReturn ∧
    (source.drop state.pos.toNat).head? = some CodePoint.lineFeed)

/-- What lies before a cursor is the source up to its place. -/
theorem Cursor.Tracks.take_pos {cursor : Cursor} {standing : Standing}
    (tracks : cursor.Tracks source standing) :
    source.take cursor.state.pos.toNat = cursor.before := by
  have whole : source = cursor.before ++ cursor.rest := tracks.passes.rest
  rw [whole]
  exact List.take_left

/-- A cursor that tracks its source has an exact state. -/
theorem Cursor.Tracks.exact {cursor : Cursor} {standing : Standing}
    (tracks : cursor.Tracks source standing) : Exact source cursor.state := by
  have whole : source = cursor.before ++ cursor.rest := tracks.passes.rest
  have dropped : source.drop cursor.state.pos.toNat = cursor.rest := by
    rw [whole]
    exact List.drop_left
  have place : (cursor.line, cursor.column) =
      (1 + (lineBreaks cursor.before : Int), 1 + ((lastLine cursor.before).length : Int)) := by
    rw [← columnBehind_one, ← track_eq]
    exact tracks.passes.place
  obtain ⟨line, column⟩ := Prod.mk.inj place
  constructor
  · rw [whole]
    rfl
  · exact cursor.pos_nonneg
  · rw [whole, List.length_append]
    show (cursor.before.length : Int) ≤ _
    omega
  · rw [tracks.take_pos, tracks.balanced, ← tracks.depth, ← line, ← column]
    rfl
  · rw [tracks.take_pos, dropped]
    rintro ⟨cut, feed⟩
    exact tracks.passes.uncut cut feed

/-- A reply that matches or fails at a place with an exact state. No container is open behind a
match. -/
def ExactReply (source : Text) : Reply Value → Prop
  | .matched _ state => Exact source state ∧ openContainers (source.take state.pos.toNat) = 0
  | .failed error => Exact source error.state
  | .declined | .raised _ | .exhausted => True

/-- Wherever the document rule stops in a source, within any limits and any budget, the line, the
column and the depth of the context are those of the text before the place; behind a match the
depth is zero. -/
theorem document_exact (limits : Limits) (budget : Budget) (source : Text) :
    ExactReply source ((grammar limits).evaluate budget (document (.reference ()))
      (initialState source)).reply := by
  by_cases spent : ((grammar limits).evaluate budget (document (.reference ()))
    (initialState source)).reply = .exhausted
  · rw [spent]
    trivial
  · -- With more laps the run is the same, and white space is read as far as it goes.
    let larger : Budget := ⟨budget.unfoldings, max budget.laps (source.length + 1)⟩
    have le : budget ≤ larger := ⟨Nat.le_refl _, Nat.le_max_left _ _⟩
    have enough : source.length < larger.laps := Nat.le_max_right _ _
    rw [← Grammar.evaluate_of_le le spent]
    have tracked : Tracked limits source ⟨.outside, 0⟩ ((grammar limits).evaluate larger
        (document (.reference ())) (initialState source)).reply :=
      carries_document enough larger.unfoldings (.start source)
    generalize ((grammar limits).evaluate larger (document (.reference ()))
      (initialState source)).reply = reply at tracked
    cases tracked with
    | matched product tracks =>
        constructor
        · exact tracks.exact
        · rw [tracks.take_pos]
          exact tracks.balanced
    | declined => trivial
    | failed words place tracks =>
        show Exact source _
        rw [place]
        exact tracks.exact
    | raised fault => trivial
    | exhausted => trivial

/-- An unexpected character behind two line breaks and a string with a bracket in it. -/
example : (match ((grammar ⟨1, 0⟩).evaluate ⟨2, 11⟩ (document (.reference ()))
      (initialState (text "[\r\n\"[\",\r ?"))).reply with
    | .failed error => error.state.pos == 9 &&
      error.state.context.same (.record .document [.int 3, .int 2, .int 1])
    | _ => false) = true := by
  decide +kernel

end Descent.Document
