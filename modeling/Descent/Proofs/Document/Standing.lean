import Descent.Proofs.Document.Counters
import Descent.Proofs.Document.Lexeme

/-!
# Where rules take a cursor

A standing is a zone and a depth: strings change the zone, and brackets change the depth. A cursor
tracks its source in a standing if its counters are those of the text before it. `Carries` says from
which standing to which a rule takes such a cursor, and that it fails only at cursors that track the
source as well, with an error in the words of the grammar; there is one fact for each form of rule.

Only matches and failures are spoken of. A rule may fault or give up as far as this module is
concerned, so nothing has to be known about products.
-/

namespace Descent

/-! ## What errors say -/

/-- Different characters are different code points. -/
theorem CodePoint.ofChar_injective : Function.Injective CodePoint.ofChar := by
  intro first second same
  simpa only [CodePoint.ofChar, Fin.mk.injEq, Char.toNat_inj] using same

/-- Words have a line break where their characters have one. -/
@[simp] theorem Text.lineFeed_mem_text (words : String) :
    CodePoint.lineFeed ∈ text words ↔ '\n' ∈ words.toList :=
  List.mem_map_of_injective CodePoint.ofChar_injective

namespace Document

variable {ν α β : Type} {limits : Limits} {source : Text} {laps : Nat} {resolve : ν → Behaviour}
  {cursor : Cursor}

/-- An error in the words of the document grammar: that something is expected, which is said without
a line break, that a limit is exceeded, or that a repetition does not move on. -/
inductive Limits.Words (limits : Limits) (error : ParseError) : Prop where
  | expecting {expectation : Text} {state : State} (single : CodePoint.lineFeed ∉ expectation)
      (worded : ErrorAt.expecting expectation state = .ok error)
  | tooDeep {state : State} (worded : tooDeep limits state = .ok error)
  | tooManyDigits {digits maxDigits : Nat} {start state : State}
      (worded : tooManyDigits digits maxDigits start state = .ok error)
  | stall {state : State} (worded : Behaviour.stallError state = .ok error)

/-! ## Standings -/

/-- Where a cursor stands with regard to strings and containers. -/
structure Standing where
  zone : Zone
  depth : Int

/-- The cursor was reached from the start of the source, and its depth is that of the text before
it. -/
structure Cursor.Tracks (source : Text) (standing : Standing) (cursor : Cursor) : Prop where
  passes : (Cursor.start source).Passes cursor.before cursor
  zone : Zone.outside.behind cursor.before = standing.zone
  depth : cursor.depth = standing.depth
  balanced : openContainers cursor.before = standing.depth

namespace Cursor.Tracks

/-- Nothing has been read in front of a document. -/
theorem start (source : Text) : (Cursor.start source).Tracks source ⟨.outside, 0⟩ :=
  ⟨.refl _, rfl, rfl, rfl⟩

/-- Moving over a text that has the brackets by which the depth changes. -/
theorem advance {next : Cursor} {consumed : Text} {zone : Zone} {depth : Int}
    (tracks : cursor.Tracks source ⟨zone, depth⟩) (passes : cursor.Passes consumed next)
    (deep : next.depth = depth + balance (zone.visible consumed)) :
    next.Tracks source ⟨zone.behind consumed, depth + balance (zone.visible consumed)⟩ where
  passes := by
    rw [passes.before]
    exact tracks.passes.trans passes
  zone := by rw [passes.before, Zone.behind_append, tracks.zone]
  depth := deep
  balanced := by
    have balanced := tracks.balanced
    rw [openContainers] at balanced
    rw [openContainers, passes.before, Zone.visible_append, balance_append, tracks.zone, balanced]

/-- No more lies ahead than the source has. -/
theorem length_rest_le {standing : Standing} (tracks : cursor.Tracks source standing) :
    cursor.rest.length ≤ source.length := by
  have lengths := tracks.passes.length
  have whole : (Cursor.start source).rest = source := rfl
  rw [whole] at lengths
  omega

end Cursor.Tracks

/-- A reply that ends in a standing, or fails at a place with exact counters and in the words of the
grammar. -/
inductive Tracked (limits : Limits) (source : Text) (standing : Standing) : Reply α → Prop where
  | matched (product : α) {next : Cursor} (tracks : next.Tracks source standing) :
      Tracked limits source standing (.matched product next.state)
  | declined : Tracked limits source standing .declined
  | failed {error : ParseError} {elsewhere : Standing} {next : Cursor} (words : limits.Words error)
      (place : error.state = next.state) (tracks : next.Tracks source elsewhere) :
      Tracked limits source standing (.failed error)
  | raised (fault : Fault) : Tracked limits source standing (.raised fault)
  | exhausted : Tracked limits source standing .exhausted

/-- Going on from a reply. -/
theorem Tracked.branch {middle after : Standing} {run : Run α} {onMatch : α → State → Run β}
    {onDecline : Unit → Run β} (tracked : Tracked limits source middle run.reply)
    (ofMatch : ∀ product ⦃next : Cursor⦄, next.Tracks source middle →
      Tracked limits source after (onMatch product next.state).reply)
    (ofDecline : Tracked limits source after (onDecline ()).reply) :
    Tracked limits source after (run.branch onMatch onDecline).reply := by
  generalize replied : run.reply = reply at tracked
  cases tracked with
  | matched product tracks =>
      rw [Run.branch_of_matched replied]
      exact ofMatch product tracks
  | declined =>
      rw [Run.branch_of_declined replied]
      exact ofDecline
  | failed words place tracks =>
      rw [Run.branch_of_failed replied]
      exact .failed words place tracks
  | raised fault =>
      rw [Run.branch_of_raised replied]
      exact .raised fault
  | exhausted =>
      rw [Run.branch_of_exhausted replied]
      exact .exhausted

/-- A reply that is described without failures, and whose matches are at the right place. -/
theorem Cursor.Reads.tracked {standing : Standing} {onMatch : Text → α → Cursor → Prop}
    {onDecline : Prop} {reply : Reply α} (reads : cursor.Reads onMatch onDecline noFailure reply)
    (ofMatch : ∀ consumed product next, cursor.Passes consumed next →
      onMatch consumed product next → next.Tracks source standing) :
    Tracked limits source standing reply := by
  cases reads with
  | matched passes holds => exact .matched _ (ofMatch _ _ _ passes holds)
  | declined => exact .declined
  | failed _ _ impossible | raised _ impossible => exact impossible.elim

/-- A behaviour that takes cursors from one standing to another. -/
def Carries (limits : Limits) (source : Text) (before after : Standing)
    (body : State → Run α) : Prop :=
  ∀ ⦃cursor : Cursor⦄, cursor.Tracks source before →
    Tracked limits source after (body cursor.state).reply

/-- A behaviour that starts and ends outside of strings, at one depth. -/
abbrev Stays (limits : Limits) (source : Text) (depth : Int) (body : State → Run α) : Prop :=
  Carries limits source ⟨.outside, depth⟩ ⟨.outside, depth⟩ body

/-! ## Forms of rules -/

namespace Carries

variable {before middle after : Standing} {rule : Rule ν} {rules : List (Rule ν)}

/-- A transform sees the product and not the place. -/
theorem semantics (carries : Carries limits source before after (rule.evaluate laps resolve))
    (transform : Value → Call Value) :
    Carries limits source before after ((Rule.semantics rule transform).evaluate laps resolve) := by
  intro cursor tracks
  apply (carries tracks).branch
  · intro product next nextTracks
    unfold Call.run
    cases (transform product).outcome with
    | ok result => exact .matched result nextTracks
    | error fault => exact .raised fault
  · exact .declined

/-- Refusing a product undoes the match, and nothing else. -/
theorem accepting (carries : Carries limits source before after (rule.evaluate laps resolve))
    (accepts : Value → Bool) :
    Carries limits source before after ((Rule.accepting rule accepts).evaluate laps resolve) := by
  intro cursor tracks
  apply (carries tracks).branch
  · intro product next nextTracks
    show Tracked limits source after ((if accepts product then Rule.yielding product
      else Rule.never : Rule ν).evaluate laps resolve next.state).reply
    split
    · exact .matched product nextTracks
    · exact .declined
  · exact .declined

/-- A sequence of no parts stays. -/
theorem parts_nil : Carries limits source before before
    (Behaviour.parts (Rule.evaluateAll laps resolve ([] : List (Rule ν)))) :=
  fun _ tracks => .matched [] tracks

/-- The parts of a sequence, each from where the one before it has led. -/
theorem parts_cons (carries : Carries limits source before middle (rule.evaluate laps resolve))
    (others : Carries limits source middle after
      (Behaviour.parts (Rule.evaluateAll laps resolve rules))) :
    Carries limits source before after
      (Behaviour.parts (Rule.evaluateAll laps resolve (rule :: rules))) := by
  intro cursor tracks
  apply (carries tracks).branch
  · intro product next nextTracks
    exact (others nextTracks).branch (fun _ _ lastTracks => .matched _ lastTracks) .declined
  · exact .declined

/-- A sequence, from its parts. -/
theorem sequence (carries : Carries limits source before after
      (Behaviour.parts (Rule.evaluateAll laps resolve rules))) :
    Carries limits source before after ((Rule.sequence rules).evaluate laps resolve) :=
  fun _ tracks => (carries tracks).branch (fun _ _ nextTracks => .matched _ nextTracks) .declined

/-- A choice without alternatives never matches. -/
theorem choice_nil : Carries limits source before after
    ((Rule.choice ([] : List (Rule ν))).evaluate laps resolve) :=
  fun _ _ => .declined

/-- The alternatives of a choice lead to the same standing. -/
theorem choice_cons (carries : Carries limits source before after (rule.evaluate laps resolve))
    (others : Carries limits source before after ((Rule.choice rules).evaluate laps resolve)) :
    Carries limits source before after ((Rule.choice (rule :: rules)).evaluate laps resolve) :=
  fun _ tracks =>
    (carries tracks).branch (fun product _ nextTracks => .matched product nextTracks)
      (others tracks)

/-- What may be missing stays in the standing that it starts from. -/
theorem optional (carries : Carries limits source before before (rule.evaluate laps resolve))
    (default : Value) :
    Carries limits source before before ((Rule.optional rule default).evaluate laps resolve) :=
  fun _ tracks =>
    (carries tracks).branch (fun product _ nextTracks => .matched product nextTracks)
      (.matched default tracks)

/-- A missing part is reported at the cursor where it is missed. -/
theorem failpoint (carries : Carries limits source before after (rule.evaluate laps resolve))
    {expectation : Text} (single : CodePoint.lineFeed ∉ expectation) :
    Carries limits source before after
      ((Rule.failpoint rule (.expecting expectation)).evaluate laps resolve) := by
  intro cursor tracks
  apply (carries tracks).branch
  · intro product next nextTracks
    exact .matched product nextTracks
  · obtain ⟨error, worded, place, -⟩ := Cursor.Reads.exists_expecting cursor expectation
    simp only [Behaviour.fail, worded]
    exact .failed (.expecting single worded) place tracks

/-- A repetition stays in a standing. If it stalls, it does so at the beginning of a lap. -/
theorem collect {body : Behaviour} (carries : Carries limits source before before body)
    (limit : Nat) :
    Carries limits source before before (Behaviour.collect body limit) := by
  induction limit with
  | zero => exact fun _ tracks => .matched [] tracks
  | succ limit inductionHypothesis =>
      intro cursor tracks
      apply (carries tracks).branch
      · intro product next nextTracks
        split
        · obtain ⟨error, worded, reply, place, -⟩ :=
            Behaviour.exists_stall cursor.pos_nonneg cursor.writes_pos
          rw [reply]
          exact .failed (.stall worded) place tracks
        · exact (inductionHypothesis nextTracks).branch
            (fun _ _ lastTracks => .matched _ lastTracks) .declined
      · exact .matched [] tracks

/-- Laps that come back to their standing may be repeated. -/
theorem zeroOrMore (carries : Carries limits source before before (rule.evaluate laps resolve)) :
    Carries limits source before before ((Rule.zeroOrMore rule).evaluate laps resolve) := by
  intro cursor tracks
  apply (carries.collect laps tracks).branch
  · intro products next nextTracks
    split
    · exact .matched _ nextTracks
    · exact .exhausted
  · exact .declined

/-- So may laps of which there has to be one. -/
theorem oneOrMore (carries : Carries limits source before before (rule.evaluate laps resolve)) :
    Carries limits source before before ((Rule.oneOrMore rule).evaluate laps resolve) := by
  intro cursor tracks
  apply (carries.collect laps tracks).branch
  · intro products next nextTracks
    split
    · split
      · exact .declined
      · exact .matched _ nextTracks
    · exact .exhausted
  · exact .declined

/-- So may a fixed number of laps. -/
theorem exactly (carries : Carries limits source before before (rule.evaluate laps resolve))
    (count : Int) :
    Carries limits source before before ((Rule.exactly count rule).evaluate laps resolve) := by
  intro cursor tracks
  apply (carries.collect count.toNat tracks).branch
  · intro products next nextTracks
    split
    · exact .declined
    · exact .matched _ nextTracks
  · exact .declined

/-- A derivation, from its steps. -/
theorem derivation {steps : Steps ν}
    (carries : Carries limits source before after (steps.evaluate laps resolve)) :
    Carries limits source before after ((Rule.derivation steps []).evaluate laps resolve) :=
  carries

/-- A step and the steps after it, whatever its product is. -/
theorem apply {next : Value → Steps ν}
    (carries : Carries limits source before middle (rule.evaluate laps resolve))
    (following : ∀ product,
      Carries limits source middle after ((next product).evaluate laps resolve)) :
    Carries limits source before after ((Steps.apply rule next).evaluate laps resolve) :=
  fun _ tracks => (carries tracks).branch (fun product _ nextTracks => following product nextTracks)
    .declined

/-- A derivation ends where it is. -/
theorem finish (product : Value) :
    Carries limits source before before ((Steps.finish product : Steps ν).evaluate laps resolve) :=
  fun _ tracks => .matched product tracks

/-- A fault leads nowhere. -/
theorem fault (fault : Fault) :
    Carries limits source before after ((Steps.fault fault : Steps ν).evaluate laps resolve) :=
  fun _ _ => .raised fault

/-- A derivation that ends with a result or with a fault. -/
theorem finishWith (result : Except Fault Value) :
    Carries limits source before before
      ((Document.finishWith result : Steps ν).evaluate laps resolve) := by
  cases result with
  | ok product => exact finish product
  | error fault => exact Carries.fault fault

end Carries

end Document

end Descent
