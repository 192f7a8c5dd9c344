import Descent.Proofs.Chain
import Descent.Proofs.Relocation

/-!
# Bookkeeping does not show

Context updates run after a match and leave its product and its place alone. A rule that never asks
for its state can see a context in one way only: a repetition counts a lap as progress if it has
changed the context. Taking all updates out of a rule may therefore make a repetition stall, and
does nothing else. Where the rule without updates does not stall, the rule with them gives the same
answer at the same place.

The comparison is of two evaluations within one budget, so it also says that one of them comes to an
answer if the other does. An updater that faults is the other difference between the two, and the
journal tells of it.
-/

namespace Descent

variable {ν : Type}

mutual

/-- The rule without its context updates. -/
def Rule.withoutUpdates : Rule ν → Rule ν
  | .term test => .term test
  | .empty => .empty
  | .semantics subrule transform => .semantics subrule.withoutUpdates transform
  | .exclude subrule subtrahends =>
    .exclude subrule.withoutUpdates (Rule.allWithoutUpdates subtrahends)
  | .sequence subrules => .sequence (Rule.allWithoutUpdates subrules)
  | .choice subrules => .choice (Rule.allWithoutUpdates subrules)
  | .optional subrule default => .optional subrule.withoutUpdates default
  | .zeroOrMore subrule => .zeroOrMore subrule.withoutUpdates
  | .oneOrMore subrule => .oneOrMore subrule.withoutUpdates
  | .exactly count subrule => .exactly count subrule.withoutUpdates
  | .reference name => .reference name
  | .bind subrule continuation =>
    .bind subrule.withoutUpdates fun product => (continuation product).withoutUpdates
  | .derivation steps closing => .derivation steps.withoutUpdates closing
  | .failpoint subrule error => .failpoint subrule.withoutUpdates error
  | .escalate error => .escalate error
  | .updating subrule _ => subrule.withoutUpdates
  | .watched label subrule => .watched label subrule.withoutUpdates
  | .fault fault => .fault fault

/-- The rules without their context updates. -/
def Rule.allWithoutUpdates : List (Rule ν) → List (Rule ν)
  | [] => []
  | rule :: rest => rule.withoutUpdates :: Rule.allWithoutUpdates rest

/-- The derivation with rules that have no context updates. -/
def Steps.withoutUpdates : Steps ν → Steps ν
  | .finish product => .finish product
  | .apply rule next => .apply rule.withoutUpdates fun product => (next product).withoutUpdates
  | .getState next => .getState fun state => (next state).withoutUpdates
  | .remark remark next => .remark remark next.withoutUpdates
  | .fault fault => .fault fault

end

/-- The grammar whose rules have no context updates. -/
def Grammar.withoutUpdates (grammar : Grammar ν) : Grammar ν := fun name =>
  (grammar name).map Rule.withoutUpdates

/-! ## What is compared -/

/-- States at one place of one sequence, with any contexts. -/
structure State.SamePlace (bare tracked : State) : Prop where
  tokens : bare.tokens = tracked.tokens
  pos : bare.pos = tracked.pos
  maxDigits : bare.maxDigits = tracked.maxDigits

/-- Errors of one code and wording, at one place. -/
structure ParseError.SamePlace (bare tracked : ParseError) : Prop where
  state : bare.state.SamePlace tracked.state
  message : bare.message = tracked.message
  expected : bare.expected = tracked.expected
  found : bare.found = tracked.found
  code : bare.code = tracked.code

/-- States that evaluations without and with updates reach together, at places that can be reported:
the first still has the context that it started with, and equals itself. -/
structure State.Tracks (context : Value) (bare tracked : State) : Prop extends
    bare.SamePlace tracked where
  nonneg : 0 ≤ bare.pos
  named : bare.writes bare.pos
  equal : context.same context
  context : bare.context = context

namespace Run

variable {α β : Type}

/-- An updater has faulted: a rule called it, and the next event is that the rule replied with a
fault. -/
def UpdaterFaulted (run : Run α) : Prop :=
  ∃ fault, [.called .updater, .replied (.raised fault)] <:+: run.journal.toList

/-- A fault of an updater stays in a journal that goes on. -/
theorem UpdaterFaulted.extend {run : Run α} {longer : Run β} (faulted : run.UpdaterFaulted)
    (earlier later : List Entry)
    (extended : longer.journal.toList = earlier ++ run.journal.toList ++ later) :
    longer.UpdaterFaulted := by
  obtain ⟨fault, inside⟩ := faulted
  refine ⟨fault, ?_⟩
  rw [extended]
  exact inside.trans (List.infix_append earlier run.journal.toList later)

/-- The fault of an updater stays one behind other events … -/
theorem UpdaterFaulted.after {run : Run α} (faulted : run.UpdaterFaulted) (events : Journal) :
    (run.after events).UpdaterFaulted :=
  faulted.extend events.toList [] (by simp [Run.after])

/-- … and in front of them. -/
theorem UpdaterFaulted.andNote {run : Run α} (faulted : run.UpdaterFaulted) (events : Journal) :
    (run.andNote events).UpdaterFaulted :=
  faulted.extend [] events.toList (by simp [Run.andNote])

/-- Going on from a run keeps its journal. -/
theorem UpdaterFaulted.branch {run : Run α} (faulted : run.UpdaterFaulted)
    (onMatch : α → State → Run β) (onDecline : Unit → Run β) :
    (run.branch onMatch onDecline).UpdaterFaulted := by
  cases reply : run.reply with
  | matched product next =>
      rw [branch_of_matched reply]
      exact faulted.extend [] (onMatch product next).journal.toList (by simp [Run.after])
  | declined =>
      rw [branch_of_declined reply]
      exact faulted.extend [] (onDecline ()).journal.toList (by simp [Run.after])
  | failed error =>
      rw [branch_of_failed reply]
      exact faulted
  | raised fault =>
      rw [branch_of_raised reply]
      exact faulted
  | exhausted =>
      rw [branch_of_exhausted reply]
      exact faulted

/-- How a run without updates compares with the run with them. -/
inductive Tracks (context : Value) (bare tracked : Run α) : Prop where
  /-- Without updates, a repetition does not move on. -/
  | stalled (error : ParseError) (reply : bare.reply = .failed error)
      (code : error.code = .noProgress)
  | faulted (faulted : tracked.UpdaterFaulted)
  | alike (alike : bare.reply.Alike (State.Tracks context) ParseError.SamePlace tracked.reply)

/-- Events around the runs do not matter. -/
theorem Tracks.within {context : Value} {bare tracked bare' tracked' : Run α}
    (tracks : Tracks context bare tracked) (sameBare : bare'.reply = bare.reply)
    (sameTracked : tracked'.reply = tracked.reply)
    (kept : tracked.UpdaterFaulted → tracked'.UpdaterFaulted) : Tracks context bare' tracked' := by
  cases tracks with
  | stalled error reply code => exact .stalled error (sameBare.trans reply) code
  | faulted faulted => exact .faulted (kept faulted)
  | alike alike =>
      apply Tracks.alike
      rw [sameBare, sameTracked]
      exact alike

/-- Going on from runs of which one has updates. -/
theorem Tracks.branch {context : Value} {bare tracked : Run α}
    {onMatch onMatch' : α → State → Run β} {onDecline onDecline' : Unit → Run β}
    (tracks : Tracks context bare tracked)
    (afterMatch : ∀ product ⦃here there⦄, State.Tracks context here there →
      Tracks context (onMatch product here) (onMatch' product there))
    (afterDecline : Tracks context (onDecline ()) (onDecline' ())) :
    Tracks context (bare.branch onMatch onDecline) (tracked.branch onMatch' onDecline') := by
  cases tracks with
  | stalled error reply code =>
      rw [branch_of_failed reply]
      exact .stalled error rfl code
  | faulted faulted => exact .faulted (faulted.branch onMatch' onDecline')
  | alike alike =>
      generalize bareReply : bare.reply = reply at alike
      generalize trackedReply : tracked.reply = reply' at alike
      cases alike with
      | matched product related =>
          rw [branch_of_matched bareReply, branch_of_matched trackedReply]
          exact (afterMatch product related).within rfl rfl fun faulted => faulted.after _
      | declined =>
          rw [branch_of_declined bareReply, branch_of_declined trackedReply]
          exact afterDecline.within rfl rfl fun faulted => faulted.after _
      | failed related =>
          rw [branch_of_failed bareReply, branch_of_failed trackedReply]
          exact .alike (.failed related)
      | raised fault =>
          rw [branch_of_raised bareReply, branch_of_raised trackedReply]
          exact .alike (.raised fault)
      | exhausted =>
          rw [branch_of_exhausted bareReply, branch_of_exhausted trackedReply]
          exact .alike .exhausted

end Run

/-! ## Combinators -/

variable {context : Value}

namespace State.Tracks

variable {bare tracked : State} (related : State.Tracks context bare tracked)

include related

/-- Both end at the same token … -/
theorem atEnd : bare.atEnd = tracked.atEnd := by
  rw [State.atEnd, State.atEnd, related.tokens, related.pos]

/-- … stand in front of the same token … -/
theorem current : bare.current = tracked.current := by
  rw [State.current, State.current, State.writes, State.writes, related.atEnd, related.tokens,
    related.pos, related.maxDigits]

/-- … show it alike … -/
theorem foundToken : bare.foundToken = tracked.foundToken := by
  rw [State.foundToken, State.foundToken, State.next?, State.next?, related.tokens, related.pos]

/-- … and can both show it or not. -/
theorem foundIsWritable : bare.foundIsWritable = tracked.foundIsWritable := by
  rw [State.foundIsWritable, State.foundIsWritable, State.next?, State.next?, related.tokens,
    related.pos, related.maxDigits]

/-- The context of the second state does not matter. -/
theorem withContext (other : Value) : State.Tracks context bare (tracked.withContext other) :=
  ⟨⟨related.tokens, related.pos, related.maxDigits⟩, related.nonneg, related.named,
    related.equal, related.context⟩

/-- Both move on alike. -/
theorem forward (count : Nat) :
    State.Tracks context (bare.forward count) (tracked.forward count) where
  tokens := related.tokens
  pos := by
    show min (bare.pos + count) bare.tokens.size = min (tracked.pos + count) tracked.tokens.size
    rw [related.tokens, related.pos]
  maxDigits := related.maxDigits
  nonneg := by
    have nonneg := related.nonneg
    show 0 ≤ min (bare.pos + count) bare.tokens.size
    omega
  named := by
    have nonneg := related.nonneg
    have place : (bare.forward count).pos = min (bare.pos + count) bare.tokens.size := rfl
    exact State.writes_of_within (by omega) (by show _ ≤ (bare.tokens.size : Int) + 1; omega)
  context := related.context
  equal := related.equal

end State.Tracks

/-- Updaters replace the context, or one of them faults when it is called. -/
theorem Behaviour.update_cases (product : Value) (updaters : List Updater) (state : State) :
    (∃ other, (update product updaters state).reply = .matched product (state.withContext other)) ∨
      ∃ fault, (update product updaters state).reply = .raised fault ∧
        [.called .updater] <:+ (update product updaters state).journal.toList := by
  induction updaters generalizing state with
  | nil => exact .inl ⟨state.context, rfl⟩
  | cons updater rest inductionHypothesis =>
      rw [update, Run.andThen]
      cases updated : updater state.context with
      | error fault =>
          right
          refine ⟨fault, rfl, [], rfl⟩
      | ok other =>
          have called : (Call.run .updater state ⟨.ok other, []⟩).reply = .matched other state :=
            rfl
          rw [Run.branch_of_matched called]
          rcases inductionHypothesis (state.withContext other) with
            ⟨last, replied⟩ | ⟨fault, replied, ended⟩
          · exact .inl ⟨last, replied⟩
          · right
            refine ⟨fault, replied, ?_⟩
            simp only [Run.after, Journal.toList_append]
            exact ended.trans (List.suffix_append _ _)

/-- The expected error is worded by the place alone. -/
theorem ErrorAt.tracks_expecting (expectation : Text) {here there : State}
    (related : State.Tracks context here there) (origin : FailureOrigin) :
    Run.Tracks context (Behaviour.fail origin (.expecting expectation) here : Run Value)
      (Behaviour.fail origin (.expecting expectation) there) := by
  obtain ⟨span, spanEq⟩ := State.exists_span related.nonneg
  have nonneg : 0 ≤ there.pos := related.pos ▸ related.nonneg
  obtain ⟨span', spanEq'⟩ := State.exists_span nonneg
  simp only [Behaviour.fail, expecting_of_span spanEq, expecting_of_span spanEq',
    State.Tracks.foundIsWritable related, State.Tracks.foundToken related]
  cases there.foundIsWritable with
  | false => exact .alike (.raised .longNumeral)
  | true => exact .alike (.failed ⟨related.toSamePlace, rfl, rfl, rfl, rfl⟩)

/-- Evaluations of a rule without and with its updates. -/
def Pairing.bookkeeping (context : Value) : Pairing where
  Runs := Run.Tracks context
  States := State.Tracks context

/-- Every step of an evaluation keeps the states side by side. -/
theorem Pairing.bookkeeping_closed : (Pairing.bookkeeping context).Closed where
  matched product _ _ related := .alike (.matched product related)
  declined := .alike .declined
  raised fault := .alike (.raised fault)
  exhausted := .alike .exhausted
  call callee call _ _ related := .alike (Call.alike_run callee call related)
  terminal test here there related := by
    unfold Behaviour.term
    rw [State.Tracks.atEnd related, State.Tracks.current related]
    split
    · exact .alike .declined
    · split
      · exact .alike (.raised _)
      · apply Run.Tracks.branch (.alike (Call.alike_run .test _ related))
        · intro passes next next' after
          cases passes with
          | true => exact .alike (.matched _ (after.forward 1))
          | false => exact .alike .declined
        · exact .alike .declined
  branch tracks afterMatch afterDecline := tracks.branch afterMatch afterDecline
  lap {here there next next' first second} before after tracks := by
    by_cases stays : next.pos = here.pos
    · -- The context has not changed either, as there are no updates: the lap stalls.
      obtain ⟨error, -, reply, -, code⟩ := Behaviour.exists_stall before.nonneg before.named
      refine .stalled error ?_ code
      have stands : next.samePosition here := by
        simp [State.samePosition, stays, after.context, before.context, before.equal]
      rw [if_pos stands, reply]
    · -- Both have moved on, whatever their contexts are.
      have bareMoves : ¬ next.samePosition here := by simp [State.samePosition, stays]
      have trackedMoves : ¬ next'.samePosition there := by
        simp [State.samePosition, ← after.pos, ← before.pos, stays]
      rw [if_neg bareMoves, if_neg trackedMoves]
      exact tracks
  observe _ tracks := tracks.within rfl rfl fun faulted => (faulted.after _).andNote _
  watch _ _ tracks := tracks.within rfl rfl fun faulted => (faulted.after _).andNote _
  remarkBefore _ tracks := tracks.within rfl rfl fun faulted => faulted.after _
  remarkAfter _ tracks := tracks.within rfl rfl fun faulted => faulted.andNote _

/-! ## Rules and grammars -/

variable {laps : Nat} {resolve resolve' : ν → Behaviour}

/-- Updates change the context of the second evaluation after a match, or fault there. -/
theorem Rule.tracks_updating {bare rule : Rule ν} (updaters : List Updater)
    (tracks : (Pairing.bookkeeping context).Behaviours (bare.evaluate laps resolve)
      (rule.evaluate laps resolve')) :
    (Pairing.bookkeeping context).Behaviours (bare.evaluate laps resolve)
      ((Rule.updating rule updaters).evaluate laps resolve') := by
  intro here there related
  show Run.Tracks context _ (Behaviour.observe there
    ((rule.evaluate laps resolve' there).branch _ fun _ => .declined))
  cases tracks related with
  | stalled error reply code => exact .stalled error reply code
  | faulted faulted => exact .faulted (((faulted.branch _ _).after _).andNote _)
  | alike alike =>
      generalize bareReply : (bare.evaluate laps resolve here).reply = reply at alike
      generalize trackedReply : (rule.evaluate laps resolve' there).reply = reply' at alike
      cases alike with
      | @matched product next next' after =>
          rw [Run.branch_of_matched trackedReply]
          rcases Behaviour.update_cases product updaters next' with
            ⟨other, replied⟩ | ⟨fault, replied, earlier, ended⟩
          · apply Run.Tracks.alike
            rw [bareReply]
            show Reply.Alike _ _ _ (Behaviour.update product updaters next').reply
            rw [replied]
            exact .matched product (after.withContext other)
          · -- The call of the updater ends the journal, and the reply comes right behind it.
            refine .faulted ⟨fault, .applied there ::
              (rule.evaluate laps resolve' there).journal.toList ++ earlier, [], ?_⟩
            simp [Behaviour.observe, Run.andNote, Run.after, ← ended, replied]
      | declined =>
          rw [Run.branch_of_declined trackedReply]
          apply Run.Tracks.alike
          rw [bareReply]
          exact .declined
      | failed errors =>
          rw [Run.branch_of_failed trackedReply]
          apply Run.Tracks.alike
          rw [bareReply]
          exact .failed errors
      | raised fault =>
          rw [Run.branch_of_raised trackedReply]
          apply Run.Tracks.alike
          rw [bareReply]
          exact .raised fault
      | exhausted =>
          rw [Run.branch_of_exhausted trackedReply]
          apply Run.Tracks.alike
          rw [bareReply]
          exact .exhausted

mutual

/-- A rule that does not look at its place gives the same answer without its updates, unless a
repetition stalls. -/
theorem Rule.tracks
    (named : ∀ name, (Pairing.bookkeeping context).Behaviours (resolve name) (resolve' name)) :
    ∀ rule : Rule ν, rule.Placeless → (Pairing.bookkeeping context).Behaviours
      (rule.withoutUpdates.evaluate laps resolve) (rule.evaluate laps resolve')
  | .term test, _ => Pairing.bookkeeping_closed.term test
  | .empty, _ => Pairing.bookkeeping_closed.empty
  | .semantics subrule transform, placeless =>
    Pairing.bookkeeping_closed.semantics (Rule.tracks named subrule placeless) transform
  | .exclude subrule subtrahends, placeless =>
    Pairing.bookkeeping_closed.exclude (Rule.tracks named subrule placeless.1)
      (Rule.allTrack named subtrahends placeless.2)
  | .sequence subrules, placeless =>
    Pairing.bookkeeping_closed.sequence (Rule.allTrack named subrules placeless)
  | .choice subrules, placeless =>
    Pairing.bookkeeping_closed.choice (Rule.allTrack named subrules placeless)
  | .optional subrule default, placeless =>
    Pairing.bookkeeping_closed.optional (Rule.tracks named subrule placeless) default
  | .zeroOrMore subrule, placeless =>
    Pairing.bookkeeping_closed.zeroOrMore (Rule.tracks named subrule placeless)
  | .oneOrMore subrule, placeless =>
    Pairing.bookkeeping_closed.oneOrMore (Rule.tracks named subrule placeless)
  | .exactly count subrule, placeless =>
    Pairing.bookkeeping_closed.exactly (Rule.tracks named subrule placeless) count
  | .reference name, _ => Pairing.bookkeeping_closed.reference (named name)
  | .bind subrule continuation, placeless =>
    Pairing.bookkeeping_closed.bind (Rule.tracks named subrule placeless.1) fun product =>
      Rule.tracks named (continuation product) (placeless.2 product)
  | .derivation steps closing, placeless =>
    Pairing.bookkeeping_closed.derivation (Steps.tracks named steps placeless) closing
  | .failpoint subrule _, ⟨placeless, expectation, worded⟩ =>
    Pairing.bookkeeping_closed.failpoint (Rule.tracks named subrule placeless)
      (worded ▸ fun _ _ => ErrorAt.tracks_expecting expectation)
  | .escalate _, ⟨expectation, worded⟩ =>
    Pairing.bookkeeping_closed.escalate (worded ▸ fun _ _ => ErrorAt.tracks_expecting expectation)
  | .updating subrule updaters, placeless =>
    Rule.tracks_updating updaters (Rule.tracks named subrule placeless)
  | .watched label subrule, placeless =>
    Pairing.bookkeeping_closed.watched (Rule.tracks named subrule placeless) label
  | .fault fault, _ => Pairing.bookkeeping_closed.fault fault

/-- Rules that do not look at their place give the same answers without their updates. -/
theorem Rule.allTrack
    (named : ∀ name, (Pairing.bookkeeping context).Behaviours (resolve name) (resolve' name)) :
    ∀ rules : List (Rule ν), Rule.AllPlaceless rules →
      List.Forall₂ (Pairing.bookkeeping context).Behaviours
        (Rule.evaluateAll laps resolve (Rule.allWithoutUpdates rules))
        (Rule.evaluateAll laps resolve' rules)
  | [], _ => .nil
  | rule :: rest, placeless =>
    .cons (Rule.tracks named rule placeless.1) (Rule.allTrack named rest placeless.2)

/-- A derivation that does not look at its place gives the same answer without updates. -/
theorem Steps.tracks
    (named : ∀ name, (Pairing.bookkeeping context).Behaviours (resolve name) (resolve' name)) :
    ∀ steps : Steps ν, steps.Placeless → (Pairing.bookkeeping context).Behaviours
      (steps.withoutUpdates.evaluate laps resolve) (steps.evaluate laps resolve')
  | .finish product, _ => Pairing.bookkeeping_closed.finish product
  | .apply rule next, placeless =>
    Pairing.bookkeeping_closed.apply (Rule.tracks named rule placeless.1) fun product =>
      Steps.tracks named (next product) (placeless.2 product)
  | .remark remark next, placeless =>
    Pairing.bookkeeping_closed.remark remark (Steps.tracks named next placeless)
  | .fault fault, _ => Pairing.bookkeeping_closed.halt fault

end

namespace Grammar

variable {grammar : Grammar ν} (placeless : ∀ name rule, grammar name = some rule → rule.Placeless)

include placeless

/-- Unfolding names without and with updates. -/
theorem tracks_evaluateWithin (laps unfoldings : Nat) {root : Rule ν}
    (rootPlaceless : root.Placeless) :
    (Pairing.bookkeeping context).Behaviours
      (grammar.withoutUpdates.evaluateWithin laps unfoldings root.withoutUpdates)
      (grammar.evaluateWithin laps unfoldings root) := by
  induction unfoldings generalizing root with
  | zero =>
      exact Rule.tracks (fun _ _ _ _ => Pairing.bookkeeping_closed.exhausted) root rootPlaceless
  | succ unfoldings inductionHypothesis =>
      apply Rule.tracks _ root rootPlaceless
      intro name here there related
      rw [withoutUpdates]
      cases defined : grammar name with
      | none => exact Pairing.bookkeeping_closed.raised .undefinedRule
      | some rule => exact inductionHypothesis (placeless name rule defined) related

/-- Evaluating a rule with its context updates and without them, from any place that is not before
the sequence and can be named, and from any context that equals itself: unless an updater faults, or
a repetition of the rule without updates does not move on, the replies are of one kind, with equal
products, places, codes, wordings, expectations and found tokens. This is so within every budget, so
the rule with updates comes to an answer if the other does. -/
theorem evaluate_withoutUpdates (budget : Budget) {root : Rule ν} (rootPlaceless : root.Placeless)
    {state : State} (nonneg : 0 ≤ state.pos) (named : state.writes state.pos)
    (equal : state.context.same state.context)
    (returns : ¬ (grammar.evaluate budget root state).UpdaterFaulted)
    (moves : ∀ error,
      (grammar.withoutUpdates.evaluate budget root.withoutUpdates state).reply = .failed error →
        error.code ≠ .noProgress) :
    (grammar.withoutUpdates.evaluate budget root.withoutUpdates state).reply.Alike
      State.SamePlace ParseError.SamePlace (grammar.evaluate budget root state).reply := by
  have related : State.Tracks state.context state state :=
    ⟨⟨rfl, rfl, rfl⟩, nonneg, named, equal, rfl⟩
  cases tracks_evaluateWithin placeless budget.laps budget.unfoldings rootPlaceless related with
  | stalled error reply code => exact absurd code (moves error reply)
  | faulted faulted => exact absurd faulted returns
  | alike alike => exact alike.mono State.Tracks.toSamePlace id

end Grammar

/-- Letters whose columns are counted, and a digit that has to follow them: both evaluations fail
behind the letters, and the one with updates knows the column. -/
theorem evaluate_withoutUpdates_letters :
    let letters : Rule Unit := .sequence
      [.zeroOrMore (.trackColumn (.literal (.str (text "a")))),
        .failpoint (.literal (.str (text "1"))) (.expecting (text "digit"))]
    let grammar : Grammar Unit := fun _ => none
    let state := State.forText (.ofText (text "aab"))
    let bare := grammar.withoutUpdates.evaluate ⟨0, 4⟩ letters.withoutUpdates state
    let tracked := grammar.evaluate ⟨0, 4⟩ letters state
    ((∃ error, bare.reply = .failed error ∧ error.state.pos = 2 ∧
          error.state.context.same (.record .position [.int 1, .int 1])) ∧
        ∃ error, tracked.reply = .failed error ∧ error.state.pos = 2 ∧
          error.state.context.same (.record .position [.int 1, .int 3])) ∧
      bare.reply.Alike State.SamePlace ParseError.SamePlace tracked.reply := by
  intro letters grammar state bare tracked
  have quiet : tracked.journal.toList.all
      (fun | .replied (.raised _) => false | _ => true) = true := rfl
  constructor
  · exact ⟨⟨_, rfl, rfl, rfl⟩, ⟨_, rfl, rfl, rfl⟩⟩
  · apply Grammar.evaluate_withoutUpdates
    · intro name rule defined
      cases defined
    · exact ⟨trivial, ⟨trivial, _, rfl⟩, trivial⟩
    · exact Int.le_refl 0
    · rfl
    · rfl
    · rintro ⟨fault, inside⟩
      have held := inside.subset (List.mem_cons_of_mem _ List.mem_cons_self)
      have shown := List.all_eq_true.mp quiet _ held
      cases shown
    · intro error replied
      cases replied
      decide

/-- A match in place whose context is set to zero, without and with the update. With a context that
is no number, two matches in a row count as progress only without the update. At a place that cannot
be named, one match cannot be reported only without the update. -/
theorem updates_show :
    let stamped : Rule Empty := .updating .empty [fun _ => .ok (.int 0)]
    let grammar : Grammar Empty := fun _ => none
    let unequal : State := { tokens := .ofText (text ""), context := .float .nan }
    let far : State := { tokens := .items #[], pos := Text.leastUnwritten }
    let bare (count : Int) (state : State) :=
      grammar.withoutUpdates.evaluate ⟨0, 0⟩ (Rule.exactly count stamped).withoutUpdates state
    let tracked (count : Int) (state : State) :=
      grammar.evaluate ⟨0, 0⟩ (.exactly count stamped) state
    (∀ count, (Rule.exactly count stamped).Placeless) ∧
      ((bare 2 unequal).reply = .matched (.tuple [.none, .none]) unequal ∧
        ¬ (tracked 2 unequal).UpdaterFaulted ∧
        ∃ error, (tracked 2 unequal).reply = .failed error ∧ error.code = .noProgress) ∧
      (bare 1 far).reply = .raised .longNumeral ∧
        (tracked 1 far).reply = .matched (.tuple [.none]) (far.withContext (.int 0)) := by
  intro stamped grammar unequal far bare tracked
  have quiet : (tracked 2 unequal).journal.toList.all
      (fun | .replied (.raised _) => false | _ => true) = true := rfl
  have unwritten : far.writes far.pos = false := by decide +kernel
  have plain : far.context = .none := rfl
  clear_value far
  refine ⟨fun _ => trivial, ⟨rfl, ?_, _, rfl, rfl⟩, ?_, ?_⟩
  · rintro ⟨fault, inside⟩
    have held := inside.subset (List.mem_cons_of_mem _ List.mem_cons_self)
    have shown := List.all_eq_true.mp quiet _ held
    cases shown
  · have silent : ¬ far.Reportable := fun reportable =>
      Bool.false_ne_true (unwritten.symm.trans reportable.1)
    let body : Behaviour := (Rule.empty : Rule Empty).evaluate 0 fun _ _ => .exhausted
    have inPlace : far.samePosition far := by
      rw [State.samePosition, plain, beq_self_eq_true]
      rfl
    have ends : Ends body.Replies far .declined (Behaviour.stall far : Run Value).reply :=
      .stalled rfl inPlace
    have replied := Behaviour.reply_of_ends (.nil far) (Nat.zero_lt_one) (Behaviour.counted 1) ends
    rw [Behaviour.reply_stall, Behaviour.stallError_of_not_reportable silent, State.silence,
      unwritten] at replied
    exact replied
  · let body : Behaviour := stamped.evaluate 0 fun _ _ => .exhausted
    have moved : (far.withContext (.int 0)).samePosition far = false := by
      rw [State.samePosition, plain]
      exact Bool.and_false _
    have chain : Chain body.Replies far [.none] (far.withContext (.int 0)) :=
      .cons rfl moved (.nil _)
    exact Behaviour.reply_of_chain chain (Behaviour.counted 1)

end Descent
