import Descent.Proofs.Invariant
import Descent.Proofs.Pairing
import Descent.Rule.Derived

/-!
# Commitments are conservative

A failpoint commits an evaluation to a rule: where the rule declines, the evaluation fails instead
of trying something else. Taking all failpoints out of a rule gives a rule that goes on trying.

The two evaluations do the same until a failpoint strikes. A failure is never intercepted, so the
committed evaluation is then lost to that failure. Whatever else it comes to, a match, a decline or
a failure of another origin, the evaluation without failpoints comes to as well. What that one does
where a failpoint has struck is not said here.
-/

namespace Descent

variable {ν : Type}

mutual

/-- The rule without its failpoints. -/
@[simp] def Rule.withoutFailpoints : Rule ν → Rule ν
  | .term test => .term test
  | .empty => .empty
  | .semantics subrule transform => .semantics subrule.withoutFailpoints transform
  | .exclude subrule subtrahends =>
    .exclude subrule.withoutFailpoints (Rule.allWithoutFailpoints subtrahends)
  | .sequence subrules => .sequence (Rule.allWithoutFailpoints subrules)
  | .choice subrules => .choice (Rule.allWithoutFailpoints subrules)
  | .optional subrule default => .optional subrule.withoutFailpoints default
  | .zeroOrMore subrule => .zeroOrMore subrule.withoutFailpoints
  | .oneOrMore subrule => .oneOrMore subrule.withoutFailpoints
  | .exactly count subrule => .exactly count subrule.withoutFailpoints
  | .reference name => .reference name
  | .bind subrule continuation =>
    .bind subrule.withoutFailpoints fun product => (continuation product).withoutFailpoints
  | .derivation steps closing => .derivation steps.withoutFailpoints closing
  | .failpoint subrule _ => subrule.withoutFailpoints
  | .escalate error => .escalate error
  | .updating subrule updaters => .updating subrule.withoutFailpoints updaters
  | .watched label subrule => .watched label subrule.withoutFailpoints
  | .fault fault => .fault fault

/-- The rules without their failpoints. -/
@[simp] def Rule.allWithoutFailpoints : List (Rule ν) → List (Rule ν)
  | [] => []
  | rule :: rest => rule.withoutFailpoints :: Rule.allWithoutFailpoints rest

/-- The derivation with rules that have no failpoints. -/
@[simp] def Steps.withoutFailpoints : Steps ν → Steps ν
  | .finish product => .finish product
  | .apply rule next =>
    .apply rule.withoutFailpoints fun product => (next product).withoutFailpoints
  | .getState next => .getState fun state => (next state).withoutFailpoints
  | .remark remark next => .remark remark next.withoutFailpoints
  | .fault fault => .fault fault

end

/-- The grammar whose rules have no failpoints. -/
def Grammar.withoutFailpoints (grammar : Grammar ν) : Grammar ν := fun name =>
  (grammar name).map Rule.withoutFailpoints

/-! ## Where a failure comes from -/

/-- What a failure came from, if the event is that one arises. -/
def Entry.origin? : Entry → Option FailureOrigin
  | .failing origin => some origin
  | _ => none

/-- What the failures came from that arose, in order. -/
def Journal.origins (journal : Journal) : List FailureOrigin :=
  journal.toList.filterMap Entry.origin?

namespace Journal

@[simp] theorem origins_entry (event : Entry) : (entry event).origins = event.origin?.toList := by
  cases event <;> rfl

@[simp] theorem origins_append (first second : Journal) :
    (first ++ second).origins = first.origins ++ second.origins := by
  rw [origins, toList_append, List.filterMap_append]
  rfl

@[simp] theorem origins_remarked (remarks : List Remark) :
    (ofList (remarks.map .remarked)).origins = [] := by
  rw [origins, toList_ofList, List.filterMap_map, List.filterMap_eq_nil_iff]
  intro remark _
  rfl

end Journal

namespace Run

variable {α β : Type}

/-- A run that has failed, where a failure of the given origin arose. -/
structure FailedBy (origin : FailureOrigin) (run : Run α) : Prop where
  failed : ∃ error, run.reply = .failed error
  arose : origin ∈ run.journal.origins

/-- A failure arises in a run exactly if the run fails, and no other does before or after it. -/
inductive Originates (run : Run α) : Prop where
  | failed (error : ParseError) (origin : FailureOrigin) (reply : run.reply = .failed error)
      (only : run.journal.origins = [origin])
  | unfailed (reply : ∀ error, run.reply ≠ .failed error) (none : run.journal.origins = [])

/-- Events around a run in which no failure arises. -/
theorem Originates.within {run longer : Run α} (originates : run.Originates)
    (sameReply : longer.reply = run.reply)
    (sameOrigins : longer.journal.origins = run.journal.origins) : longer.Originates := by
  cases originates with
  | failed error origin reply only =>
      exact .failed error origin (sameReply.trans reply) (sameOrigins.trans only)
  | unfailed reply none =>
      refine .unfailed ?_ (sameOrigins.trans none)
      rw [sameReply]
      exact reply

/-- Going on from a run. -/
theorem Originates.branch {run : Run α} (originates : run.Originates)
    {onMatch : α → State → Run β} {onDecline : Unit → Run β}
    (afterMatch : ∀ product next, run.reply = .matched product next →
      (onMatch product next).Originates)
    (afterDecline : run.reply = .declined → (onDecline ()).Originates) :
    (run.branch onMatch onDecline).Originates := by
  cases originates with
  | failed error origin reply only =>
      rw [branch_of_failed reply]
      exact .failed error origin rfl only
  | unfailed unfailed none =>
      cases reply : run.reply with
      | matched product next =>
          rw [branch_of_matched reply]
          exact (afterMatch product next reply).within rfl (by simp [Run.after, none])
      | declined =>
          rw [branch_of_declined reply]
          exact (afterDecline reply).within rfl (by simp [Run.after, none])
      | failed error => exact absurd reply (unfailed error)
      | raised fault =>
          rw [branch_of_raised reply]
          exact .unfailed (by simp) none
      | exhausted =>
          rw [branch_of_exhausted reply]
          exact .unfailed (by simp) none

/-- A failure that arose is what the run comes to. -/
theorem Originates.failedBy {run : Run α} (originates : run.Originates) {origin : FailureOrigin}
    (arose : origin ∈ run.journal.origins) : run.FailedBy origin := by
  cases originates with
  | failed error _ reply _ => exact ⟨⟨error, reply⟩, arose⟩
  | unfailed reply none =>
      rw [none] at arose
      cases arose

/-- A run has failed by one origin only. -/
theorem Originates.unique {run : Run α} (originates : run.Originates)
    {first second : FailureOrigin} (byFirst : run.FailedBy first) (bySecond : run.FailedBy second) :
    first = second := by
  have ofFirst := byFirst.arose
  have ofSecond := bySecond.arose
  cases originates with
  | failed error origin reply only =>
      rw [only, List.mem_singleton] at ofFirst ofSecond
      rw [ofFirst, ofSecond]
  | unfailed reply none =>
      rw [none] at ofFirst
      cases ofFirst

end Run

/-- A failure as it arises. -/
theorem Behaviour.originates_fail {α : Type} (origin : FailureOrigin) (error : ErrorAt)
    (state : State) : (fail origin error state : Run α).Originates := by
  unfold fail
  split
  · next error _ => exact .failed error origin rfl rfl
  · exact .unfailed nofun rfl

/-- A call of a function of the grammar. -/
theorem Call.originates_run {α : Type} (callee : Callee) (state : State) (call : Call α) :
    (call.run callee state).Originates := by
  have none : (call.run callee state).journal.origins = [] := by
    simp [Call.run, Entry.origin?]
  refine .unfailed ?_ none
  intro error replied
  cases outcome : call.outcome <;> simp [Call.run, outcome] at replied

/-- Every combinator keeps track of where a failure comes from. -/
theorem originates_kept : RunProperty.Kept fun _ _ run => run.Originates where
  matched _ _ := .unfailed nofun rfl
  forward _ _ _ := .unfailed nofun rfl
  declined _ := .unfailed nofun rfl
  raised _ _ := .unfailed nofun rfl
  exhausted _ := .unfailed nofun rfl
  call callee state call := call.originates_run callee state
  fail origin error _ state := Behaviour.originates_fail origin error state
  stall state := (Behaviour.originates_fail .stall Behaviour.stallError state).within rfl rfl
  branch first afterMatch afterDecline := first.branch afterMatch afterDecline
  follow _ _ second := second
  context moved := moved
  observe first :=
    first.within rfl (by simp [Behaviour.observe, Run.after, Run.andNote, Entry.origin?])
  remarkBefore remark first := first.within rfl (by simp [Run.after, Entry.origin?])
  remarkAfter remarks first := first.within rfl (by simp [Run.andNote])

/-! ## Runs with and without failpoints -/

namespace Run

variable {α β : Type}

/-- How a run without failpoints compares with the run that has them. -/
inductive Relaxes (committed relaxed : Run α) : Prop where
  | raised (fault : Fault) (reply : committed.reply = .raised fault)
  | struck (failed : committed.FailedBy .failpoint)
  | same (same : relaxed.reply = committed.reply)

/-- Events around the runs do not matter. -/
theorem Relaxes.within {committed relaxed committed' relaxed' : Run α}
    (relaxes : Relaxes committed relaxed) (sameCommitted : committed'.reply = committed.reply)
    (sameRelaxed : relaxed'.reply = relaxed.reply)
    (kept : committed.journal.origins ⊆ committed'.journal.origins) :
    Relaxes committed' relaxed' := by
  cases relaxes with
  | raised fault reply => exact .raised fault (sameCommitted.trans reply)
  | struck failed =>
      refine .struck ⟨?_, kept failed.arose⟩
      rw [sameCommitted]
      exact failed.failed
  | same same =>
      apply Relaxes.same
      rw [sameRelaxed, sameCommitted, same]

/-- Going on from runs of which one has failpoints. -/
theorem Relaxes.branch {committed relaxed : Run α} {onMatch onMatch' : α → State → Run β}
    {onDecline onDecline' : Unit → Run β} (relaxes : Relaxes committed relaxed)
    (afterMatch : ∀ product next, Relaxes (onMatch product next) (onMatch' product next))
    (afterDecline : Relaxes (onDecline ()) (onDecline' ())) :
    Relaxes (committed.branch onMatch onDecline) (relaxed.branch onMatch' onDecline') := by
  cases relaxes with
  | raised fault reply =>
      rw [branch_of_raised reply]
      exact .raised fault rfl
  | struck failed =>
      obtain ⟨⟨error, reply⟩, arose⟩ := failed
      rw [branch_of_failed reply]
      exact .struck ⟨⟨error, rfl⟩, arose⟩
  | same same =>
      cases reply : committed.reply with
      | matched product next =>
          rw [branch_of_matched reply, branch_of_matched (same.trans reply)]
          exact (afterMatch product next).within rfl rfl (by simp [Run.after])
      | declined =>
          rw [branch_of_declined reply, branch_of_declined (same.trans reply)]
          exact afterDecline.within rfl rfl (by simp [Run.after])
      | failed error =>
          rw [branch_of_failed reply, branch_of_failed (same.trans reply)]
          exact .same rfl
      | raised fault =>
          rw [branch_of_raised reply]
          exact .raised fault rfl
      | exhausted =>
          rw [branch_of_exhausted reply, branch_of_exhausted (same.trans reply)]
          exact .same rfl

end Run

/-- Evaluations at one state, with failpoints and without them. -/
def Pairing.commitment : Pairing where
  Runs := Run.Relaxes
  States := Eq

theorem Pairing.commitment_closed : Pairing.commitment.Closed where
  matched product _ _ related := related ▸ .same rfl
  declined := .same rfl
  raised fault := .same rfl
  exhausted := .same rfl
  call callee call _ _ related := related ▸ .same rfl
  terminal test _ _ related := related ▸ .same rfl
  branch relaxes afterMatch afterDecline :=
    relaxes.branch (fun product _ => afterMatch product rfl) afterDecline
  lap before after relaxes := by
    cases before
    cases after
    split
    · exact .same rfl
    · exact relaxes
  observe _ relaxes := relaxes.within rfl rfl (by simp [Behaviour.observe, Run.after, Run.andNote])
  watch _ _ relaxes := relaxes.within rfl rfl (by simp [Behaviour.watched, Run.after, Run.andNote])
  remarkBefore _ relaxes := relaxes.within rfl rfl (by simp [Run.after])
  remarkAfter _ relaxes := relaxes.within rfl rfl (by simp [Run.andNote])

/-! ## Rules and grammars -/

variable {laps : Nat} {resolve resolve' : ν → Behaviour}

/-- A failpoint strikes where its rule declines, and is not noticed elsewhere. -/
theorem Rule.relaxes_failpoint {rule relaxed : Rule ν} (error : ErrorAt)
    (relaxes : Pairing.commitment.Behaviours (rule.evaluate laps resolve)
      (relaxed.evaluate laps resolve')) :
    Pairing.commitment.Behaviours ((Rule.failpoint rule error).evaluate laps resolve)
      (relaxed.evaluate laps resolve') := by
  intro here there related
  cases related
  show Run.Relaxes (Behaviour.observe here ((rule.evaluate laps resolve here).branch .matched
    fun _ => Behaviour.fail .failpoint error here)) _
  cases relaxes (rfl : here = here) with
  | raised fault reply =>
      rw [Run.branch_of_raised reply]
      exact .raised fault rfl
  | struck failed =>
      obtain ⟨⟨failure, reply⟩, arose⟩ := failed
      rw [Run.branch_of_failed reply]
      refine .struck ⟨⟨failure, rfl⟩, ?_⟩
      simp [Behaviour.observe, Run.after, Run.andNote, arose]
  | same same =>
      cases reply : (rule.evaluate laps resolve here).reply with
      | matched product next =>
          rw [Run.branch_of_matched reply]
          exact .same (same.trans reply)
      | declined =>
          rw [Run.branch_of_declined reply, Behaviour.fail]
          cases error here with
          | ok failure =>
              refine .struck ⟨⟨failure, rfl⟩, ?_⟩
              simp [Behaviour.observe, Run.after, Run.andNote, Entry.origin?]
          | error fault => exact .raised fault rfl
      | failed failure =>
          rw [Run.branch_of_failed reply]
          exact .same (same.trans reply)
      | raised fault =>
          rw [Run.branch_of_raised reply]
          exact .raised fault rfl
      | exhausted =>
          rw [Run.branch_of_exhausted reply]
          exact .same (same.trans reply)

mutual

/-- A rule without its failpoints does the same, unless one of them strikes. -/
theorem Rule.relaxes
    (named : ∀ name, Pairing.commitment.Behaviours (resolve name) (resolve' name)) :
    ∀ rule : Rule ν, Pairing.commitment.Behaviours (rule.evaluate laps resolve)
      (rule.withoutFailpoints.evaluate laps resolve')
  | .term test => Pairing.commitment_closed.term test
  | .empty => Pairing.commitment_closed.empty
  | .semantics subrule transform =>
    Pairing.commitment_closed.semantics (Rule.relaxes named subrule) transform
  | .exclude subrule subtrahends =>
    Pairing.commitment_closed.exclude (Rule.relaxes named subrule)
      (Rule.allRelax named subtrahends)
  | .sequence subrules => Pairing.commitment_closed.sequence (Rule.allRelax named subrules)
  | .choice subrules => Pairing.commitment_closed.choice (Rule.allRelax named subrules)
  | .optional subrule default =>
    Pairing.commitment_closed.optional (Rule.relaxes named subrule) default
  | .zeroOrMore subrule => Pairing.commitment_closed.zeroOrMore (Rule.relaxes named subrule)
  | .oneOrMore subrule => Pairing.commitment_closed.oneOrMore (Rule.relaxes named subrule)
  | .exactly count subrule =>
    Pairing.commitment_closed.exactly (Rule.relaxes named subrule) count
  | .reference name => Pairing.commitment_closed.reference (named name)
  | .bind subrule continuation =>
    Pairing.commitment_closed.bind (Rule.relaxes named subrule) fun product =>
      Rule.relaxes named (continuation product)
  | .derivation steps closing =>
    Pairing.commitment_closed.derivation (Steps.relaxes named steps) closing
  | .failpoint subrule error => Rule.relaxes_failpoint error (Rule.relaxes named subrule)
  | .escalate _ => Pairing.commitment_closed.escalate fun _ _ related _ => related ▸ .same rfl
  | .updating subrule _ => fun _ _ related =>
    Pairing.commitment_closed.observe related
      (Pairing.commitment_closed.andThen (Rule.relaxes named subrule related)
        fun _ _ _ after => after ▸ .same rfl)
  | .watched label subrule =>
    Pairing.commitment_closed.watched (Rule.relaxes named subrule) label
  | .fault fault => Pairing.commitment_closed.fault fault

/-- Rules without their failpoints do the same, unless one of them strikes. -/
theorem Rule.allRelax
    (named : ∀ name, Pairing.commitment.Behaviours (resolve name) (resolve' name)) :
    ∀ rules : List (Rule ν), List.Forall₂ Pairing.commitment.Behaviours
      (Rule.evaluateAll laps resolve rules)
      (Rule.evaluateAll laps resolve' (Rule.allWithoutFailpoints rules))
  | [] => .nil
  | rule :: rest => .cons (Rule.relaxes named rule) (Rule.allRelax named rest)

/-- A derivation without failpoints does the same, unless one of them strikes. -/
theorem Steps.relaxes
    (named : ∀ name, Pairing.commitment.Behaviours (resolve name) (resolve' name)) :
    ∀ steps : Steps ν, Pairing.commitment.Behaviours (steps.evaluate laps resolve)
      (steps.withoutFailpoints.evaluate laps resolve')
  | .finish product => Pairing.commitment_closed.finish product
  | .apply rule next =>
    Pairing.commitment_closed.apply (Rule.relaxes named rule) fun product =>
      Steps.relaxes named (next product)
  | .getState next => fun here there related => by
    cases related
    exact Steps.relaxes named (next here) rfl
  | .remark remark next => Pairing.commitment_closed.remark remark (Steps.relaxes named next)
  | .fault fault => Pairing.commitment_closed.halt fault

end

namespace Grammar

/-- Unfolding names with and without failpoints. -/
theorem relaxes_evaluateWithin (grammar : Grammar ν) (laps unfoldings : Nat) (root : Rule ν) :
    Pairing.commitment.Behaviours (grammar.evaluateWithin laps unfoldings root)
      (grammar.withoutFailpoints.evaluateWithin laps unfoldings root.withoutFailpoints) := by
  induction unfoldings generalizing root with
  | zero => exact Rule.relaxes (fun _ _ _ _ => Pairing.commitment_closed.exhausted) root
  | succ unfoldings inductionHypothesis =>
      apply Rule.relaxes _ root
      intro name here there related
      rw [withoutFailpoints]
      cases grammar name with
      | none => exact Pairing.commitment_closed.raised .undefinedRule
      | some rule => exact inductionHypothesis rule related

end Grammar

/-- A run that comes to something else than the failure of a failpoint: a match, a decline, or a
failure that was escalated or is that of a repetition without progress. -/
inductive Run.Uncommitted {α : Type} (run : Run α) : Prop where
  | matched (product : α) (state : State) (reply : run.reply = .matched product state)
  | declined (reply : run.reply = .declined)
  | escalated (failed : run.FailedBy .escalation)
  | stalled (failed : run.FailedBy .stall)

namespace Run.Uncommitted

variable {α : Type} {run : Run α} (uncommitted : run.Uncommitted)

include uncommitted

theorem ne_raised (fault : Fault) : run.reply ≠ .raised fault := by
  intro raised
  cases uncommitted with
  | matched product state reply => cases raised.symm.trans reply
  | declined reply => cases raised.symm.trans reply
  | escalated failed =>
      obtain ⟨error, reply⟩ := failed.failed
      cases raised.symm.trans reply
  | stalled failed =>
      obtain ⟨error, reply⟩ := failed.failed
      cases raised.symm.trans reply

/-- No failpoint has struck, because a run fails by one origin only. -/
theorem not_struck (originates : run.Originates) : ¬ run.FailedBy .failpoint := by
  intro struck
  obtain ⟨error, failed⟩ := struck.failed
  cases uncommitted with
  | matched product state reply => cases failed.symm.trans reply
  | declined reply => cases failed.symm.trans reply
  | escalated other => cases originates.unique struck other
  | stalled other => cases originates.unique struck other

end Run.Uncommitted

/-- Whatever a rule comes to at a state, other than the failure of a failpoint, the rule without
failpoints comes to as well: the same product and final state, the same decline, or the same
error. -/
theorem Grammar.evaluate_withoutFailpoints (grammar : Grammar ν) (budget : Budget) (root : Rule ν)
    (state : State) (uncommitted : (grammar.evaluate budget root state).Uncommitted) :
    (grammar.withoutFailpoints.evaluate budget root.withoutFailpoints state).reply =
      (grammar.evaluate budget root state).reply := by
  have originates := originates_kept.grammar grammar budget root state
  cases grammar.relaxes_evaluateWithin budget.laps budget.unfoldings root (rfl : state = state) with
  | raised fault reply => exact absurd reply (uncommitted.ne_raised fault)
  | struck failed => exact absurd failed (uncommitted.not_struck originates)
  | same same => exact same

/-- Nested brackets that have to be closed, and an error behind them. The failpoints are passed,
so the error is the same without them. -/
theorem evaluate_withoutFailpoints_brackets :
    let brackets : Rule Unit := .sequence
      [.literal (.str (text "[")), .optional (.reference ()) .none,
        .failpoint (.literal (.str (text "]"))) (.expecting (text "a bracket"))]
    let grammar : Grammar Unit := fun _ => some brackets
    let root : Rule Unit := .sequence [.reference (), .escalate (.expecting (text "the end"))]
    let state : State := { tokens := .ofText (text "[[]]?") }
    let committed := grammar.evaluate ⟨3, 0⟩ root state
    let relaxed := grammar.withoutFailpoints.evaluate ⟨3, 0⟩ root.withoutFailpoints state
    committed.FailedBy .escalation ∧ relaxed.reply = committed.reply := by
  intro brackets grammar root state committed relaxed
  have arose : .escalation ∈ committed.journal.origins := by decide +kernel
  have failed := (originates_kept.grammar grammar ⟨3, 0⟩ root state).failedBy arose
  exact ⟨failed, grammar.evaluate_withoutFailpoints ⟨3, 0⟩ root state (.escalated failed)⟩

end Descent
