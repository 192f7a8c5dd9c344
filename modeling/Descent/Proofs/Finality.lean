import Descent.Proofs.Invariant
import Descent.Rule.Derived

/-!
# Failures are final

Once some rule has replied with a failure, the rest of the journal only unwinds: the enclosing
rules reply with the same failure, and derivations and watchers that are over make their closing
remarks. No rule is applied and no function of the grammar is called any more, and the root rule
replies with the very error that arose.

`Run.Settled` says so of one run in a form that joining journals keeps.
-/

namespace Descent

/-- What may still be noted once a rule has failed with an error. -/
inductive Entry.Unwinds (error : ParseError) : Entry → Prop where
  | replied : Unwinds error (.replied (.failed error))
  | remarked (remark : Remark) : Unwinds error (.remarked remark)

namespace Run

variable {α β : Type}

/-- A run in which every failure that a rule replied with is the reply of the run, and is followed
by nothing but unwinding. -/
structure Settled (run : Run α) : Prop where
  replies : ∀ error, .replied (.failed error) ∈ run.journal.toList → run.reply = .failed error
  unwinds : run.journal.toList.Pairwise fun earlier later =>
    ∀ error, earlier = .replied (.failed error) → later.Unwinds error

/-- A run whose journal reports no failed rule is settled. -/
theorem settled_of_not_mem {run : Run α}
    (quiet : ∀ error, .replied (.failed error) ∉ run.journal.toList) : run.Settled where
  replies error member := absurd member (quiet error)
  unwinds := by
    refine List.Pairwise.imp_of_mem ?_ (List.pairwise_of_forall (R := fun _ _ => True) ?_)
    · intro earlier later earlierMember _ _ error equal
      exact absurd (equal ▸ earlierMember) (quiet error)
    · intro _ _
      trivial

/-- A reply without events is settled. -/
theorem settled_ofReply (reply : Reply α) : (ofReply reply).Settled :=
  settled_of_not_mem fun _ => List.not_mem_nil

/-- A settled run that has not failed reports no failed rule. -/
theorem Settled.not_mem {run : Run α} (settled : run.Settled)
    (unfailed : ∀ error, run.reply ≠ .failed error) (error : ParseError) :
    .replied (.failed error) ∉ run.journal.toList :=
  fun member => unfailed error (settled.replies error member)

/-- Events without a failed rule may stand in front. -/
theorem Settled.after {run : Run α} (settled : run.Settled) {events : Journal}
    (quiet : ∀ error, .replied (.failed error) ∉ events.toList) : (run.after events).Settled where
  replies error member := by
    rw [Run.after, Journal.toList_append] at member
    rcases List.mem_append.mp member with inFront | inRun
    · exact absurd inFront (quiet error)
    · exact settled.replies error inRun
  unwinds := by
    rw [Run.after, Journal.toList_append]
    have front : (⟨events, run.reply⟩ : Run α).Settled := settled_of_not_mem quiet
    refine List.pairwise_append.mpr ⟨front.unwinds, settled.unwinds, ?_⟩
    intro earlier earlierMember later _ error equal
    exact absurd (equal ▸ earlierMember) (quiet error)

/-- Events that unwind the failure of a run may stand behind it. -/
theorem Settled.andNote {run : Run α} (settled : run.Settled) {events : Journal}
    (unwinding : ∀ error, run.reply = .failed error → ∀ entry ∈ events.toList,
      entry.Unwinds error)
    (own : ∀ error, .replied (.failed error) ∈ events.toList → run.reply = .failed error) :
    (run.andNote events).Settled where
  replies error member := by
    rw [Run.andNote, Journal.toList_append] at member
    rcases List.mem_append.mp member with inRun | behind
    · exact settled.replies error inRun
    · exact own error behind
  unwinds := by
    rw [Run.andNote, Journal.toList_append]
    refine List.pairwise_append.mpr ⟨settled.unwinds, ?_, ?_⟩
    · refine List.Pairwise.imp_of_mem ?_ (List.pairwise_of_forall (R := fun _ _ => True) ?_)
      · intro earlier later earlierMember laterMember _ error equal
        exact unwinding error (own error (equal ▸ earlierMember)) later laterMember
      · intro _ _
        trivial
    · intro earlier earlierMember later laterMember error equal
      exact unwinding error (settled.replies error (equal ▸ earlierMember)) later laterMember

/-- Going on from a settled run to a settled run is settled: a failure is not gone on from. -/
theorem Settled.branch {run : Run α} (settled : run.Settled) {onMatch : α → State → Run β}
    {onDecline : Unit → Run β}
    (afterMatch : ∀ product next, run.reply = .matched product next →
      (onMatch product next).Settled)
    (afterDecline : run.reply = .declined → (onDecline ()).Settled) :
    (run.branch onMatch onDecline).Settled := by
  cases reply : run.reply with
  | matched product next =>
      rw [branch_of_matched reply]
      exact (afterMatch product next reply).after (settled.not_mem (by simp [reply]))
  | declined =>
      rw [branch_of_declined reply]
      exact (afterDecline reply).after (settled.not_mem (by simp [reply]))
  | failed error =>
      rw [branch_of_failed reply]
      refine ⟨fun other member => ?_, settled.unwinds⟩
      have same := settled.replies other member
      rw [reply] at same
      cases same
      rfl
  | raised fault =>
      rw [branch_of_raised reply]
      exact settled_of_not_mem (settled.not_mem (by simp [reply]))
  | exhausted =>
      rw [branch_of_exhausted reply]
      exact settled_of_not_mem (settled.not_mem (by simp [reply]))

end Run

/-- A call of a function of the grammar is settled. -/
theorem Call.settled_run {α : Type} (callee : Callee) (state : State) (call : Call α) :
    (call.run callee state).Settled := by
  refine Run.settled_of_not_mem fun error member => ?_
  simp [Call.run] at member

namespace Behaviour

/-- A failure as it arises is settled. -/
theorem settled_fail {α : Type} (origin : FailureOrigin) (error : ErrorAt) (state : State) :
    (fail origin error state : Run α).Settled := by
  unfold fail
  split
  · exact Run.settled_of_not_mem fun other member => by simp at member
  · exact Run.settled_ofReply _

/-- The failure of a repetition is settled. -/
theorem settled_stall {α : Type} (state : State) : (stall state : Run α).Settled :=
  (settled_fail .stall stallError state).after fun error member => by simp at member

/-- Noting a settled run and its reply is settled. -/
theorem settled_observe {run : Run Value} (settled : run.Settled) (state : State) :
    (observe state run).Settled := by
  have applied : (run.after (.entry (.applied state))).Settled :=
    settled.after fun error member => by simp at member
  refine applied.andNote ?_ ?_
  · intro error failed entry member
    have reply : run.reply = .failed error := failed
    rw [Journal.toList_entry, List.mem_singleton, reply] at member
    exact member ▸ .replied
  · intro error member
    rw [Journal.toList_entry, List.mem_singleton] at member
    injection member with reply
    exact reply.symm

end Behaviour

/-- Being settled is kept by every combinator. -/
theorem settled_kept : RunProperty.Kept fun _ _ run => run.Settled where
  matched _ _ := Run.settled_ofReply _
  forward _ _ _ := Run.settled_ofReply _
  declined _ := Run.settled_ofReply _
  raised _ _ := Run.settled_ofReply _
  exhausted _ := Run.settled_ofReply _
  call callee state call := call.settled_run callee state
  fail origin error _ state := Behaviour.settled_fail origin error state
  stall state := Behaviour.settled_stall state
  branch first afterMatch afterDecline := first.branch afterMatch afterDecline
  follow _ _ second := second
  context moved := moved
  observe first := Behaviour.settled_observe first _
  remarkBefore remark first := first.after fun error member => by simp at member
  remarkAfter remarks first := by
    refine first.andNote ?_ ?_
    · intro error _ entry member
      rw [Journal.toList_ofList] at member
      obtain ⟨remark, _, rfl⟩ := List.mem_map.mp member
      exact .remarked remark
    · intro error member
      simp at member

/-- Whenever a rule inside an evaluation has replied with a failure, the root rule replies with the
same error, and in between no rule is applied, no function of the grammar is called, and no rule
replies with anything else. -/
theorem Grammar.failure_final {ν : Type} (grammar : Grammar ν) (budget : Budget) (root : Rule ν)
    (state : State) {earlier later : List Entry} {error : ParseError}
    (failing : (grammar.evaluate budget root state).journal.toList =
      earlier ++ .replied (.failed error) :: later) :
    (grammar.evaluate budget root state).reply = .failed error ∧
      (∀ here, .applied here ∉ later) ∧ (∀ callee, .called callee ∉ later) ∧
      ∀ reply, .replied reply ∈ later → reply = .failed error := by
  have settled := settled_kept.grammar grammar budget root state
  have unwinds : ∀ entry ∈ later, entry.Unwinds error := by
    have ordered := settled.unwinds
    rw [failing] at ordered
    have behind := (List.pairwise_append.mp ordered).2.1
    intro entry member
    exact (List.pairwise_cons.mp behind).1 entry member error rfl
  refine ⟨settled.replies error ?_, ?_, ?_, ?_⟩
  · rw [failing]
    exact List.mem_append_right earlier List.mem_cons_self
  · intro here member
    cases unwinds _ member
  · intro callee member
    cases unwinds _ member
  · intro reply member
    cases unwinds _ member
    rfl

/-- A missing mandatory part inside a sequence, a choice and an optional rule: the error passes
through all three, and the other alternative is not tried. -/
theorem failure_final_mandatory_part :
    let mandatory : Rule Empty := .failpoint (.literal (.str (text "b"))) (.expecting (text "b"))
    let root : Rule Empty := .optional (.choice [.sequence [.anything, mandatory], .anything]) .none
    let run := Grammar.evaluate (fun _ => none) ⟨0, 0⟩ root { tokens := .ofText (text "ac") }
    ∃ earlier later error,
      run.journal.toList = earlier ++ .replied (.failed error) :: later ∧ later.length = 3 ∧
        run.reply = .failed error ∧ (∀ here, .applied here ∉ later) ∧
        (∀ callee, .called callee ∉ later) ∧
        ∀ reply, .replied reply ∈ later → reply = .failed error := by
  intro mandatory root run
  have failing : run.journal.toList = run.journal.toList.take 11 ++
      .replied (.failed
        { message := text "b expected where \"c\" is"
          state := { tokens := .ofText (text "ac"), pos := 1 }
          expected := [text "b"]
          found := some (text "c")
          code := .expectationFailed }) :: run.journal.toList.drop 12 := by
    rfl
  exact ⟨_, _, _, failing, rfl, Grammar.failure_final _ _ root _ failing⟩

end Descent
