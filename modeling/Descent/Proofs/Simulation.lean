import Descent.Proofs.Pairing

/-!
# Behaviours that proceed alike

Two evaluations proceed alike when they reply in the same way at states that are related: both
match with one product and end in related states, both decline, both fail with related errors, or
both stop for one reason. The relations on states and errors are parameters.

This is a pairing of evaluations that looks at replies alone. Two things are asked of the relations
so that it is closed: that terminals proceed alike, and that both sides of a repetition agree on
whether a lap has moved on.
-/

namespace Descent

variable {α β : Type} {states : State → State → Prop} {errors : ParseError → ParseError → Prop}

/-- Two replies of one kind, with related states and errors. -/
inductive Reply.Alike (states : State → State → Prop) (errors : ParseError → ParseError → Prop) :
    Reply α → Reply α → Prop where
  | matched (product : α) {first second : State} (related : states first second) :
      Alike states errors (.matched product first) (.matched product second)
  | declined : Alike states errors .declined .declined
  | failed {first second : ParseError} (related : errors first second) :
      Alike states errors (.failed first) (.failed second)
  | raised (fault : Fault) : Alike states errors (.raised fault) (.raised fault)
  | exhausted : Alike states errors .exhausted .exhausted

/-- Coarser relations on states and errors relate the same replies. -/
theorem Reply.Alike.mono {coarseStates : State → State → Prop}
    {coarseErrors : ParseError → ParseError → Prop} {first second : Reply α}
    (alike : first.Alike states errors second)
    (onStates : ∀ {here there}, states here there → coarseStates here there)
    (onErrors : ∀ {here there}, errors here there → coarseErrors here there) :
    first.Alike coarseStates coarseErrors second := by
  cases alike with
  | matched product related => exact .matched product (onStates related)
  | declined => exact .declined
  | failed related => exact .failed (onErrors related)
  | raised fault => exact .raised fault
  | exhausted => exact .exhausted

namespace Run

/-- Going on alike from runs that replied alike. -/
theorem alike_branch {first second : Run α} {onMatch onMatch' : α → State → Run β}
    {onDecline onDecline' : Unit → Run β}
    (alike : first.reply.Alike states errors second.reply)
    (afterMatch : ∀ product {here there}, states here there →
      (onMatch product here).reply.Alike states errors (onMatch' product there).reply)
    (afterDecline : (onDecline ()).reply.Alike states errors (onDecline' ()).reply) :
    (first.branch onMatch onDecline).reply.Alike states errors
      (second.branch onMatch' onDecline').reply := by
  generalize firstReply : first.reply = reply at alike
  generalize secondReply : second.reply = reply' at alike
  cases alike with
  | matched product related =>
      rw [branch_of_matched firstReply, branch_of_matched secondReply]
      exact afterMatch product related
  | declined =>
      rw [branch_of_declined firstReply, branch_of_declined secondReply]
      exact afterDecline
  | failed related =>
      rw [branch_of_failed firstReply, branch_of_failed secondReply]
      exact .failed related
  | raised fault =>
      rw [branch_of_raised firstReply, branch_of_raised secondReply]
      exact .raised fault
  | exhausted =>
      rw [branch_of_exhausted firstReply, branch_of_exhausted secondReply]
      exact .exhausted

end Run

/-- One call at related states. -/
theorem Call.alike_run (callee : Callee) (call : Call α) {first second : State}
    (related : states first second) :
    (call.run callee first).reply.Alike states errors (call.run callee second).reply := by
  unfold Call.run
  cases call.outcome with
  | ok result => exact .matched result related
  | error fault => exact .raised fault

/-- Two behaviours that reply alike at related states. -/
def Behaviour.Alike (states : State → State → Prop) (errors : ParseError → ParseError → Prop)
    (first second : Behaviour) : Prop :=
  ∀ ⦃here there⦄, states here there → (first here).reply.Alike states errors (second there).reply

/-- What a relation on states needs so that repetitions proceed alike. -/
structure Progressive (states : State → State → Prop)
    (errors : ParseError → ParseError → Prop) : Prop where
  /-- Both sides agree on whether a lap has moved on. -/
  samePosition {here there next next' : State} (before : states here there)
    (after : states next next') : next.samePosition here = next'.samePosition there
  stall {here there : State} (related : states here there) :
    (Behaviour.stall here : Run (List Value)).reply.Alike states errors
      (Behaviour.stall there : Run (List Value)).reply

/-- Evaluations that reply alike. -/
def Pairing.alike (states : State → State → Prop) (errors : ParseError → ParseError → Prop) :
    Pairing where
  Runs first second := first.reply.Alike states errors second.reply
  States := states

/-- Replying alike is kept by every combinator. -/
theorem Pairing.alike_closed (progressive : Progressive states errors)
    (terminals : ∀ test, Behaviour.Alike states errors (Behaviour.term test)
      (Behaviour.term test)) : (Pairing.alike states errors).Closed where
  matched product _ _ related := .matched product related
  declined := .declined
  raised fault := .raised fault
  exhausted := .exhausted
  call callee call _ _ related := call.alike_run callee related
  terminal := terminals
  branch alike afterMatch afterDecline := Run.alike_branch alike afterMatch afterDecline
  lap before after alike := by
    rw [progressive.samePosition before after]
    split
    · exact progressive.stall before
    · exact alike
  observe _ alike := alike
  watch _ _ alike := alike
  remarkBefore _ alike := alike
  remarkAfter _ alike := alike

/-- Updaters on contexts that are equal and are replaced together. -/
theorem Behaviour.alike_update
    (sameContext : ∀ {here there}, states here there → here.context = there.context)
    (withContext : ∀ {here there}, states here there → ∀ context,
      states (here.withContext context) (there.withContext context))
    (product : Value) (updaters : List Updater) {here there : State}
    (related : states here there) :
    (Behaviour.update product updaters here).reply.Alike states errors
      (Behaviour.update product updaters there).reply := by
  induction updaters generalizing here there with
  | nil => exact .matched product related
  | cons updater rest inductionHypothesis =>
      rw [Behaviour.update, Behaviour.update, sameContext related]
      apply Run.alike_branch (Call.alike_run .updater _ related)
      · intro context next next' after
        exact inductionHypothesis (withContext after context)
      · exact .declined

end Descent
