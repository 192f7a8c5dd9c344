import Descent.Run

/-!
# Laws of going on

Two runs are the same if they have one reply and the same events in the same order; how their
journals have been joined does not matter. Up to that, going on from a run is associative, and a
match without events is a unit. What is put together in a row may therefore be grouped at will.
-/

namespace Descent.Run

variable {α β γ : Type} {run first second third : Run α}

/-- The same reply, and the same events in the same order. -/
structure Same (first second : Run α) : Prop where
  reply : first.reply = second.reply
  events : first.journal.toList = second.journal.toList

namespace Same

theorem refl (run : Run α) : run.Same run := ⟨rfl, rfl⟩

theorem symm (same : first.Same second) : second.Same first := ⟨same.reply.symm, same.events.symm⟩

theorem trans (same : first.Same second) (further : second.Same third) : first.Same third :=
  ⟨same.reply.trans further.reply, same.events.trans further.events⟩

/-- The same events in front. -/
theorem after (same : first.Same second) {events events' : Journal}
    (inFront : events.toList = events'.toList) :
    (first.after events).Same (second.after events') :=
  ⟨same.reply, by simp only [Run.after, Journal.toList_append, inFront, same.events]⟩

/-- Going on in the same way from the same run. -/
theorem branch {onMatch onMatch' : α → State → Run β} {onDecline onDecline' : Unit → Run β}
    (same : first.Same second)
    (afterMatch : ∀ product next, first.reply = .matched product next →
      (onMatch product next).Same (onMatch' product next))
    (afterDecline : first.reply = .declined → (onDecline ()).Same (onDecline' ())) :
    (first.branch onMatch onDecline).Same (second.branch onMatch' onDecline') := by
  cases reply : first.reply with
  | matched product next =>
      rw [branch_of_matched reply, branch_of_matched (same.reply ▸ reply)]
      exact (afterMatch product next reply).after same.events
  | declined =>
      rw [branch_of_declined reply, branch_of_declined (same.reply ▸ reply)]
      exact (afterDecline reply).after same.events
  | failed error =>
      rw [branch_of_failed reply, branch_of_failed (same.reply ▸ reply)]
      exact ⟨rfl, same.events⟩
  | raised fault =>
      rw [branch_of_raised reply, branch_of_raised (same.reply ▸ reply)]
      exact ⟨rfl, same.events⟩
  | exhausted =>
      rw [branch_of_exhausted reply, branch_of_exhausted (same.reply ▸ reply)]
      exact ⟨rfl, same.events⟩

/-- Going on in the same way from a match. -/
theorem andThen {next next' : α → State → Run β} (same : first.Same second)
    (afterMatch : ∀ product state, first.reply = .matched product state →
      (next product state).Same (next' product state)) :
    (first.andThen next).Same (second.andThen next') :=
  same.branch afterMatch fun _ => .refl _

theorem map (same : first.Same second) (change : α → β) :
    (first.map change).Same (second.map change) :=
  same.andThen fun _ _ _ => .refl _

end Same

/-- Nothing has happened before a match without events. -/
theorem matched_branch (product : α) (state : State) (onMatch : α → State → Run β)
    (onDecline : Unit → Run β) :
    ((matched product state).branch onMatch onDecline).Same (onMatch product state) := by
  rw [branch_of_matched rfl]
  exact ⟨rfl, by simp [Run.after, matched, ofReply]⟩

/-- Nothing has happened before a decline without events. -/
theorem declined_branch (onMatch : α → State → Run β) (onDecline : Unit → Run β) :
    ((declined : Run α).branch onMatch onDecline).Same (onDecline ()) := by
  rw [branch_of_declined rfl]
  exact ⟨rfl, by simp [Run.after, declined, ofReply]⟩

/-- The events in front of a run are in front of what it is gone on with. -/
theorem after_branch (events : Journal) (run : Run α) (onMatch : α → State → Run β)
    (onDecline : Unit → Run β) :
    ((run.after events).branch onMatch onDecline).Same
      ((run.branch onMatch onDecline).after events) := by
  unfold branch Run.after
  cases run.reply <;> exact ⟨rfl, by simp⟩

/-- Only replies decide what going on comes to. -/
theorem reply_andThen_congr {next next' : α → State → Run β} (same : first.reply = second.reply)
    (afterMatch : ∀ product state, first.reply = .matched product state →
      (next product state).reply = (next' product state).reply) :
    (first.andThen next).reply = (second.andThen next').reply := by
  unfold andThen branch
  rw [← same]
  cases reply : first.reply with
  | matched product state => exact afterMatch product state reply
  | declined => rfl
  | failed error => rfl
  | raised fault => rfl
  | exhausted => rfl

/-- What has not matched is not gone on from. -/
theorem andThen_of_unmatched {next : α → State → Run α}
    (unmatched : ∀ product state, run.reply ≠ .matched product state) :
    (run.andThen next).Same run := by
  unfold andThen branch
  cases reply : run.reply with
  | matched product state => exact absurd reply (unmatched product state)
  | declined => exact ⟨reply.symm, by simp [Run.after, declined, ofReply]⟩
  | failed error => exact ⟨reply.symm, rfl⟩
  | raised fault => exact ⟨reply.symm, rfl⟩
  | exhausted => exact ⟨reply.symm, rfl⟩

/-- Going on twice is going on once with what goes on itself. -/
theorem branch_branch (run : Run α) (onMatch : α → State → Run β) (onDecline : Unit → Run β)
    (further : β → State → Run γ) (otherwise : Unit → Run γ) :
    ((run.branch onMatch onDecline).branch further otherwise).Same
      (run.branch (fun product next => (onMatch product next).branch further otherwise)
        fun _ => (onDecline ()).branch further otherwise) := by
  cases reply : run.reply with
  | matched product next =>
      rw [branch_of_matched reply, branch_of_matched reply]
      exact after_branch _ _ _ _
  | declined =>
      rw [branch_of_declined reply, branch_of_declined reply]
      exact after_branch _ _ _ _
  | failed error =>
      rw [branch_of_failed reply, branch_of_failed reply]
      exact .refl _
  | raised fault =>
      rw [branch_of_raised reply, branch_of_raised reply]
      exact .refl _
  | exhausted =>
      rw [branch_of_exhausted reply, branch_of_exhausted reply]
      exact .refl _

/-- A match without events is a unit on one side … -/
theorem matched_andThen (product : α) (state : State) (next : α → State → Run β) :
    ((matched product state).andThen next).Same (next product state) :=
  matched_branch product state next _

/-- … and on the other. -/
theorem andThen_matched (run : Run α) : (run.andThen matched).Same run := by
  unfold andThen branch
  cases reply : run.reply <;>
    exact ⟨reply.symm, by simp [Run.after, matched, declined, ofReply]⟩

/-- Nothing is gone on with after a decline. -/
theorem declined_andThen (next : α → State → Run β) :
    ((declined : Run α).andThen next).Same declined :=
  declined_branch next _

theorem after_andThen (events : Journal) (run : Run α) (next : α → State → Run β) :
    ((run.after events).andThen next).Same ((run.andThen next).after events) :=
  after_branch events run next _

/-- Going on after matches is associative. -/
theorem andThen_assoc (run : Run α) (next : α → State → Run β) (further : β → State → Run γ) :
    ((run.andThen next).andThen further).Same
      (run.andThen fun product state => (next product state).andThen further) :=
  (branch_branch run next _ further _).trans
    ((Same.refl run).branch (fun _ _ _ => .refl _) fun _ => declined_andThen _)

/-- A changed product is what is gone on with. -/
theorem map_andThen (run : Run α) (change : α → β) (further : β → State → Run γ) :
    ((run.map change).andThen further).Same
      (run.andThen fun product state => further (change product) state) :=
  (andThen_assoc run _ further).trans
    ((Same.refl run).andThen fun _ _ _ => matched_andThen _ _ _)

end Descent.Run
