import Descent.Journal

/-!
# Runs

A run is a reply together with the journal of how it came about. Everything that combines rules
goes through `Run.branch`: it looks at a match or a decline and passes a failure, a fault and an
exhausted budget on as they are. That one definition is why no combinator can swallow a failure.
-/

namespace Descent

/-- A reply, and the events that led to it. -/
structure Run (α : Type) where
  journal : Journal
  reply : Reply α
  deriving Inhabited

namespace Run

variable {α β : Type}

/-- A reply that no event led to. -/
def ofReply (reply : Reply α) : Run α := ⟨.empty, reply⟩

/-- A match without events. -/
def matched (product : α) (state : State) : Run α := ofReply (.matched product state)

/-- A decline without events. -/
def declined : Run α := ofReply .declined

/-- A fault without events. -/
def raised (fault : Fault) : Run α := ofReply (.raised fault)

/-- A spent budget without events. -/
def exhausted : Run α := ofReply .exhausted

/-- The run with further events in front. -/
def after (events : Journal) (run : Run α) : Run α := ⟨events ++ run.journal, run.reply⟩

/-- The run with further events at the end. -/
def andNote (run : Run α) (events : Journal) : Run α := ⟨run.journal ++ events, run.reply⟩

/-- Goes on after a match or a decline; every other reply is passed on. -/
def branch (run : Run α) (onMatch : α → State → Run β) (onDecline : Unit → Run β) : Run β :=
  match run.reply with
  | .matched product state => (onMatch product state).after run.journal
  | .declined => (onDecline ()).after run.journal
  | .failed error => ⟨run.journal, .failed error⟩
  | .raised fault => ⟨run.journal, .raised fault⟩
  | .exhausted => ⟨run.journal, .exhausted⟩

/-- A match is gone on from, behind the events that led to it. -/
theorem branch_of_matched {run : Run α} {product : α} {state : State}
    (reply : run.reply = .matched product state) (onMatch : α → State → Run β)
    (onDecline : Unit → Run β) :
    run.branch onMatch onDecline = (onMatch product state).after run.journal := by
  simp only [branch, reply]

/-- A decline is gone on from, behind the events that led to it. -/
theorem branch_of_declined {run : Run α} (reply : run.reply = .declined)
    (onMatch : α → State → Run β) (onDecline : Unit → Run β) :
    run.branch onMatch onDecline = (onDecline ()).after run.journal := by
  simp only [branch, reply]

/-- A failure is passed on, and nothing happens after it. -/
theorem branch_of_failed {run : Run α} {error : ParseError} (reply : run.reply = .failed error)
    (onMatch : α → State → Run β) (onDecline : Unit → Run β) :
    run.branch onMatch onDecline = ⟨run.journal, .failed error⟩ := by
  simp only [branch, reply]

/-- A fault is passed on, and nothing happens after it. -/
theorem branch_of_raised {run : Run α} {fault : Fault} (reply : run.reply = .raised fault)
    (onMatch : α → State → Run β) (onDecline : Unit → Run β) :
    run.branch onMatch onDecline = ⟨run.journal, .raised fault⟩ := by
  simp only [branch, reply]

/-- A spent budget is passed on, and nothing happens after it. -/
theorem branch_of_exhausted {run : Run α} (reply : run.reply = .exhausted)
    (onMatch : α → State → Run β) (onDecline : Unit → Run β) :
    run.branch onMatch onDecline = ⟨run.journal, .exhausted⟩ := by
  simp only [branch, reply]

/-- Goes on after a match. -/
def andThen (run : Run α) (next : α → State → Run β) : Run β :=
  run.branch next fun _ => declined

/-- Goes on after a decline. -/
def orElse (run : Run α) (next : Unit → Run α) : Run α :=
  run.branch matched next

/-- The run with its product changed. -/
def map (change : α → β) (run : Run α) : Run β :=
  run.andThen fun product state => matched (change product) state

end Run

/-- The result of a function that the grammar supplies, with what it remarked. -/
structure Call (α : Type) where
  outcome : Except Fault α
  remarks : List Remark := []

namespace Call

variable {α : Type}

/-- A call that returns. -/
def pure (result : α) : Call α := ⟨.ok result, []⟩

/-- A call that faults. -/
def fault (fault : Fault) : Call α := ⟨.error fault, []⟩

instance : Inhabited (Call α) := ⟨fault default⟩

/-- The call as a run in place: its result is the product, and the state does not move. -/
def run (callee : Callee) (state : State) (call : Call α) : Run α where
  journal := .entry (.called callee) ++ .ofList (call.remarks.map .remarked)
  reply := match call.outcome with
    | .ok result => .matched result state
    | .error fault => .raised fault

end Call

end Descent
