import Descent.ParseError

/-!
# Replies of a rule

A rule applied to a state matches, declines or fails. Declining is local: whoever applied the rule
still holds the state and may try something else. A failure is final. Two further replies lie
outside the grammar: a fault, and an evaluation that was given too small a budget.
-/

namespace Descent

/-- What applying a rule to a state comes to. -/
inductive Reply (α : Type) where
  /-- The rule matched with a product; the state stands after the match. -/
  | matched (product : α) (state : State)
  /-- The rule does not match here. -/
  | declined
  /-- The rule failed for good. -/
  | failed (error : ParseError)
  /-- The evaluation was stopped by a misuse. -/
  | raised (fault : Fault)
  /-- The budget was spent before there was an answer. -/
  | exhausted
  deriving Inhabited

end Descent
