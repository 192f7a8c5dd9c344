import Descent.Proofs.Chain

/-!
# Repetition follows the chain of matches

An unbounded repetition comes to the end of its chain: where its rule declines it matches with all
the products, and where the rule fails, or matches without having moved on, it fails. A bounded
repetition does the same on the part of the chain that its count allows.

The engine gives an unbounded repetition a number of laps. `Evaluation` abstracts from it: it is
what a rule does within each number of laps, and a reply counts once it is given within some number.
-/

namespace Descent

/-! ## Replies within any number of laps -/

/-- What a rule does within each number of laps. What it has answered, it answers with more laps.

Every rule among the names of a grammar has one, which is `Evaluation.ofRule`, and every function of
a state has one that needs no laps, which is `Evaluation.always`. -/
structure Evaluation where
  within (laps : Nat) : Behaviour
  grows {laps more : Nat} (le : laps ≤ more) (state : State) :
    (within laps state).Approximates (within more state)

namespace Evaluation

variable {body : Evaluation} {start last state : State} {products : List Value} {laps more : Nat}
  {done reply : Reply Value}

/-- More laps only decide whether there is an answer. -/
theorem paired (body : Evaluation) (le : laps ≤ more) :
    Pairing.budgets.Behaviours (body.within laps) (body.within more) :=
  fun here _ same => same ▸ body.grows le here

/-- As many matches as there are. -/
def zeroOrMore (body : Evaluation) : Evaluation where
  within laps := Behaviour.zeroOrMore laps (body.within laps)
  grows le state :=
    .trans (Pairing.budgets_closed.unbounded (body.paired le) _ rfl)
      (Behaviour.zeroOrMore_approximates _ le state)

/-- As many matches as there are, but at least one. -/
def oneOrMore (body : Evaluation) : Evaluation where
  within laps := Behaviour.oneOrMore laps (body.within laps)
  grows le state :=
    .trans (Pairing.budgets_closed.unboundedOnce (body.paired le) _ rfl)
      (Behaviour.oneOrMore_approximates _ le state)

/-- A number of matches. -/
def exactly (count : Int) (body : Evaluation) : Evaluation where
  within laps := Behaviour.exactly count (body.within laps)
  grows le _ := by
    refine Pairing.budgets_closed.repetition (body.paired le) count.toNat ?_ rfl
    rintro products here _ rfl
    exact .refl _

/-- The reply within some number of laps, and so within every larger one. -/
def Replies (body : Evaluation) (state : State) (reply : Reply Value) : Prop :=
  reply ≠ .exhausted ∧ ∃ laps, (body.within laps state).reply = reply

/-- A reply is given within any number of laps that is large enough … -/
theorem Replies.exists_within (replies : body.Replies state reply) :
    ∃ enough, ∀ laps, enough ≤ laps → (body.within laps).Replies state reply := by
  obtain ⟨answer, enough, rfl⟩ := replies
  exact ⟨enough, fun laps le => by rw [Behaviour.Replies, (body.grows le state).eq answer]⟩

/-- There is one reply. -/
theorem Replies.unique {other : Reply Value} (replies : body.Replies state reply)
    (repliesToo : body.Replies state other) : reply = other := by
  obtain ⟨enough, within⟩ := replies.exists_within
  obtain ⟨enough', within'⟩ := repliesToo.exists_within
  exact (within _ (Nat.le_max_left _ _)).symm.trans (within' _ (Nat.le_max_right _ enough'))

/-- The rule matches at a state without moving on. -/
def StaysAt (body : Evaluation) (state : State) : Prop :=
  ∃ product next, body.Replies state (.matched product next) ∧ next.samePosition state

variable {body : Evaluation} {start last : State} {products : List Value} {error : ParseError}

/-- Where the state cannot be reported, a repetition of a rule that stays raises the fault that
stands in the way. -/
theorem StaysAt.raised (stays : body.StaysAt last) (silent : ¬ last.Reportable)
    (done : Reply Value) : Ends body.Replies last done (.raised last.silence) := by
  obtain ⟨product, next, matched, inPlace⟩ := stays
  have ends : Ends body.Replies last done _ := .stalled matched inPlace
  rwa [Behaviour.reply_stall, Behaviour.stallError_of_not_reportable silent] at ends

end Evaluation

end Descent
