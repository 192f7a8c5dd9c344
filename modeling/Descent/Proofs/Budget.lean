import Descent.Proofs.Pairing

/-!
# Budgets only decide whether there is an answer

An evaluation that has come to an answer within a budget comes to the same answer, by the same
events, within every larger one. The answer of a rule is therefore a matter of the rule and the
state alone, and an evaluation terminates exactly if some budget is enough for it.

More is known of an evaluation that is over before its names are unfolded as deep as allowed:
whatever names would do further down plays no part in it.
-/

namespace Descent

/-- A budget that allows no less in either respect. -/
instance : LE Budget :=
  ⟨fun budget larger => budget.unfoldings ≤ larger.unfoldings ∧ budget.laps ≤ larger.laps⟩

namespace Run

variable {α β : Type}

/-- The second run is the first one, unless the first has spent its budget. -/
def Approximates (first second : Run α) : Prop := first.reply = .exhausted ∨ second = first

theorem Approximates.refl (run : Run α) : run.Approximates run := .inr rfl

theorem Approximates.trans {first second third : Run α} (earlier : first.Approximates second)
    (later : second.Approximates third) : first.Approximates third := by
  rcases earlier with spent | rfl
  · exact .inl spent
  · exact later

/-- A run that is over is not changed by what it approximates. -/
theorem Approximates.eq {first second : Run α} (approximates : first.Approximates second)
    (finished : first.reply ≠ .exhausted) : second = first :=
  approximates.resolve_left finished

/-- Going on from runs of which one approximates the other. -/
theorem Approximates.branch {first second : Run α} {onMatch onMatch' : α → State → Run β}
    {onDecline onDecline' : Unit → Run β} (approximates : first.Approximates second)
    (afterMatch : ∀ product next, first.reply = .matched product next →
      (onMatch product next).Approximates (onMatch' product next))
    (afterDecline : first.reply = .declined → (onDecline ()).Approximates (onDecline' ())) :
    (first.branch onMatch onDecline).Approximates (second.branch onMatch' onDecline') := by
  rcases approximates with spent | same
  · left
    rw [branch_of_exhausted spent]
  · subst same
    cases reply : second.reply with
    | matched product next =>
        rw [branch_of_matched reply, branch_of_matched reply]
        rcases afterMatch product next reply with spent | same
        · exact .inl spent
        · exact .inr (by rw [same])
    | declined =>
        rw [branch_of_declined reply, branch_of_declined reply]
        rcases afterDecline reply with spent | same
        · exact .inl spent
        · exact .inr (by rw [same])
    | failed error => exact .inr (by rw [branch_of_failed reply, branch_of_failed reply])
    | raised fault => exact .inr (by rw [branch_of_raised reply, branch_of_raised reply])
    | exhausted => exact .inl (by rw [branch_of_exhausted reply])

end Run

/-- Evaluations at one state, of which the second has the larger budget. -/
def Pairing.budgets : Pairing where
  Runs := Run.Approximates
  States := Eq

theorem Pairing.budgets_closed : Pairing.budgets.Closed where
  matched product _ _ related := related ▸ .refl _
  declined := .refl _
  raised fault := .refl _
  exhausted := .refl _
  call callee call _ _ related := related ▸ .refl _
  terminal test _ _ related := related ▸ .refl _
  branch approximates afterMatch afterDecline :=
    approximates.branch (fun product _ _ => afterMatch product rfl) fun _ => afterDecline
  lap before after approximates := by
    cases before
    cases after
    split
    · exact .refl _
    · exact approximates
  observe related approximates := by
    cases related
    rcases approximates with spent | rfl
    · exact .inl spent
    · exact .refl _
  watch label related approximates := by
    cases related
    rcases approximates with spent | same
    · exact .inl spent
    · exact .inr (by simp only [Behaviour.watched, same])
  remarkBefore remark approximates := by
    rcases approximates with spent | rfl
    · exact .inl spent
    · exact .refl _
  remarkAfter remarks approximates := by
    rcases approximates with spent | rfl
    · exact .inl spent
    · exact .refl _

/-! ## Laps -/

namespace Run

variable {α β : Type}

/-- How a run that is gone on from comes to a match. -/
theorem matched_of_branch {run : Run α} {onMatch : α → State → Run β}
    {onDecline : Unit → Run β} {product : β} {state : State}
    (replied : (run.branch onMatch onDecline).reply = .matched product state) :
    (∃ first next, run.reply = .matched first next ∧
      (onMatch first next).reply = .matched product state) ∨
    (run.reply = .declined ∧ (onDecline ()).reply = .matched product state) := by
  cases reply : run.reply with
  | matched first next =>
      rw [branch_of_matched reply] at replied
      exact .inl ⟨first, next, rfl, replied⟩
  | declined =>
      rw [branch_of_declined reply] at replied
      exact .inr ⟨rfl, replied⟩
  | failed error =>
      rw [branch_of_failed reply] at replied
      cases replied
  | raised fault =>
      rw [branch_of_raised reply] at replied
      cases replied
  | exhausted =>
      rw [branch_of_exhausted reply] at replied
      cases replied

/-- A match with a changed product is a match. -/
theorem matched_of_map {run : Run α} {change : α → β} {product : β} {state : State}
    (replied : (run.map change).reply = .matched product state) :
    ∃ first, run.reply = .matched first state ∧ product = change first := by
  rcases matched_of_branch replied with ⟨first, next, reply, changed⟩ | ⟨-, declined⟩
  · cases changed
    exact ⟨first, reply, rfl⟩
  · cases declined

end Run

namespace Behaviour

/-- A failure is no match. -/
theorem fail_ne_matched {α : Type} (origin : FailureOrigin) (error : ErrorAt) (state : State)
    (product : α) (next : State) :
    (fail origin error state : Run α).reply ≠ .matched product next := by
  unfold fail
  split <;> nofun

/-- A repetition that does not move on does not match. -/
theorem stall_ne_matched {α : Type} (state : State) (product : α) (next : State) :
    (stall state : Run α).reply ≠ .matched product next :=
  fail_ne_matched .stall stallError state product next

variable {body : Behaviour} {limit larger : Nat}

/-- A repetition has no more products than laps. -/
theorem length_le_of_collect {state next : State} {products : List Value}
    (replied : (collect body limit state).reply = .matched products next) :
    products.length ≤ limit := by
  induction limit generalizing state products with
  | zero =>
      cases replied
      exact Nat.le_refl 0
  | succ limit inductionHypothesis =>
      rcases Run.matched_of_branch replied with ⟨product, middle, -, onward⟩ | ⟨-, ended⟩
      · by_cases stalls : middle.samePosition state
        · rw [if_pos stalls] at onward
          exact absurd onward (stall_ne_matched state products next)
        · rw [if_neg stalls] at onward
          obtain ⟨others, further, rfl⟩ := Run.matched_of_map onward
          have fewer := inductionHypothesis further
          simpa using fewer
      · cases ended
        exact Nat.zero_le _

/-- A repetition takes all its laps, or it does not matter how many more there are. -/
theorem collect_of_le (body : Behaviour) (le : limit ≤ larger) (state : State) :
    (∃ products next, (collect body limit state).reply = .matched products next ∧
      products.length = limit) ∨ collect body larger state = collect body limit state := by
  induction limit generalizing larger state with
  | zero => exact .inl ⟨[], state, rfl, rfl⟩
  | succ limit inductionHypothesis =>
      obtain ⟨larger, rfl⟩ : ∃ more, larger = more + 1 := ⟨larger - 1, by omega⟩
      cases reply : (body state).reply with
      | matched product middle =>
          simp only [collect, Run.branch_of_matched reply]
          by_cases stalls : middle.samePosition state
          · right
            rw [if_pos stalls, if_pos stalls]
          · rw [if_neg stalls, if_neg stalls]
            rcases inductionHypothesis (by omega : limit ≤ larger) middle with
              ⟨products, last, replied, counted⟩ | same
            · left
              refine ⟨product :: products, last, ?_, by simp [counted]⟩
              simp only [Run.map, Run.andThen, Run.branch_of_matched replied]
              rfl
            · right
              rw [same]
      | declined => exact .inr (by simp only [collect, Run.branch_of_declined reply])
      | failed error => exact .inr (by simp only [collect, Run.branch_of_failed reply])
      | raised fault => exact .inr (by simp only [collect, Run.branch_of_raised reply])
      | exhausted => exact .inr (by simp only [collect, Run.branch_of_exhausted reply])

/-- A repetition that gives up when its laps are spent approximates one with more laps. -/
theorem repetition_approximates (body : Behaviour) (le : limit ≤ larger)
    {verdict verdict' : List Value → State → Run Value}
    (spent : ∀ products next, products.length = limit →
      (verdict products next).reply = .exhausted)
    (same : ∀ products next, products.length < limit →
      verdict' products next = verdict products next) (state : State) :
    ((collect body limit state).andThen verdict).Approximates
      ((collect body larger state).andThen verdict') := by
  rcases collect_of_le body le state with ⟨products, next, replied, counted⟩ | equal
  · left
    rw [Run.andThen, Run.branch_of_matched replied]
    exact spent products next counted
  · rw [equal]
    apply (Run.Approximates.refl _).branch
    · intro products next replied
      rcases Nat.lt_or_eq_of_le (length_le_of_collect replied) with fewer | all
      · exact .inr (same products next fewer)
      · exact .inl (spent products next all)
    · intro _
      exact .refl _

theorem zeroOrMore_approximates (body : Behaviour) (le : limit ≤ larger) (state : State) :
    (zeroOrMore limit body state).Approximates (zeroOrMore larger body state) := by
  apply repetition_approximates body le
  · intro products next all
    rw [if_neg (by omega)]
    rfl
  · intro products next fewer
    rw [if_pos fewer, if_pos (by omega)]

theorem oneOrMore_approximates (body : Behaviour) (le : limit ≤ larger) (state : State) :
    (oneOrMore limit body state).Approximates (oneOrMore larger body state) := by
  apply repetition_approximates body le
  · intro products next all
    rw [if_neg (by omega)]
    rfl
  · intro products next fewer
    rw [if_pos fewer, if_pos (by omega)]

end Behaviour

/-! ## Rules and grammars -/

variable {ν : Type} {laps more : Nat} {resolve resolve' : ν → Behaviour}

mutual

/-- A rule approximates itself with more laps and with names that its own names approximate. -/
theorem Rule.approximates (le : laps ≤ more)
    (named : ∀ name, Pairing.budgets.Behaviours (resolve name) (resolve' name)) :
    ∀ rule : Rule ν, Pairing.budgets.Behaviours (rule.evaluate laps resolve)
      (rule.evaluate more resolve')
  | .term test => Pairing.budgets_closed.term test
  | .empty => Pairing.budgets_closed.empty
  | .semantics subrule transform =>
    Pairing.budgets_closed.semantics (Rule.approximates le named subrule) transform
  | .exclude subrule subtrahends =>
    Pairing.budgets_closed.exclude (Rule.approximates le named subrule)
      (Rule.allApproximate le named subtrahends)
  | .sequence subrules => Pairing.budgets_closed.sequence (Rule.allApproximate le named subrules)
  | .choice subrules => Pairing.budgets_closed.choice (Rule.allApproximate le named subrules)
  | .optional subrule default =>
    Pairing.budgets_closed.optional (Rule.approximates le named subrule) default
  | .zeroOrMore subrule => fun _ _ related => by
    -- The body changes first, with the laps as they are.
    have sameLaps := Pairing.budgets_closed.unbounded (Rule.approximates le named subrule) laps
      related
    exact Pairing.budgets_closed.observe related
      (sameLaps.trans (Behaviour.zeroOrMore_approximates _ le _))
  | .oneOrMore subrule => fun _ _ related => by
    have sameLaps := Pairing.budgets_closed.unboundedOnce (Rule.approximates le named subrule)
      laps related
    exact Pairing.budgets_closed.observe related
      (sameLaps.trans (Behaviour.oneOrMore_approximates _ le _))
  | .exactly count subrule =>
    Pairing.budgets_closed.exactly (Rule.approximates le named subrule) count
  | .reference name => Pairing.budgets_closed.reference (named name)
  | .bind subrule continuation =>
    Pairing.budgets_closed.bind (Rule.approximates le named subrule) fun product =>
      Rule.approximates le named (continuation product)
  | .derivation steps closing =>
    Pairing.budgets_closed.derivation (Steps.approximates le named steps) closing
  | .failpoint subrule error =>
    Pairing.budgets_closed.failpoint (Rule.approximates le named subrule)
      fun _ _ related _ => related ▸ .refl _
  | .escalate error => Pairing.budgets_closed.escalate fun _ _ related _ => related ▸ .refl _
  | .updating subrule updaters => fun _ _ related =>
    Pairing.budgets_closed.observe related
      (Pairing.budgets_closed.andThen (Rule.approximates le named subrule related)
        fun _ _ _ after => after ▸ .refl _)
  | .watched label subrule =>
    Pairing.budgets_closed.watched (Rule.approximates le named subrule) label
  | .fault fault => Pairing.budgets_closed.fault fault

/-- Rules approximate themselves with more laps. -/
theorem Rule.allApproximate (le : laps ≤ more)
    (named : ∀ name, Pairing.budgets.Behaviours (resolve name) (resolve' name)) :
    ∀ rules : List (Rule ν), List.Forall₂ Pairing.budgets.Behaviours
      (Rule.evaluateAll laps resolve rules) (Rule.evaluateAll more resolve' rules)
  | [] => .nil
  | rule :: rest =>
    .cons (Rule.approximates le named rule) (Rule.allApproximate le named rest)

/-- A derivation approximates itself with more laps. -/
theorem Steps.approximates (le : laps ≤ more)
    (named : ∀ name, Pairing.budgets.Behaviours (resolve name) (resolve' name)) :
    ∀ steps : Steps ν, Pairing.budgets.Behaviours (steps.evaluate laps resolve)
      (steps.evaluate more resolve')
  | .finish product => Pairing.budgets_closed.finish product
  | .apply rule next =>
    Pairing.budgets_closed.apply (Rule.approximates le named rule) fun product =>
      Steps.approximates le named (next product)
  | .getState next => fun here there related => by
    cases related
    exact Steps.approximates le named (next here) rfl
  | .remark remark next => Pairing.budgets_closed.remark remark (Steps.approximates le named next)
  | .fault fault => Pairing.budgets_closed.halt fault

end

namespace Grammar

variable {grammar : Grammar ν}

/-- The behaviour of a rule, with names unfolded a number of levels deep and a behaviour of our
choice for the names further down. -/
def evaluateOver (grammar : Grammar ν) (laps : Nat) (deeper : ν → Behaviour) :
    (levels : Nat) → Rule ν → Behaviour
  | 0, rule, state => rule.evaluate laps deeper state
  | levels + 1, rule, state =>
    rule.evaluate laps
      (fun name here =>
        match grammar name with
        | none => .raised .undefinedRule
        | some body => evaluateOver grammar laps deeper levels body here)
      state

/-- Unfolding names to a level approximates every way to go on below it. -/
theorem evaluateWithin_approximates (grammar : Grammar ν) (le : laps ≤ more)
    (deeper : ν → Behaviour) (levels : Nat) (rule : Rule ν) (state : State) :
    (grammar.evaluateWithin laps levels rule state).Approximates
      (grammar.evaluateOver more deeper levels rule state) := by
  induction levels generalizing rule state with
  | zero => exact Rule.approximates le (fun _ _ _ _ => .inl rfl) rule rfl
  | succ levels inductionHypothesis =>
      apply Rule.approximates le _ rule rfl
      intro name here there related
      cases related
      cases grammar name with
      | none => exact .refl _
      | some body => exact inductionHypothesis body here

/-- Unfolding names deeper is one of the ways to go on below a level. -/
theorem exists_evaluateOver (grammar : Grammar ν) (laps levels further : Nat) :
    ∃ deeper, grammar.evaluateWithin laps (further + levels) =
      grammar.evaluateOver laps deeper levels := by
  induction levels with
  | zero =>
      cases further with
      | zero => exact ⟨fun _ _ => .exhausted, rfl⟩
      | succ further => exact ⟨_, rfl⟩
  | succ levels inductionHypothesis =>
      obtain ⟨deeper, same⟩ := inductionHypothesis
      refine ⟨deeper, ?_⟩
      funext rule state
      exact congrArg (fun below : Rule ν → Behaviour =>
        rule.evaluate laps (fun name here =>
          match grammar name with
          | none => .raised .undefinedRule
          | some body => below body here) state) same

/-- An evaluation that is over within a budget is the same within every larger one. -/
theorem evaluate_of_le {budget larger : Budget} (le : budget ≤ larger) {rule : Rule ν}
    {state : State} (finished : (grammar.evaluate budget rule state).reply ≠ .exhausted) :
    grammar.evaluate larger rule state = grammar.evaluate budget rule state := by
  obtain ⟨deeper, same⟩ := grammar.exists_evaluateOver larger.laps budget.unfoldings
    (larger.unfoldings - budget.unfoldings)
  rw [Nat.sub_add_cancel le.1] at same
  rw [evaluate, same]
  exact (grammar.evaluateWithin_approximates le.2 deeper _ rule state).eq finished

end Grammar

end Descent
