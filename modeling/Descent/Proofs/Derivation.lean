import Descent.Proofs.Sequencing
import Descent.Rule.Derived

/-!
# Derivations are nested bindings

A derivation is driven step by step: a step replies, and the reply selects the step after it.
`nested` is the same derivation as one rule put together from bindings, where asking for the state
is a match in place whose product is the state. Both come to the same reply.

A `Turn` is one step that has been taken, and `Reaches` are the turns that lead from one part of a
derivation to another. A derivation that declines or fails does so with the rule that its turns lead
to: the rules before it are applied once each, in order, and none behind it.
-/

namespace Descent

variable {ν : Type} {laps : Nat} {resolve : ν → Behaviour}

/-! ## Binding -/

namespace Behaviour

/-- A match in place, with the state as its product. -/
def askState (state : State) : Run State := .matched state state

/-- What a product of any kind selects. -/
def select {α : Type} (first : State → Run α) (continuation : α → Behaviour) : Behaviour :=
  fun state => (first state).andThen continuation

/-- Bindings may be grouped at will: the events are the same, and so is the reply. -/
theorem bind_assoc (body : Behaviour) (first second : Value → Behaviour) (state : State) :
    (bind (bind body first) second state).Same
      (bind body (fun product => bind (first product) second) state) :=
  Run.andThen_assoc _ _ _

end Behaviour

namespace Rule

/-- A rule that only yields is a unit of binding on one side … -/
theorem bind_yielding_left (product : Value) (continuation : Value → Rule ν) (state : State) :
    ((Rule.bind (yielding product) continuation).evaluate laps resolve state).reply =
      ((continuation product).evaluate laps resolve state).reply := rfl

/-- … and on the other. -/
theorem bind_yielding_right (rule : Rule ν) (state : State) :
    ((Rule.bind rule yielding).evaluate laps resolve state).reply =
      (rule.evaluate laps resolve state).reply := by
  calc ((Rule.bind rule yielding).evaluate laps resolve state).reply
    _ = ((rule.evaluate laps resolve state).andThen Run.matched).reply :=
      Run.reply_andThen_congr rfl fun _ _ _ => rfl
    _ = (rule.evaluate laps resolve state).reply := (Run.andThen_matched _).reply

/-- Bindings of rules may be grouped at will. -/
theorem bind_bind (rule : Rule ν) (first second : Value → Rule ν) (state : State) :
    ((Rule.bind (.bind rule first) second).evaluate laps resolve state).reply =
      ((Rule.bind rule fun product => .bind (first product) second).evaluate laps resolve
        state).reply := by
  calc ((Rule.bind (.bind rule first) second).evaluate laps resolve state).reply
    _ = (Behaviour.bind (Behaviour.bind (rule.evaluate laps resolve)
          fun product => (first product).evaluate laps resolve)
          (fun product => (second product).evaluate laps resolve) state).reply :=
      Run.reply_andThen_congr rfl fun _ _ _ => rfl
    _ = (Behaviour.bind (rule.evaluate laps resolve) (fun product =>
          Behaviour.bind ((first product).evaluate laps resolve)
            fun product => (second product).evaluate laps resolve) state).reply :=
      (Behaviour.bind_assoc _ _ _ state).reply
    _ = ((Rule.bind rule fun product => .bind (first product) second).evaluate laps resolve
          state).reply :=
      Run.reply_andThen_congr rfl fun _ _ _ => rfl

end Rule

/-! ## Nested bindings -/

namespace Steps

/-- A derivation as nested bindings, which end with a match in place and its product. -/
def nested (laps : Nat) (resolve : ν → Behaviour) : Steps ν → Behaviour
  | .finish product => (Rule.yielding product : Rule ν).evaluate laps resolve
  | .apply rule next => Behaviour.bind (rule.evaluate laps resolve) fun product =>
      (next product).nested laps resolve
  | .getState next => Behaviour.select Behaviour.askState fun state =>
      (next state).nested laps resolve
  | .remark _ next => next.nested laps resolve
  | .fault stop => (Rule.fault stop : Rule ν).evaluate laps resolve

/-- Driving a derivation is evaluating its nested bindings. -/
theorem reply_nested (laps : Nat) (resolve : ν → Behaviour) : (steps : Steps ν) → (state : State) →
    (steps.evaluate laps resolve state).reply = (steps.nested laps resolve state).reply
  | .finish _, _ => rfl
  | .fault _, _ => rfl
  | .getState next, state =>
      (reply_nested laps resolve (next state) state).trans
        (Run.matched_andThen state state fun asked => (next asked).nested laps resolve).reply.symm
  | .remark _ next, state => reply_nested laps resolve next state
  | .apply _ next, _ =>
      Run.reply_andThen_congr rfl fun product here _ =>
        reply_nested laps resolve (next product) here

/-! ## Turns -/

/-- One step that a derivation has taken. -/
inductive Turn (ν : Type) where
  /-- A rule was applied to a state and matched. -/
  | applied (rule : Rule ν) (state : State)
  /-- The state was asked for. -/
  | asked
  | remarked (note : Remark)

/-- The events of a turn. -/
def Turn.events (laps : Nat) (resolve : ν → Behaviour) : Turn ν → List Entry
  | .applied rule state => (rule.evaluate laps resolve state).journal.toList
  | .asked => []
  | .remarked note => [.remarked note]

/-- Taking one turn. -/
inductive Takes (laps : Nat) (resolve : ν → Behaviour) :
    Steps ν → State → Turn ν → Steps ν → State → Prop where
  | apply {rule : Rule ν} {next : Value → Steps ν} {here there : State} {product : Value}
      (matched : (rule.evaluate laps resolve here).reply = .matched product there) :
      Takes laps resolve (.apply rule next) here (.applied rule here) (next product) there
  | getState {next : State → Steps ν} {here : State} :
      Takes laps resolve (.getState next) here .asked (next here) here
  | remark {note : Remark} {next : Steps ν} {here : State} :
      Takes laps resolve (.remark note next) here (.remarked note) next here

/-- Taking turns. -/
inductive Reaches (laps : Nat) (resolve : ν → Behaviour) :
    Steps ν → State → List (Turn ν) → Steps ν → State → Prop where
  | refl (steps : Steps ν) (here : State) : Reaches laps resolve steps here [] steps here
  | head {steps middle last : Steps ν} {here between there : State} {turn : Turn ν}
      {turns : List (Turn ν)} (first : Takes laps resolve steps here turn middle between)
      (others : Reaches laps resolve middle between turns last there) :
      Reaches laps resolve steps here (turn :: turns) last there

/-- No more turns are taken: the derivation is over, or a rule has not matched. -/
inductive Halts (laps : Nat) (resolve : ν → Behaviour) : Steps ν → State → Prop where
  | finish (product : Value) (here : State) : Halts laps resolve (.finish product) here
  | fault (stop : Fault) (here : State) : Halts laps resolve (.fault stop) here
  | apply {rule : Rule ν} {next : Value → Steps ν} {here : State}
      (unmatched : ∀ product there,
        (rule.evaluate laps resolve here).reply ≠ .matched product there) :
      Halts laps resolve (.apply rule next) here

variable {steps middle last : Steps ν} {here there start : State} {turn : Turn ν}
  {turns : List (Turn ν)}

/-- A turn is gone on from, behind its events. -/
theorem Takes.evaluate (takes : Takes laps resolve steps here turn middle there) :
    (steps.evaluate laps resolve here).reply = (middle.evaluate laps resolve there).reply ∧
      (steps.evaluate laps resolve here).journal.toList =
        turn.events laps resolve ++ (middle.evaluate laps resolve there).journal.toList := by
  cases takes with
  | apply matched =>
      rw [Steps.evaluate, Run.andThen, Run.branch_of_matched matched]
      exact ⟨rfl, Journal.toList_append _ _⟩
  | getState => exact ⟨rfl, rfl⟩
  | remark => exact ⟨rfl, Journal.toList_append _ _⟩

/-- Turns are gone on from, behind their events in order. -/
theorem Reaches.evaluate (reaches : Reaches laps resolve steps here turns last there) :
    (steps.evaluate laps resolve here).reply = (last.evaluate laps resolve there).reply ∧
      (steps.evaluate laps resolve here).journal.toList =
        turns.flatMap (Turn.events laps resolve) ++
          (last.evaluate laps resolve there).journal.toList := by
  induction reaches with
  | refl => exact ⟨rfl, rfl⟩
  | head first _ inductionHypothesis =>
      obtain ⟨reply, events⟩ := first.evaluate
      refine ⟨reply.trans inductionHypothesis.1, ?_⟩
      rw [events, inductionHypothesis.2, List.flatMap_cons, List.append_assoc]

/-- Every derivation takes turns up to where it halts. -/
theorem exists_reaches (laps : Nat) (resolve : ν → Behaviour) :
    (steps : Steps ν) → (start : State) → ∃ turns last there,
      Reaches laps resolve steps start turns last there ∧ Halts laps resolve last there
  | .finish product, start => ⟨[], _, start, .refl _ start, .finish product start⟩
  | .fault stop, start => ⟨[], _, start, .refl _ start, .fault stop start⟩
  | .getState next, start =>
      have ⟨turns, last, there, reaches, halts⟩ := exists_reaches laps resolve (next start) start
      ⟨_, last, there, .head .getState reaches, halts⟩
  | .remark _ next, start =>
      have ⟨turns, last, there, reaches, halts⟩ := exists_reaches laps resolve next start
      ⟨_, last, there, .head .remark reaches, halts⟩
  | .apply rule next, start => by
      by_cases matches' : ∃ product there,
        (rule.evaluate laps resolve start).reply = .matched product there
      · obtain ⟨product, middle, matched⟩ := matches'
        obtain ⟨turns, last, there, reaches, halts⟩ :=
          exists_reaches laps resolve (next product) middle
        exact ⟨_, last, there, .head (.apply matched) reaches, halts⟩
      · exact ⟨[], _, start, .refl _ start, .apply fun product there matched =>
          matches' ⟨product, there, matched⟩⟩

/-- A derivation that declines or fails has come to a rule that does. Its events are those of the
turns up to there and those of the rule. -/
theorem exists_stopped {reply : Reply Value}
    (stops : reply = .declined ∨ ∃ error, reply = .failed error)
    (replied : (steps.evaluate laps resolve start).reply = reply) :
    ∃ turns rule next here, Reaches laps resolve steps start turns (.apply rule next) here ∧
      (rule.evaluate laps resolve here).reply = reply ∧
      (steps.evaluate laps resolve start).journal.toList =
        turns.flatMap (Turn.events laps resolve) ++
          (rule.evaluate laps resolve here).journal.toList := by
  obtain ⟨turns, last, here, reaches, halts⟩ := exists_reaches laps resolve steps start
  obtain ⟨same, events⟩ := reaches.evaluate
  rw [same] at replied
  cases halts with
  | finish product => rcases stops with rfl | ⟨error, rfl⟩ <;> cases replied
  | fault stop => rcases stops with rfl | ⟨error, rfl⟩ <;> cases replied
  | @apply rule next _ unmatched =>
      have last : ((Steps.apply rule next).evaluate laps resolve here).Same
          (rule.evaluate laps resolve here) := Run.andThen_of_unmatched unmatched
      rw [last.events] at events
      exact ⟨turns, rule, next, here, reaches, last.reply.symm.trans replied, events⟩

end Steps

/-- A derivation gives the result of its nested bindings. Where it declines or fails, the rules up
to the one that does have been applied, and no others. Binding is associative, for all that
behaviours reply and do, and has the rules that only yield as its units. -/
theorem derivation_eq_nested (laps : Nat) (resolve : ν → Behaviour) (steps : Steps ν)
    (closing : List Remark) (start : State) :
    ((Rule.derivation steps closing).evaluate laps resolve start).reply =
        (steps.nested laps resolve start).reply ∧
      (∀ reply, (reply = .declined ∨ ∃ error, reply = .failed error) →
        ((Rule.derivation steps closing).evaluate laps resolve start).reply = reply →
        ∃ turns rule next here,
          steps.Reaches laps resolve start turns (.apply rule next) here ∧
          (rule.evaluate laps resolve here).reply = reply ∧
          ((Rule.derivation steps closing).evaluate laps resolve start).journal.toList =
            .applied start :: (turns.flatMap (Steps.Turn.events laps resolve) ++
              (rule.evaluate laps resolve here).journal.toList ++ closing.map .remarked) ++
              [.replied reply]) ∧
      (∀ (body : Behaviour) (first second : Value → Behaviour) (state : State),
        (Behaviour.bind (Behaviour.bind body first) second state).Same
          (Behaviour.bind body (fun product => Behaviour.bind (first product) second) state)) ∧
      (∀ (rule : Rule ν) (first second : Value → Rule ν) (state : State),
        ((Rule.bind (.bind rule first) second).evaluate laps resolve state).reply =
          ((Rule.bind rule fun product => .bind (first product) second).evaluate laps resolve
            state).reply) ∧
      (∀ (product : Value) (continuation : Value → Rule ν) (state : State),
        ((Rule.bind (.yielding product) continuation).evaluate laps resolve state).reply =
          ((continuation product).evaluate laps resolve state).reply) ∧
      ∀ (rule : Rule ν) (state : State),
        ((Rule.bind rule .yielding).evaluate laps resolve state).reply =
          (rule.evaluate laps resolve state).reply := by
  refine ⟨steps.reply_nested laps resolve start, fun reply stops replied => ?_,
    Behaviour.bind_assoc, Rule.bind_bind, Rule.bind_yielding_left, Rule.bind_yielding_right⟩
  obtain ⟨turns, rule, next, here, reaches, answer, events⟩ := Steps.exists_stopped stops replied
  refine ⟨turns, rule, next, here, reaches, answer, ?_⟩
  have noted : ((Rule.derivation steps closing).evaluate laps resolve start).journal.toList =
      .applied start :: ((steps.evaluate laps resolve start).journal.toList ++
        closing.map .remarked) ++
        [.replied ((Rule.derivation steps closing).evaluate laps resolve start).reply] := by
    simp [Rule.evaluate, Behaviour.observe, Run.after, Run.andNote]
  rw [noted, replied, events]

/-- A derivation that declines at its second rule, which the state that it has asked for selects: so
do its nested bindings, and its turns lead to a rule that declines. -/
theorem derivation_eq_nested_declining :
    let steps : Steps Unit := .apply (.literal (.str (text "a"))) fun product =>
      .getState fun state =>
        .apply (if state.pos = 1 then .literal (.str (text "b")) else .yielding product) .finish
    let resolve : Unit → Behaviour := fun _ _ => .declined
    let start : State := { tokens := .ofText (text "ac") }
    ((Rule.derivation steps []).evaluate 0 resolve start).reply = .declined ∧
      (steps.nested 0 resolve start).reply = .declined ∧
      ∃ turns rule next here, steps.Reaches 0 resolve start turns (.apply rule next) here ∧
        (rule.evaluate 0 resolve here).reply = .declined := by
  intro steps resolve start
  have declines : ((Rule.derivation steps []).evaluate 0 resolve start).reply = .declined := rfl
  obtain ⟨nested, stopped, -⟩ := derivation_eq_nested 0 resolve steps [] start
  obtain ⟨turns, rule, next, here, reaches, answer, -⟩ := stopped .declined (.inl rfl) declines
  exact ⟨declines, nested.symm.trans declines, turns, rule, next, here, reaches, answer⟩

end Descent
