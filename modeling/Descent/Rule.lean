import Descent.Behaviour

/-!
# Rules

Rules are data, so that what holds of every rule can be proved by induction. A rule over `ν` may
refer to the names in `ν`; a grammar gives the names their rules, and recursion goes through
references only. `Steps` are the derivations: each step is chosen from the replies to the earlier
ones.

`Rule.evaluate` gives a rule its behaviour, from the behaviours of the names and from the number of
laps after which an unbounded repetition gives up. `Grammar.evaluate` unfolds the names themselves,
a stated number of levels deep.
-/

namespace Descent

mutual

/-- A rule that may refer to the names in `ν`. -/
inductive Rule (ν : Type) where
  /-- One token that passes a test. -/
  | term (test : Value → Call Bool)
  /-- A match in place, without a product. -/
  | empty
  /-- `subrule` with its product changed. -/
  | semantics (subrule : Rule ν) (transform : Value → Call Value)
  /-- `subrule` where none of the subtrahends match. -/
  | exclude (subrule : Rule ν) (subtrahends : List (Rule ν))
  /-- All the rules in order. -/
  | sequence (subrules : List (Rule ν))
  /-- The first rule that does not decline. -/
  | choice (subrules : List (Rule ν))
  /-- `subrule`, or a match in place. -/
  | optional (subrule : Rule ν) (default : Value)
  | zeroOrMore (subrule : Rule ν)
  | oneOrMore (subrule : Rule ν)
  | exactly (count : Int) (subrule : Rule ν)
  /-- The rule of a name. -/
  | reference (name : ν)
  /-- `subrule`, then the rule that its product selects. -/
  | bind (subrule : Rule ν) (continuation : Value → Rule ν)
  /-- Steps chosen along the way, and remarks for when they are over. -/
  | derivation (steps : Steps ν) (closing : List Remark)
  /-- `subrule`, with its decline turned into a failure. -/
  | failpoint (subrule : Rule ν) (error : ErrorAt)
  /-- A failure at every state. -/
  | escalate (error : ErrorAt)
  /-- `subrule`, with the context updated after a match. -/
  | updating (subrule : Rule ν) (updaters : List Updater)
  /-- `subrule`, with remarks before and after it. -/
  | watched (label : Value) (subrule : Rule ν)
  /-- A rule that cannot be applied. -/
  | fault (fault : Fault)

/-- The steps of a derivation. -/
inductive Steps (ν : Type) where
  /-- Ends with a product. -/
  | finish (product : Value)
  /-- Applies a rule and goes on with its product. -/
  | apply (rule : Rule ν) (next : Value → Steps ν)
  /-- Goes on with the current state. -/
  | getState (next : State → Steps ν)
  /-- Remarks on something and goes on. -/
  | remark (remark : Remark) (next : Steps ν)
  /-- Ends in a fault. -/
  | fault (fault : Fault)

end

variable {ν : Type}

instance : Inhabited (Rule ν) := ⟨.empty⟩

instance : Inhabited (Steps ν) := ⟨.finish .none⟩

mutual

/-- The behaviour of a rule, given the behaviour of each name. -/
def Rule.evaluate (laps : Nat) (resolve : ν → Behaviour) : Rule ν → State → Run Value
  | .term test, state => Behaviour.observe state (Behaviour.term test state)
  | .empty, state => Behaviour.observe state (Behaviour.empty state)
  | .semantics subrule transform, state =>
    Behaviour.observe state (Behaviour.semantics (subrule.evaluate laps resolve) transform state)
  | .exclude subrule subtrahends, state =>
    Behaviour.observe state
      (Behaviour.exclude (subrule.evaluate laps resolve)
        (Rule.evaluateAll laps resolve subtrahends) state)
  | .sequence subrules, state =>
    Behaviour.observe state (Behaviour.sequence (Rule.evaluateAll laps resolve subrules) state)
  | .choice subrules, state =>
    Behaviour.observe state (Behaviour.choice (Rule.evaluateAll laps resolve subrules) state)
  | .optional subrule default, state =>
    Behaviour.observe state (Behaviour.optional (subrule.evaluate laps resolve) default state)
  | .zeroOrMore subrule, state =>
    Behaviour.observe state (Behaviour.zeroOrMore laps (subrule.evaluate laps resolve) state)
  | .oneOrMore subrule, state =>
    Behaviour.observe state (Behaviour.oneOrMore laps (subrule.evaluate laps resolve) state)
  | .exactly count subrule, state =>
    Behaviour.observe state (Behaviour.exactly count (subrule.evaluate laps resolve) state)
  | .reference name, state => Behaviour.observe state (resolve name state)
  | .bind subrule continuation, state =>
    Behaviour.observe state
      (Behaviour.bind (subrule.evaluate laps resolve)
        (fun product => (continuation product).evaluate laps resolve) state)
  | .derivation steps closing, state =>
    Behaviour.observe state
      ((steps.evaluate laps resolve state).andNote (.ofList (closing.map .remarked)))
  | .failpoint subrule error, state =>
    Behaviour.observe state (Behaviour.failpoint (subrule.evaluate laps resolve) error state)
  | .escalate error, state => Behaviour.observe state (Behaviour.escalate error state)
  | .updating subrule updaters, state =>
    Behaviour.observe state (Behaviour.updating (subrule.evaluate laps resolve) updaters state)
  | .watched label subrule, state =>
    Behaviour.observe state (Behaviour.watched label (subrule.evaluate laps resolve) state)
  | .fault fault, state => Behaviour.observe state (.raised fault)

/-- The behaviours of rules, in order. -/
def Rule.evaluateAll (laps : Nat) (resolve : ν → Behaviour) : List (Rule ν) → List Behaviour
  | [] => []
  | rule :: rest => rule.evaluate laps resolve :: Rule.evaluateAll laps resolve rest

/-- What a derivation does from a state on. -/
def Steps.evaluate (laps : Nat) (resolve : ν → Behaviour) : Steps ν → State → Run Value
  | .finish product, state => .matched product state
  | .apply rule next, state =>
    (rule.evaluate laps resolve state).andThen fun product here =>
      (next product).evaluate laps resolve here
  | .getState next, state => (next state).evaluate laps resolve state
  | .remark remark next, state =>
    (next.evaluate laps resolve state).after (.entry (.remarked remark))
  | .fault fault, _ => .raised fault

end

/-- The rules of the names, where they are defined. -/
abbrev Grammar (ν : Type) := ν → Option (Rule ν)

/-- How far an evaluation may go before it gives up. -/
structure Budget where
  /-- How deep references are unfolded inside each other. -/
  unfoldings : Nat
  /-- How many laps an unbounded repetition takes. -/
  laps : Nat
  deriving DecidableEq, Repr

namespace Grammar

/-- The behaviour of a rule, with names unfolded at most `unfoldings` levels deep. -/
def evaluateWithin (grammar : Grammar ν) (laps : Nat) : (unfoldings : Nat) → Rule ν → Behaviour
  | 0, rule, state => rule.evaluate laps (fun _ _ => .exhausted) state
  | unfoldings + 1, rule, state =>
    rule.evaluate laps
      (fun name here =>
        match grammar name with
        | none => .raised .undefinedRule
        | some body => evaluateWithin grammar laps unfoldings body here)
      state

/-- The behaviour of a rule within a budget. -/
def evaluate (grammar : Grammar ν) (budget : Budget) (rule : Rule ν) : Behaviour :=
  grammar.evaluateWithin budget.laps budget.unfoldings rule

end Grammar

end Descent
