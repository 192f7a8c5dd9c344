import Descent.Rule
import Mathlib.Data.List.Forall2

/-!
# Evaluations in pairs

Two evaluations that are compared step by step: of one rule at two places, of two rules at one
place, or of one rule within two budgets. A `Pairing` says when the runs of the two are related,
and when two states are such that both may go on from them.

`Pairing.Closed` lists what a pairing has to survive. Since combinators do nothing but reply, call
functions of the grammar and go on by `Run.branch`, a closed pairing relates the behaviours of two
rules of one form as soon as it relates those of their parts: one fact for each form of rule. The
forms that evaluations may be compared across, such as context updates, are left to the pairing at
hand.
-/

namespace Descent

/-- When the runs of two evaluations are related, and from which states both may go on. -/
structure Pairing where
  Runs : {α : Type} → Run α → Run α → Prop
  States : State → State → Prop

namespace Pairing

/-- Two behaviours whose runs are related at related states. -/
def Behaviours (pairing : Pairing) (first second : Behaviour) : Prop :=
  ∀ ⦃here there⦄, pairing.States here there → pairing.Runs (first here) (second there)

/-- Two factories whose failures are related at related states. -/
def Errors (pairing : Pairing) (first second : ErrorAt) : Prop :=
  ∀ ⦃here there⦄, pairing.States here there → ∀ origin,
    pairing.Runs (Behaviour.fail origin first here : Run Value) (Behaviour.fail origin second there)

/-- What a pairing survives, so that every combinator keeps it. -/
structure Closed (pairing : Pairing) : Prop where
  matched {α : Type} (product : α) {here there : State} (related : pairing.States here there) :
    pairing.Runs (.matched product here) (.matched product there)
  declined {α : Type} : pairing.Runs (.declined : Run α) .declined
  raised {α : Type} (fault : Fault) : pairing.Runs (.raised fault : Run α) (.raised fault)
  exhausted {α : Type} : pairing.Runs (.exhausted : Run α) .exhausted
  call {α : Type} (callee : Callee) (call : Call α) {here there : State}
    (related : pairing.States here there) :
    pairing.Runs (call.run callee here) (call.run callee there)
  terminal (test : Value → Call Bool) :
    pairing.Behaviours (Behaviour.term test) (Behaviour.term test)
  branch {α β : Type} {first second : Run α} {onMatch onMatch' : α → State → Run β}
    {onDecline onDecline' : Unit → Run β} (paired : pairing.Runs first second)
    (afterMatch : ∀ product ⦃here there⦄, pairing.States here there →
      pairing.Runs (onMatch product here) (onMatch' product there))
    (afterDecline : pairing.Runs (onDecline ()) (onDecline' ())) :
    pairing.Runs (first.branch onMatch onDecline) (second.branch onMatch' onDecline')
  /-- What a lap of a repetition goes on with, unless it has not moved on. -/
  lap {here there next next' : State} {first second : Run (List Value)}
    (before : pairing.States here there) (after : pairing.States next next')
    (paired : pairing.Runs first second) :
    pairing.Runs (if next.samePosition here then Behaviour.stall here else first)
      (if next'.samePosition there then Behaviour.stall there else second)
  observe {here there : State} {first second : Run Value} (related : pairing.States here there)
    (paired : pairing.Runs first second) :
    pairing.Runs (Behaviour.observe here first) (Behaviour.observe there second)
  watch {here there : State} {body body' : Behaviour} (label : Value)
    (related : pairing.States here there) (paired : pairing.Runs (body here) (body' there)) :
    pairing.Runs (Behaviour.watched label body here) (Behaviour.watched label body' there)
  remarkBefore {first second : Run Value} (remark : Remark) (paired : pairing.Runs first second) :
    pairing.Runs (first.after (.entry (.remarked remark)))
      (second.after (.entry (.remarked remark)))
  remarkAfter {first second : Run Value} (remarks : List Remark)
    (paired : pairing.Runs first second) :
    pairing.Runs (first.andNote (.ofList (remarks.map .remarked)))
      (second.andNote (.ofList (remarks.map .remarked)))

namespace Closed

variable {pairing : Pairing} (closed : pairing.Closed)

include closed

/-- Going on after matches. -/
theorem andThen {α β : Type} {first second : Run α} {next next' : α → State → Run β}
    (paired : pairing.Runs first second)
    (afterMatch : ∀ product ⦃here there⦄, pairing.States here there →
      pairing.Runs (next product here) (next' product there)) :
    pairing.Runs (first.andThen next) (second.andThen next') :=
  closed.branch paired afterMatch closed.declined

/-- Going on after declines. -/
theorem orElse {α : Type} {first second : Run α} {next next' : Unit → Run α}
    (paired : pairing.Runs first second) (afterDecline : pairing.Runs (next ()) (next' ())) :
    pairing.Runs (first.orElse next) (second.orElse next') :=
  closed.branch paired (fun product _ _ related => closed.matched product related) afterDecline

/-- Changing products. -/
theorem map {α β : Type} {first second : Run α} (change : α → β)
    (paired : pairing.Runs first second) : pairing.Runs (first.map change) (second.map change) :=
  closed.andThen paired fun product _ _ related => closed.matched (change product) related

/-! ## Combinators -/

variable {body body' : Behaviour} {subrules subrules' : List Behaviour}

/-- Subtrahends that are tried one after the other. -/
theorem exclusion (paired : pairing.Behaviours body body')
    (each : List.Forall₂ pairing.Behaviours subrules subrules') :
    pairing.Behaviours (Behaviour.exclude body subrules) (Behaviour.exclude body' subrules') := by
  induction each with
  | nil => exact paired
  | cons first rest inductionHypothesis =>
      intro here there related
      rw [Behaviour.exclude, Behaviour.exclude]
      apply closed.branch (first related)
      · intro product next next' _
        exact closed.declined
      · exact inductionHypothesis related

/-- Parts in a row. -/
theorem parts (each : List.Forall₂ pairing.Behaviours subrules subrules') {here there : State}
    (related : pairing.States here there) :
    pairing.Runs (Behaviour.parts subrules here) (Behaviour.parts subrules' there) := by
  induction each generalizing here there with
  | nil => exact closed.matched [] related
  | cons first rest inductionHypothesis =>
      apply closed.andThen (first related)
      intro product next next' after
      exact closed.map _ (inductionHypothesis after)

/-- Alternatives that are tried one after the other. -/
theorem alternatives (each : List.Forall₂ pairing.Behaviours subrules subrules') :
    pairing.Behaviours (Behaviour.choice subrules) (Behaviour.choice subrules') := by
  induction each with
  | nil => exact fun _ _ _ => closed.declined
  | cons first rest inductionHypothesis =>
      intro here there related
      exact closed.orElse (first related) (inductionHypothesis related)

/-- Laps in a row. -/
theorem collect (paired : pairing.Behaviours body body') (limit : Nat) {here there : State}
    (related : pairing.States here there) :
    pairing.Runs (Behaviour.collect body limit here) (Behaviour.collect body' limit there) := by
  induction limit generalizing here there with
  | zero => exact closed.matched [] related
  | succ limit inductionHypothesis =>
      apply closed.branch (paired related)
      · intro product next next' after
        exact closed.lap related after (closed.map _ (inductionHypothesis after))
      · exact closed.matched [] related

/-- Laps, and a verdict on their products. -/
theorem repetition (paired : pairing.Behaviours body body') (limit : Nat)
    {verdict verdict' : List Value → State → Run Value}
    (judged : ∀ products ⦃here there⦄, pairing.States here there →
      pairing.Runs (verdict products here) (verdict' products there)) :
    pairing.Behaviours (fun here => (Behaviour.collect body limit here).andThen verdict)
      (fun there => (Behaviour.collect body' limit there).andThen verdict') :=
  fun _ _ related => closed.andThen (closed.collect paired limit related) judged

/-- Unbounded repetitions that give up after the same number of laps. -/
theorem unbounded (paired : pairing.Behaviours body body') (limit : Nat) :
    pairing.Behaviours (Behaviour.zeroOrMore limit body) (Behaviour.zeroOrMore limit body') := by
  apply closed.repetition paired limit
  intro products next next' after
  split
  · exact closed.matched _ after
  · exact closed.exhausted

/-- Unbounded repetitions that have to match once and give up after the same number of laps. -/
theorem unboundedOnce (paired : pairing.Behaviours body body') (limit : Nat) :
    pairing.Behaviours (Behaviour.oneOrMore limit body) (Behaviour.oneOrMore limit body') := by
  apply closed.repetition paired limit
  intro products next next' after
  split
  · split
    · exact closed.declined
    · exact closed.matched _ after
  · exact closed.exhausted

/-! ## Rules -/

variable {ν : Type} {laps laps' : Nat} {resolve resolve' : ν → Behaviour} {rule rule' : Rule ν}

/-- A terminal looks at its token alone. -/
theorem term (test : Value → Call Bool) :
    pairing.Behaviours ((Rule.term test : Rule ν).evaluate laps resolve)
      ((Rule.term test : Rule ν).evaluate laps' resolve') :=
  fun _ _ related => closed.observe related (closed.terminal test related)

/-- Matching in place does not depend on anything that is paired. -/
theorem empty :
    pairing.Behaviours ((Rule.empty : Rule ν).evaluate laps resolve)
      ((Rule.empty : Rule ν).evaluate laps' resolve') :=
  fun _ _ related => closed.observe related (closed.matched _ related)

/-- Products stay alike under the same transform. -/
theorem semantics
    (paired : pairing.Behaviours (rule.evaluate laps resolve) (rule'.evaluate laps' resolve'))
    (transform : Value → Call Value) :
    pairing.Behaviours ((Rule.semantics rule transform).evaluate laps resolve)
      ((Rule.semantics rule' transform).evaluate laps' resolve') := by
  intro here there related
  apply closed.observe related
  apply closed.andThen (paired related)
  intro product next next' after
  exact closed.call .transform (transform product) after

/-- What is left of a rule when others are excluded, one by one. -/
theorem exclude {others others' : List (Rule ν)}
    (paired : pairing.Behaviours (rule.evaluate laps resolve) (rule'.evaluate laps' resolve'))
    (each : List.Forall₂ pairing.Behaviours (Rule.evaluateAll laps resolve others)
      (Rule.evaluateAll laps' resolve' others')) :
    pairing.Behaviours ((Rule.exclude rule others).evaluate laps resolve)
      ((Rule.exclude rule' others').evaluate laps' resolve') :=
  fun _ _ related => closed.observe related (closed.exclusion paired each related)

/-- Sequences with parts that are paired one by one. -/
theorem sequence {rules rules' : List (Rule ν)}
    (each : List.Forall₂ pairing.Behaviours (Rule.evaluateAll laps resolve rules)
      (Rule.evaluateAll laps' resolve' rules')) :
    pairing.Behaviours ((Rule.sequence rules).evaluate laps resolve)
      ((Rule.sequence rules').evaluate laps' resolve') :=
  fun _ _ related => closed.observe related (closed.map _ (closed.parts each related))

/-- Choices with alternatives that are paired one by one. -/
theorem choice {rules rules' : List (Rule ν)}
    (each : List.Forall₂ pairing.Behaviours (Rule.evaluateAll laps resolve rules)
      (Rule.evaluateAll laps' resolve' rules')) :
    pairing.Behaviours ((Rule.choice rules).evaluate laps resolve)
      ((Rule.choice rules').evaluate laps' resolve') :=
  fun _ _ related => closed.observe related (closed.alternatives each related)

/-- A missing part has the same default in both runs. -/
theorem optional
    (paired : pairing.Behaviours (rule.evaluate laps resolve) (rule'.evaluate laps' resolve'))
    (default : Value) :
    pairing.Behaviours ((Rule.optional rule default).evaluate laps resolve)
      ((Rule.optional rule' default).evaluate laps' resolve') :=
  fun _ _ related =>
    closed.observe related (closed.orElse (paired related) (closed.matched default related))

/-- Both repetitions take the same laps. -/
theorem zeroOrMore
    (paired : pairing.Behaviours (rule.evaluate laps resolve) (rule'.evaluate laps resolve')) :
    pairing.Behaviours ((Rule.zeroOrMore rule).evaluate laps resolve)
      ((Rule.zeroOrMore rule').evaluate laps resolve') :=
  fun _ _ related => closed.observe related (closed.unbounded paired laps related)

/-- So do those that need a lap. -/
theorem oneOrMore
    (paired : pairing.Behaviours (rule.evaluate laps resolve) (rule'.evaluate laps resolve')) :
    pairing.Behaviours ((Rule.oneOrMore rule).evaluate laps resolve)
      ((Rule.oneOrMore rule').evaluate laps resolve') :=
  fun _ _ related => closed.observe related (closed.unboundedOnce paired laps related)

/-- So do those with a fixed number of laps. -/
theorem exactly
    (paired : pairing.Behaviours (rule.evaluate laps resolve) (rule'.evaluate laps' resolve'))
    (count : Int) :
    pairing.Behaviours ((Rule.exactly count rule).evaluate laps resolve)
      ((Rule.exactly count rule').evaluate laps' resolve') := by
  intro here there related
  apply closed.observe related
  apply closed.repetition paired count.toNat _ related
  intro products next next' after
  split
  · exact closed.declined
  · exact closed.matched _ after

/-- A name stands for paired behaviours. -/
theorem reference {name : ν} (named : pairing.Behaviours (resolve name) (resolve' name)) :
    pairing.Behaviours ((Rule.reference name).evaluate laps resolve)
      ((Rule.reference name).evaluate laps' resolve') :=
  fun _ _ related => closed.observe related (named related)

/-- Products that are the same select paired rules. -/
theorem bind {continuation continuation' : Value → Rule ν}
    (paired : pairing.Behaviours (rule.evaluate laps resolve) (rule'.evaluate laps' resolve'))
    (selected : ∀ product, pairing.Behaviours ((continuation product).evaluate laps resolve)
      ((continuation' product).evaluate laps' resolve')) :
    pairing.Behaviours ((Rule.bind rule continuation).evaluate laps resolve)
      ((Rule.bind rule' continuation').evaluate laps' resolve') :=
  fun _ _ related => closed.observe related (closed.andThen (paired related) selected)

/-- Derivations with steps that are paired. -/
theorem derivation {steps steps' : Steps ν}
    (paired : pairing.Behaviours (steps.evaluate laps resolve) (steps'.evaluate laps' resolve'))
    (closing : List Remark) :
    pairing.Behaviours ((Rule.derivation steps closing).evaluate laps resolve)
      ((Rule.derivation steps' closing).evaluate laps' resolve') :=
  fun _ _ related => closed.observe related (closed.remarkAfter closing (paired related))

/-- Errors are worded alike where a mandatory part is missing. -/
theorem failpoint {error error' : ErrorAt}
    (paired : pairing.Behaviours (rule.evaluate laps resolve) (rule'.evaluate laps' resolve'))
    (worded : pairing.Errors error error') :
    pairing.Behaviours ((Rule.failpoint rule error).evaluate laps resolve)
      ((Rule.failpoint rule' error').evaluate laps' resolve') :=
  fun _ _ related =>
    closed.observe related (closed.orElse (paired related) (worded related .failpoint))

/-- An escalation words its error alike. -/
theorem escalate {error error' : ErrorAt} (worded : pairing.Errors error error') :
    pairing.Behaviours ((Rule.escalate error : Rule ν).evaluate laps resolve)
      ((Rule.escalate error' : Rule ν).evaluate laps' resolve') :=
  fun _ _ related => closed.observe related (worded related .escalation)

/-- A watcher remarks on both runs alike. -/
theorem watched
    (paired : pairing.Behaviours (rule.evaluate laps resolve) (rule'.evaluate laps' resolve'))
    (label : Value) :
    pairing.Behaviours ((Rule.watched label rule).evaluate laps resolve)
      ((Rule.watched label rule').evaluate laps' resolve') :=
  fun _ _ related => closed.observe related (closed.watch label related (paired related))

/-- A fault is the same fault in both runs. -/
theorem fault (fault : Fault) :
    pairing.Behaviours ((Rule.fault fault : Rule ν).evaluate laps resolve)
      ((Rule.fault fault : Rule ν).evaluate laps' resolve') :=
  fun _ _ related => closed.observe related (closed.raised fault)

/-! ## Steps of derivations -/

/-- The last step. -/
theorem finish (product : Value) :
    pairing.Behaviours ((Steps.finish product : Steps ν).evaluate laps resolve)
      ((Steps.finish product : Steps ν).evaluate laps' resolve') :=
  fun _ _ related => closed.matched product related

/-- A step and the steps after it. -/
theorem apply {next next' : Value → Steps ν}
    (paired : pairing.Behaviours (rule.evaluate laps resolve) (rule'.evaluate laps' resolve'))
    (following : ∀ product, pairing.Behaviours ((next product).evaluate laps resolve)
      ((next' product).evaluate laps' resolve')) :
    pairing.Behaviours ((Steps.apply rule next).evaluate laps resolve)
      ((Steps.apply rule' next').evaluate laps' resolve') :=
  fun _ _ related => closed.andThen (paired related) following

/-- A remark is noted in both runs. -/
theorem remark {steps steps' : Steps ν} (remark : Remark)
    (paired : pairing.Behaviours (steps.evaluate laps resolve) (steps'.evaluate laps' resolve')) :
    pairing.Behaviours ((Steps.remark remark steps).evaluate laps resolve)
      ((Steps.remark remark steps').evaluate laps' resolve') :=
  fun _ _ related => closed.remarkBefore remark (paired related)

/-- A derivation that stops with a fault. -/
theorem halt (fault : Fault) :
    pairing.Behaviours ((Steps.fault fault : Steps ν).evaluate laps resolve)
      ((Steps.fault fault : Steps ν).evaluate laps' resolve') :=
  fun _ _ _ => closed.raised fault

end Closed

end Pairing

end Descent
