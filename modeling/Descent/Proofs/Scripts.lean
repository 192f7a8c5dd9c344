import Descent.Script
import Mathlib.Data.List.Basic

/-!
# Variables of scripts

A variable that is read before it is set is a fault, and whether that can happen is seen from the
script alone: `setsFirst` goes through its steps with the names that are set so far. A script that
passes never stops for a variable, whatever its rules produce.
-/

namespace Descent.Script

variable {ν : Type} {laps : Nat} {resolve : ν → Behaviour} {bindings : Bindings}
  {names : List Text}

/-! ## Names that are set -/

mutual

/-- The expression reads no variables but those with the given names. -/
def Expression.readsOnly (names : List Text) : Expression → Bool
  | .variable name | .place name | .context name | .joined name => names.contains name
  | .constant _ => true
  | .tuple items => Expression.allReadOnly names items

/-- Neither do any of the expressions. -/
def Expression.allReadOnly (names : List Text) : List Expression → Bool
  | [] => true
  | item :: rest => item.readsOnly names && Expression.allReadOnly names rest

end

/-- Every variable is set before it is read, if the given names are set in front of the script. -/
def setsFirst (product : Expression) : List (Step ν) → List Text → Bool
  | [], names => product.readsOnly names
  | .run _ target :: rest, names => setsFirst product rest (target.toList ++ names)
  | .get target :: rest, names => setsFirst product rest (target :: names)
  | .proceed _ source target :: rest, names =>
    names.contains source && setsFirst product rest (target.toList ++ names)
  | .mark _ :: rest, names => setsFirst product rest names
  | .returnIf name _ early :: rest, names =>
    names.contains name && early.readsOnly names && setsFirst product rest names

/-- The names have values. -/
def Sets (bindings : Bindings) (names : List Text) : Prop :=
  ∀ name ∈ names, ∃ value, valueOf bindings name = .ok value

theorem Sets.exists_value (sets : Sets bindings names) {name : Text}
    (held : names.contains name) : ∃ value, valueOf bindings name = .ok value :=
  sets name (List.contains_iff_mem.mp held)

/-- A variable that is set hides no other. -/
theorem Sets.cons (sets : Sets bindings names) (name : Text) (value : Value) :
    Sets ((name, value) :: bindings) (name :: names) := by
  intro other held
  by_cases same : other = name
  · exact ⟨value, by simp [valueOf, same]⟩
  · obtain ⟨found, isFound⟩ := sets other ((List.mem_cons.mp held).resolve_left same)
    refine ⟨found, ?_⟩
    rwa [valueOf, List.lookup_cons, beq_false_of_ne same]

theorem Sets.bindTo (sets : Sets bindings names) (target : Option Text) (value : Value) :
    Sets (bindTo target value bindings) (target.toList ++ names) := by
  cases target with
  | none => exact sets
  | some name => exact sets.cons name value

/-! ## Expressions -/

/-- A field is read of a variable that is set, or it is the field that is missing. -/
theorem stateField_ne_unset (sets : Sets bindings names) {name : Text}
    (held : names.contains name) (field : Text) :
    stateField bindings name field ≠ .error .unsetVariable := by
  obtain ⟨value, isSet⟩ := sets.exists_value held
  unfold stateField
  rw [isSet]
  simp only [bind, Except.bind]
  split
  · split <;> simp [pure, Except.pure, throw, throwThe, MonadExceptOf.throw]
  · simp [throw, throwThe, MonadExceptOf.throw]

mutual

/-- An expression that reads only variables that are set is not stopped by one. -/
theorem Expression.evaluate_ne_unset (sets : Sets bindings names) :
    ∀ expression : Expression, expression.readsOnly names →
      expression.evaluate bindings ≠ .error .unsetVariable
  | .variable name, held => by
      obtain ⟨value, isSet⟩ := sets.exists_value held
      simp [Expression.evaluate, isSet]
  | .constant value, _ => by simp [Expression.evaluate]
  | .tuple items, held => by
      have each := Expression.evaluateAll_ne_unset sets items held
      unfold Expression.evaluate
      cases values : Expression.evaluateAll bindings items with
      | ok products => simp [Except.map]
      | error reason =>
          rw [values] at each
          simpa [Except.map] using each
  | .place _, held | .context _, held => stateField_ne_unset sets held _
  | .joined name, held => by
      obtain ⟨value, isSet⟩ := sets.exists_value held
      unfold Expression.evaluate
      rw [isSet]
      simp only [bind, Except.bind]
      split <;> simp [pure, Except.pure, throw, throwThe, MonadExceptOf.throw]

/-- Nor are several of them. -/
theorem Expression.evaluateAll_ne_unset (sets : Sets bindings names) :
    ∀ expressions : List Expression, Expression.allReadOnly names expressions →
      Expression.evaluateAll bindings expressions ≠ .error .unsetVariable
  | [], _ => by simp [Expression.evaluateAll]
  | item :: rest, held => by
      obtain ⟨first, others⟩ := Bool.and_eq_true_iff.mp held
      have ofItem := Expression.evaluate_ne_unset sets item first
      have ofRest := Expression.evaluateAll_ne_unset sets rest others
      unfold Expression.evaluateAll
      cases value : item.evaluate bindings with
      | error reason =>
          rw [value] at ofItem
          simpa [bind, Except.bind] using ofItem
      | ok product =>
          cases values : Expression.evaluateAll bindings rest with
          | error reason =>
              rw [values] at ofRest
              simpa [bind, Except.bind] using ofRest
          | ok products => simp [bind, Except.bind, pure, Except.pure]

end

/-! ## Derivations -/

/-- The behaviour is not stopped by a variable. -/
def Spares (body : Behaviour) : Prop := ∀ state, (body state).reply ≠ .raised .unsetVariable

/-- Neither the derivation itself nor a rule that it applies is stopped by a variable. -/
def StepsSpare (laps : Nat) (resolve : ν → Behaviour) : Steps ν → Prop
  | .finish _ => True
  | .fault fault => fault ≠ .unsetVariable
  | .apply rule next =>
    Spares (rule.evaluate laps resolve) ∧ ∀ product, StepsSpare laps resolve (next product)
  | .getState next => ∀ state, StepsSpare laps resolve (next state)
  | .remark _ next => StepsSpare laps resolve next

/-- A derivation goes on from a match, and takes over every other reply. -/
theorem spares_evaluate :
    ∀ steps : Steps ν, StepsSpare laps resolve steps → Spares (steps.evaluate laps resolve)
  | .finish _, _ => fun _ => nofun
  | .fault fault, spares => fun _ raised => spares (Reply.raised.inj raised)
  | .apply rule next, spares => by
      intro state
      show ((rule.evaluate laps resolve state).andThen _).reply ≠ _
      cases replied : (rule.evaluate laps resolve state).reply with
      | matched product here =>
          rw [Run.andThen, Run.branch_of_matched replied]
          exact spares_evaluate (next product) (spares.2 product) here
      | declined =>
          rw [Run.andThen, Run.branch_of_declined replied]
          exact nofun
      | failed error =>
          rw [Run.andThen, Run.branch_of_failed replied]
          exact nofun
      | raised fault =>
          rw [Run.andThen, Run.branch_of_raised replied]
          intro same
          exact spares.1 state (replied.trans (congrArg _ (Reply.raised.inj same)))
      | exhausted =>
          rw [Run.andThen, Run.branch_of_exhausted replied]
          exact nofun
  | .getState next, spares => fun state => spares_evaluate (next state) (spares state) state
  | .remark _ next, spares => spares_evaluate next spares

/-! ## Scripts -/

/-- The rules of the step are not stopped by a variable. -/
def Step.Spares (laps : Nat) (resolve : ν → Behaviour) : Step ν → Prop
  | .run rule _ => Script.Spares (rule.evaluate laps resolve)
  | .proceed continuation _ _ =>
    ∀ value, Script.Spares ((continuation value).evaluate laps resolve)
  | .get _ | .mark _ | .returnIf _ _ _ => True

/-- A derivation that ends with an expression. -/
theorem spares_finishWith (sets : Sets bindings names) {product : Expression}
    (held : product.readsOnly names) :
    StepsSpare laps resolve (finishWith bindings product : Steps ν) := by
  have evaluated := product.evaluate_ne_unset sets held
  unfold finishWith
  split
  · trivial
  · next fault stopped =>
      rintro rfl
      exact evaluated stopped

/-- The steps of a script, behind steps that have set the names. -/
theorem spares_steps (sets : Sets bindings names) {product : Expression} {script : List (Step ν)}
    (inScope : setsFirst product script names)
    (spared : ∀ step ∈ script, step.Spares laps resolve) :
    StepsSpare laps resolve (steps product script bindings) := by
  induction script generalizing names bindings with
  | nil => exact spares_finishWith sets inScope
  | cons step rest inductionHypothesis =>
      obtain ⟨first, others⟩ := List.forall_mem_cons.mp spared
      cases step with
      | run rule target =>
          exact ⟨first, fun value => inductionHypothesis (sets.bindTo target value) inScope others⟩
      | get target =>
          exact fun state => inductionHypothesis (sets.cons target state.snapshot) inScope others
      | proceed continuation source target =>
          obtain ⟨held, further⟩ := Bool.and_eq_true_iff.mp inScope
          obtain ⟨value, isSet⟩ := sets.exists_value held
          rw [steps, isSet]
          exact ⟨first value, fun value =>
            inductionHypothesis (sets.bindTo target value) further others⟩
      | mark label => exact inductionHypothesis sets inScope others
      | returnIf name expected early =>
          obtain ⟨⟨held, reads⟩, further⟩ :=
            (Bool.and_eq_true_iff.mp inScope).imp_left Bool.and_eq_true_iff.mp
          obtain ⟨value, isSet⟩ := sets.exists_value held
          rw [steps, isSet]
          dsimp only
          split
          · exact spares_finishWith sets reads
          · exact inductionHypothesis sets further others

/-- A script that sets every variable before it is read does not stop for one, if its rules do
not. -/
theorem spares_rule {script : List (Step ν)} {product : Expression}
    (inScope : setsFirst product script []) (spared : ∀ step ∈ script, step.Spares laps resolve)
    (label : Option Value) :
    Spares ((rule script product label).evaluate laps resolve) :=
  spares_evaluate _ (spares_steps (List.forall_mem_nil _) inScope spared)

end Descent.Script
