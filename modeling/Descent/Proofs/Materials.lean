import Descent.Rule

/-!
# What rules are made of

Besides the functions that it calls, a grammar supplies its rules with names to refer to, with
factories that word errors, and with faults in continuations and derivations. `Rule.MadeOf` says
that a rule uses no others, whatever the products and states that it meets on the way.
-/

namespace Descent

variable {ν : Type}

/-- What rules may be made of: the names that they refer to, the factories that word their errors,
and faults in their continuations and derivations. -/
structure Materials (ν : Type) where
  Names : ν → Prop
  Errors : ErrorAt → Prop
  Faults : Prop

mutual

/-- The rule is made of the materials, whatever the products and states that it meets. -/
def Rule.MadeOf (materials : Materials ν) : Rule ν → Prop
  | .term _ | .empty => True
  | .reference name => materials.Names name
  | .fault _ => materials.Faults
  | .semantics subrule _ | .optional subrule _ | .zeroOrMore subrule | .oneOrMore subrule
  | .exactly _ subrule | .updating subrule _ | .watched _ subrule => subrule.MadeOf materials
  | .exclude subrule subtrahends =>
    subrule.MadeOf materials ∧ Rule.AllMadeOf materials subtrahends
  | .sequence subrules | .choice subrules => Rule.AllMadeOf materials subrules
  | .bind subrule continuation =>
    subrule.MadeOf materials ∧ ∀ product, (continuation product).MadeOf materials
  | .derivation steps _ => steps.MadeOf materials
  | .failpoint subrule error => subrule.MadeOf materials ∧ materials.Errors error
  | .escalate error => materials.Errors error

/-- The rules are made of the materials. -/
def Rule.AllMadeOf (materials : Materials ν) : List (Rule ν) → Prop
  | [] => True
  | rule :: rest => rule.MadeOf materials ∧ Rule.AllMadeOf materials rest

/-- The derivation is made of the materials. -/
def Steps.MadeOf (materials : Materials ν) : Steps ν → Prop
  | .finish _ => True
  | .fault _ => materials.Faults
  | .apply rule next => rule.MadeOf materials ∧ ∀ product, (next product).MadeOf materials
  | .getState next => ∀ state, (next state).MadeOf materials
  | .remark _ next => next.MadeOf materials

end

/-- Materials of which nothing is left out. -/
def Materials.all : Materials ν where
  Names _ := True
  Errors _ := True
  Faults := True

mutual

/-- Every rule is made of all the materials. -/
theorem Rule.madeOf_all : ∀ rule : Rule ν, rule.MadeOf .all
  | .term _ | .empty | .reference _ | .fault _ | .escalate _ => trivial
  | .semantics subrule _ | .optional subrule _ | .zeroOrMore subrule | .oneOrMore subrule
  | .exactly _ subrule | .updating subrule _ | .watched _ subrule => Rule.madeOf_all subrule
  | .exclude subrule subtrahends => ⟨Rule.madeOf_all subrule, Rule.allMadeOf_all subtrahends⟩
  | .sequence subrules | .choice subrules => Rule.allMadeOf_all subrules
  | .bind subrule continuation =>
    ⟨Rule.madeOf_all subrule, fun product => Rule.madeOf_all (continuation product)⟩
  | .derivation steps _ => Steps.madeOf_all steps
  | .failpoint subrule _ => ⟨Rule.madeOf_all subrule, trivial⟩

/-- All rules are. -/
theorem Rule.allMadeOf_all : ∀ rules : List (Rule ν), Rule.AllMadeOf .all rules
  | [] => trivial
  | rule :: rest => ⟨Rule.madeOf_all rule, Rule.allMadeOf_all rest⟩

/-- Every derivation is. -/
theorem Steps.madeOf_all : ∀ steps : Steps ν, steps.MadeOf .all
  | .finish _ | .fault _ => trivial
  | .apply rule next => ⟨Rule.madeOf_all rule, fun product => Steps.madeOf_all (next product)⟩
  | .getState next => fun state => Steps.madeOf_all (next state)
  | .remark _ next => Steps.madeOf_all next

end

end Descent
