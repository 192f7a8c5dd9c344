import Descent.Proofs.Materials

/-!
# Properties that every evaluation has

A run property speaks of a run and of the state at which the run begins. `RunProperty.KeptBy` lists
what such a property has to survive: the replies that a combinator makes on its own, the failures
that are worded by certain factories, the calls of the grammar's functions, `Run.branch`, and the
events that are noted around a run. Combinators do nothing else, so `KeptBy.grammar` has the
property for every rule of every grammar that words its errors by those factories.

A property that is kept whatever factories there are is `Kept`, and every rule of every grammar has
it.

The module proves no particular property.
-/

namespace Descent

/-- A property of runs that begin at a state. -/
abbrev RunProperty := (α : Type) → State → Run α → Prop

namespace RunProperty

/-- What a property survives, so that every combinator keeps it, if the errors of the grammar are
worded by the given factories. -/
structure KeptBy (property : RunProperty) (errors : ErrorAt → Prop) : Prop where
  matched {α : Type} (product : α) (state : State) : property α state (.matched product state)
  forward (token : Value) (state : State) (count : Nat) :
    property Value state (.matched token (state.forward count))
  declined {α : Type} (state : State) : property α state .declined
  raised {α : Type} (fault : Fault) (state : State) : property α state (.raised fault)
  exhausted {α : Type} (state : State) : property α state .exhausted
  call {α : Type} (callee : Callee) (state : State) (call : Call α) :
    property α state (call.run callee state)
  fail {α : Type} (origin : FailureOrigin) (error : ErrorAt) (worded : errors error)
    (state : State) : property α state (Behaviour.fail origin error state)
  stall {α : Type} (state : State) : property α state (Behaviour.stall state)
  branch {α β : Type} {state : State} {run : Run α} {onMatch : α → State → Run β}
    {onDecline : Unit → Run β} (first : property α state run)
    (afterMatch : ∀ product next, run.reply = .matched product next →
      property β state (onMatch product next))
    (afterDecline : run.reply = .declined → property β state (onDecline ())) :
    property β state (run.branch onMatch onDecline)
  /-- What begins where a match ended may be seen as beginning where the match began. -/
  follow {α β : Type} {state next : State} {run : Run α} {product : α} {continued : Run β}
    (first : property α state run) (reply : run.reply = .matched product next)
    (second : property β next continued) : property β state continued
  /-- The context at the beginning does not matter. -/
  context {α : Type} {state : State} {context : Value} {run : Run α}
    (moved : property α (state.withContext context) run) : property α state run
  observe {state : State} {run : Run Value} (first : property Value state run) :
    property Value state (Behaviour.observe state run)
  remarkBefore {state : State} {run : Run Value} (remark : Remark)
    (first : property Value state run) :
    property Value state (run.after (.entry (.remarked remark)))
  remarkAfter {state : State} {run : Run Value} (remarks : List Remark)
    (first : property Value state run) :
    property Value state (run.andNote (.ofList (remarks.map .remarked)))

/-- What a property survives, so that every combinator keeps it, however errors are worded. -/
abbrev Kept (property : RunProperty) : Prop := property.KeptBy fun _ => True

namespace KeptBy

variable {property : RunProperty} {errors : ErrorAt → Prop} (kept : property.KeptBy errors)

include kept

/-- Going on after a match keeps the property. -/
theorem andThen {α β : Type} {state : State} {run : Run α} {next : α → State → Run β}
    (first : property α state run)
    (second : ∀ product here, run.reply = .matched product here →
      property β here (next product here)) :
    property β state (run.andThen next) := by
  refine kept.branch first ?_ fun _ => kept.declined state
  intro product here reply
  exact kept.follow first reply (second product here reply)

/-- Going on after a decline keeps the property. -/
theorem orElse {α : Type} {state : State} {run : Run α} {next : Unit → Run α}
    (first : property α state run)
    (second : run.reply = .declined → property α state (next ())) :
    property α state (run.orElse next) := by
  refine kept.branch first ?_ second
  intro product here reply
  exact kept.follow first reply (kept.matched product here)

/-- Changing the product keeps the property. -/
theorem map {α β : Type} {state : State} {run : Run α} (change : α → β)
    (first : property α state run) : property β state (run.map change) :=
  kept.andThen first fun product here _ => kept.matched (change product) here

/-! ## Combinators -/

/-- A terminal has the property. -/
theorem term (test : Value → Call Bool) (state : State) :
    property Value state (Behaviour.term test state) := by
  unfold Behaviour.term
  split
  · exact kept.declined state
  · split
    · exact kept.raised _ state
    · refine kept.andThen (kept.call .test state _) ?_
      intro passes here _
      split
      · exact kept.forward _ here 1
      · exact kept.declined here

/-- The property survives a change of the product by a call. -/
theorem semantics {body : Behaviour} {state : State} (transform : Value → Call Value)
    (first : property Value state (body state)) :
    property Value state (Behaviour.semantics body transform state) :=
  kept.andThen first fun product here _ => kept.call .transform here (transform product)

/-- The property survives exclusion, whatever the subtrahends reply. -/
theorem exclude {body : Behaviour} {subtrahends : List Behaviour} {state : State}
    (first : property Value state (body state))
    (others : ∀ subtrahend ∈ subtrahends, property Value state (subtrahend state)) :
    property Value state (Behaviour.exclude body subtrahends state) := by
  induction subtrahends with
  | nil => exact first
  | cons subtrahend rest inductionHypothesis =>
      rw [Behaviour.exclude]
      refine kept.branch (others subtrahend List.mem_cons_self) ?_ ?_
      · intro _ _ _
        exact kept.declined state
      · intro _
        exact inductionHypothesis fun other member =>
          others other (List.mem_cons_of_mem subtrahend member)

/-- The property survives parts in a row. -/
theorem parts {subrules : List Behaviour}
    (each : ∀ subrule ∈ subrules, ∀ state, property Value state (subrule state))
    (state : State) : property (List Value) state (Behaviour.parts subrules state) := by
  induction subrules generalizing state with
  | nil => exact kept.matched [] state
  | cons subrule rest inductionHypothesis =>
      refine kept.andThen (each subrule List.mem_cons_self state) ?_
      intro product here _
      exact kept.map _ (inductionHypothesis
        (fun other member => each other (List.mem_cons_of_mem subrule member)) here)

/-- The property survives ordered choice. -/
theorem choice {subrules : List Behaviour} {state : State}
    (each : ∀ subrule ∈ subrules, property Value state (subrule state)) :
    property Value state (Behaviour.choice subrules state) := by
  induction subrules with
  | nil => exact kept.declined state
  | cons subrule rest inductionHypothesis =>
      refine kept.orElse (each subrule List.mem_cons_self) ?_
      intro _
      exact inductionHypothesis fun other member =>
        each other (List.mem_cons_of_mem subrule member)

/-- The property survives an optional rule. -/
theorem optional {body : Behaviour} {state : State} (default : Value)
    (first : property Value state (body state)) :
    property Value state (Behaviour.optional body default state) :=
  kept.orElse first fun _ => kept.matched default state

/-- The property survives every number of laps. -/
theorem collect {body : Behaviour} (each : ∀ state, property Value state (body state))
    (limit : Nat) (state : State) :
    property (List Value) state (Behaviour.collect body limit state) := by
  induction limit generalizing state with
  | zero => exact kept.matched [] state
  | succ limit inductionHypothesis =>
      refine kept.branch (each state) ?_ fun _ => kept.matched [] state
      intro product next reply
      split
      · exact kept.stall state
      · exact kept.follow (each state) reply (kept.map _ (inductionHypothesis next))

/-- The property survives a repetition, however its laps are judged. -/
theorem repetition {body : Behaviour} (each : ∀ state, property Value state (body state))
    (limit : Nat) (verdict : List Value → State → Run Value)
    (judged : ∀ products state, property Value state (verdict products state)) (state : State) :
    property Value state ((Behaviour.collect body limit state).andThen verdict) :=
  kept.andThen (kept.collect each limit state) fun products here _ => judged products here

/-- The property survives unbounded repetition. -/
theorem zeroOrMore {body : Behaviour} (each : ∀ state, property Value state (body state))
    (laps : Nat) (state : State) :
    property Value state (Behaviour.zeroOrMore laps body state) := by
  refine kept.repetition each laps _ ?_ state
  intro products here
  split
  · exact kept.matched _ here
  · exact kept.exhausted here

/-- The property survives unbounded repetition that has to match once. -/
theorem oneOrMore {body : Behaviour} (each : ∀ state, property Value state (body state))
    (laps : Nat) (state : State) :
    property Value state (Behaviour.oneOrMore laps body state) := by
  refine kept.repetition each laps _ ?_ state
  intro products here
  split
  · split
    · exact kept.declined here
    · exact kept.matched _ here
  · exact kept.exhausted here

/-- The property survives counted repetition. -/
theorem exactly {body : Behaviour} (each : ∀ state, property Value state (body state))
    (count : Int) (state : State) :
    property Value state (Behaviour.exactly count body state) := by
  refine kept.repetition each count.toNat _ ?_ state
  intro products here
  split
  · exact kept.declined here
  · exact kept.matched _ here

/-- The property survives a failpoint. -/
theorem failpoint {body : Behaviour} {state : State} {error : ErrorAt} (worded : errors error)
    (first : property Value state (body state)) :
    property Value state (Behaviour.failpoint body error state) :=
  kept.orElse first fun _ => kept.fail .failpoint error worded state

/-- The property survives updaters, each run on the context that the last one left. -/
theorem update (product : Value) (updaters : List Updater) (state : State) :
    property Value state (Behaviour.update product updaters state) := by
  induction updaters generalizing state with
  | nil => exact kept.matched product state
  | cons updater rest inductionHypothesis =>
      refine kept.andThen (kept.call .updater state _) ?_
      intro context here _
      exact kept.context (inductionHypothesis (here.withContext context))

/-- The property survives a context update after a match. -/
theorem updating {body : Behaviour} {state : State} (updaters : List Updater)
    (first : property Value state (body state)) :
    property Value state (Behaviour.updating body updaters state) :=
  kept.andThen first fun product here _ => kept.update product updaters here

/-- The property survives a watcher. -/
theorem watched {body : Behaviour} {state : State} (label : Value)
    (first : property Value state (body state)) :
    property Value state (Behaviour.watched label body state) :=
  kept.remarkAfter _ (kept.remarkBefore _ first)

/-! ## Rules -/

omit kept

variable {ν : Type} {materials : Materials ν} {laps : Nat} {resolve : ν → Behaviour}

mutual

/-- A rule that is made of the materials has the property wherever the names it refers to have
it. -/
theorem rule (kept : property.KeptBy materials.Errors)
    (named : ∀ name state, property Value state (resolve name state)) :
    ∀ rule : Rule ν, rule.MadeOf materials → ∀ state,
      property Value state (rule.evaluate laps resolve state)
  | .term test, _, state => kept.observe (kept.term test state)
  | .empty, _, state => kept.observe (kept.matched Value.none state)
  | .semantics subrule transform, made, state =>
    kept.observe (kept.semantics transform (rule kept named subrule made state))
  | .exclude subrule subtrahends, made, state =>
    kept.observe (kept.exclude (rule kept named subrule made.1 state)
      fun other member => rules kept named subtrahends made.2 other member state)
  | .sequence subrules, made, state =>
    kept.observe (kept.map _ (kept.parts (rules kept named subrules made) state))
  | .choice subrules, made, state =>
    kept.observe (kept.choice fun other member => rules kept named subrules made other member state)
  | .optional subrule default, made, state =>
    kept.observe (kept.optional default (rule kept named subrule made state))
  | .zeroOrMore subrule, made, state =>
    kept.observe (kept.zeroOrMore (rule kept named subrule made) laps state)
  | .oneOrMore subrule, made, state =>
    kept.observe (kept.oneOrMore (rule kept named subrule made) laps state)
  | .exactly count subrule, made, state =>
    kept.observe (kept.exactly (rule kept named subrule made) count state)
  | .reference name, _, state => kept.observe (named name state)
  | .bind subrule continuation, made, state =>
    kept.observe (kept.andThen (rule kept named subrule made.1 state)
      fun product here _ => rule kept named (continuation product) (made.2 product) here)
  | .derivation taken closing, made, state =>
    kept.observe (kept.remarkAfter closing (steps kept named taken made state))
  | .failpoint subrule _, made, state =>
    kept.observe (kept.failpoint made.2 (rule kept named subrule made.1 state))
  | .escalate error, made, state => kept.observe (kept.fail .escalation error made state)
  | .updating subrule updaters, made, state =>
    kept.observe (kept.updating updaters (rule kept named subrule made state))
  | .watched label subrule, made, state =>
    kept.observe (kept.watched label (rule kept named subrule made state))
  | .fault fault, _, state => kept.observe (kept.raised fault state)

/-- Every one of several rules that are made of the materials has the property. -/
theorem rules (kept : property.KeptBy materials.Errors)
    (named : ∀ name state, property Value state (resolve name state)) :
    ∀ subrules : List (Rule ν), Rule.AllMadeOf materials subrules →
      ∀ behaviour ∈ Rule.evaluateAll laps resolve subrules, ∀ state,
        property Value state (behaviour state)
  | [], _, _, member => absurd member List.not_mem_nil
  | first :: rest, made, behaviour, member => by
    rcases List.mem_cons.mp member with rfl | later
    · exact rule kept named first made.1
    · exact rules kept named rest made.2 behaviour later

/-- A derivation that is made of the materials has the property. -/
theorem steps (kept : property.KeptBy materials.Errors)
    (named : ∀ name state, property Value state (resolve name state)) :
    ∀ taken : Steps ν, taken.MadeOf materials → ∀ state,
      property Value state (taken.evaluate laps resolve state)
  | .finish product, _, state => kept.matched product state
  | .apply first next, made, state =>
    kept.andThen (rule kept named first made.1 state)
      fun product here _ => steps kept named (next product) (made.2 product) here
  | .getState next, made, state => steps kept named (next state) (made state) state
  | .remark remark next, made, state => kept.remarkBefore remark (steps kept named next made state)
  | .fault fault, _, state => kept.raised fault state

end

/-- Rules that are made of the materials have the property within any number of unfoldings. -/
theorem unfolded {grammar : Grammar ν} (kept : property.KeptBy materials.Errors)
    (made : ∀ name rule, grammar name = some rule → rule.MadeOf materials) (laps unfoldings : Nat)
    {root : Rule ν} (rootMade : root.MadeOf materials) (state : State) :
    property Value state (grammar.evaluateWithin laps unfoldings root state) := by
  induction unfoldings generalizing root state with
  | zero => exact kept.rule (fun _ here => kept.exhausted here) root rootMade state
  | succ unfoldings inductionHypothesis =>
      refine kept.rule ?_ root rootMade state
      intro name here
      split
      · exact kept.raised _ here
      · next rule found => exact inductionHypothesis (made name rule found) here

/-- Every rule that is made of the materials, as its grammar is, has the property, whatever the
budget. -/
theorem grammar {grammar : Grammar ν} (kept : property.KeptBy materials.Errors)
    (made : ∀ name rule, grammar name = some rule → rule.MadeOf materials) (budget : Budget)
    {root : Rule ν} (rootMade : root.MadeOf materials) (state : State) :
    property Value state (grammar.evaluate budget root state) :=
  kept.unfolded made budget.laps budget.unfoldings rootMade state

end KeptBy

/-- Every rule of every grammar has the property, whatever the budget. -/
theorem Kept.grammar {property : RunProperty} {ν : Type} (kept : property.Kept)
    (grammar : Grammar ν) (budget : Budget) (root : Rule ν) (state : State) :
    property Value state (grammar.evaluate budget root state) := by
  have keptBy : property.KeptBy (Materials.all : Materials ν).Errors := kept
  exact keptBy.grammar (fun _ rule _ => rule.madeOf_all) budget root.madeOf_all state

end RunProperty

end Descent
