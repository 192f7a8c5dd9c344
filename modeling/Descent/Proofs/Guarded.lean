import Descent.Proofs.Chain
import Descent.Rule.Derived

/-!
# Guarded grammars come to an answer

A reference is guarded if it stands behind something that consumes a token: a terminal in front of
it in a sequence, or in a sequence around it. Every unfolding of a name then has fewer tokens ahead
than the one around it, so there are no more unfoldings inside each other than tokens.

Repetitions need no guard. A lap that consumes nothing leaves the state as it was, because nothing
here updates the context, and the repetition fails on it. So there are no more laps than tokens
either, whatever the body matches.

That a state is as it was is seen by comparing it with itself, so all this is about contexts that
equal themselves. A context that is no number does not, and with one a repetition that matches in
place goes on for ever.
-/

namespace Descent

variable {ν : Type}

/-! ## Forms of rules -/

mutual

/-- Whether every match of the rule consumes a token, as that of a terminal does. The laps of a
repetition do so by themselves. -/
def Rule.consumes : Rule ν → Bool
  | .term _ | .oneOrMore _ => true
  | .exactly count _ => 0 < count
  | .semantics subrule _ | .exclude subrule _ | .failpoint subrule _ => subrule.consumes
  | .sequence subrules => Rule.someConsumes subrules
  | .choice subrules => Rule.allConsume subrules
  | .empty | .optional _ _ | .zeroOrMore _ | .reference _ | .bind _ _ | .derivation _ _
  | .escalate _ | .updating _ _ | .watched _ _ | .fault _ => false

/-- Whether one of the rules consumes a token. -/
def Rule.someConsumes : List (Rule ν) → Bool
  | [] => false
  | rule :: rest => rule.consumes || Rule.someConsumes rest

/-- Whether each of the rules consumes a token. -/
def Rule.allConsume : List (Rule ν) → Bool
  | [] => true
  | rule :: rest => rule.consumes && Rule.allConsume rest

end

mutual

/-- References stand only where a token has been consumed. Whether that is so in front of the rule
is given; the parts of a sequence stand behind the ones before them. Rules that look at their state
or change the context are no part of guarded grammars. -/
def Rule.Guarded (behind : Bool) : Rule ν → Prop
  | .term _ | .empty | .escalate _ => True
  | .reference _ => behind
  | .semantics subrule _ | .optional subrule _ | .zeroOrMore subrule | .oneOrMore subrule
  | .exactly _ subrule | .failpoint subrule _ => subrule.Guarded behind
  | .exclude subrule subtrahends => subrule.Guarded behind ∧ Rule.AllGuarded behind subtrahends
  | .sequence subrules => Rule.InOrderGuarded behind subrules
  | .choice subrules => Rule.AllGuarded behind subrules
  | .bind _ _ | .derivation _ _ | .updating _ _ | .watched _ _ | .fault _ => False

/-- The rules are guarded where they all stand at one place. -/
def Rule.AllGuarded (behind : Bool) : List (Rule ν) → Prop
  | [] => True
  | rule :: rest => rule.Guarded behind ∧ Rule.AllGuarded behind rest

/-- The rules are guarded where each stands behind the ones before it. -/
def Rule.InOrderGuarded (behind : Bool) : List (Rule ν) → Prop
  | [] => True
  | rule :: rest => rule.Guarded behind ∧ Rule.InOrderGuarded (behind || rule.consumes) rest

end

/-! ## Moving on -/

namespace State

/-- How many tokens are ahead. -/
def remaining (state : State) : Nat := (state.tokens.size - state.pos).toNat

/-- A state that a rule may reach without updating the context. -/
structure Onward (state next : State) : Prop where
  tokens : next.tokens = state.tokens
  context : next.context = state.context
  maxDigits : next.maxDigits = state.maxDigits
  forward : state.pos ≤ next.pos
  within : next.pos ≤ max state.pos state.tokens.size

/-- A state is no step back from itself. -/
theorem Onward.refl (state : State) : state.Onward state :=
  ⟨rfl, rfl, rfl, Int.le_refl _, Int.le_max_left _ _⟩

/-- What is onward from a state that is onward is onward. -/
theorem Onward.trans {state middle last : State} (first : state.Onward middle)
    (second : middle.Onward last) : state.Onward last where
  tokens := second.tokens.trans first.tokens
  context := second.context.trans first.context
  maxDigits := second.maxDigits.trans first.maxDigits
  forward := Int.le_trans first.forward second.forward
  within := by
    have ofFirst := first.within
    have ofSecond := second.within
    rw [first.tokens] at ofSecond
    omega

/-- No more tokens remain further on. -/
theorem Onward.remaining_le {state next : State} (onward : state.Onward next) :
    next.remaining ≤ state.remaining := by
  have forward := onward.forward
  rw [remaining, remaining, onward.tokens]
  omega

/-- Fewer tokens are ahead at a place further on. -/
theorem Onward.remaining_lt {state next : State} (onward : state.Onward next)
    (moved : state.pos < next.pos) : next.remaining < state.remaining := by
  have within := onward.within
  rw [remaining, remaining, onward.tokens]
  omega

/-- With fewer tokens ahead, the place is further on. -/
theorem Onward.moved_of_remaining_lt {state next : State} (onward : state.Onward next)
    (fewer : next.remaining < state.remaining) : state.pos < next.pos := by
  rw [remaining, remaining, onward.tokens] at fewer
  omega

/-- Without context updates, a state that differs stands further on. -/
theorem Onward.moved {state next : State} (onward : state.Onward next)
    (equal : state.context.same state.context) (differs : ¬ next.samePosition state) :
    state.pos < next.pos := by
  have forward := onward.forward
  rcases Int.lt_or_eq_of_le forward with moved | stays
  · exact moved
  · have stands : next.samePosition state := by
      simp [samePosition, ← stays, onward.context, equal]
    exact absurd stands differs

/-- Places further on, but no further than the end of the tokens, can be named if the first can. -/
theorem Onward.writes {state next : State} (onward : state.Onward next) (nonneg : 0 ≤ state.pos)
    (named : state.writes state.pos) : next.writes next.pos := by
  have forward := onward.forward
  have within := onward.within
  by_cases stays : next.pos ≤ state.pos
  · rw [State.writes, onward.tokens, onward.maxDigits, Int.le_antisymm stays forward]
    exact named
  · rw [← onward.tokens] at within
    exact writes_of_within (by omega) (by omega)

/-- Taking the next token. -/
theorem onward_forward {state : State} (inside : state.atEnd = false) :
    state.Onward (state.forward 1) ∧ state.pos < (state.forward 1).pos := by
  simp only [atEnd, decide_eq_false_iff_not] at inside
  have taken : (state.forward 1).pos = min (state.pos + 1) state.tokens.size := rfl
  refine ⟨⟨rfl, rfl, rfl, ?_, ?_⟩, ?_⟩
  · omega
  · omega
  · omega

/-- There is a next token inside the sequence. -/
theorem exists_current {state : State} (nonneg : 0 ≤ state.pos) (inside : state.atEnd = false) :
    ∃ token, state.current = .ok token := by
  have before : ¬ (state.tokens.size : Int) ≤ state.pos := by simpa [atEnd] using inside
  have place : state.pos.toNat < state.tokens.size := by omega
  obtain ⟨token, found⟩ : ∃ token, state.tokens.get? state.pos.toNat = some token := by
    cases held : state.tokens with
    | text points =>
        rw [held] at place
        have found : points[state.pos.toNat]? = some points[state.pos.toNat] :=
          Array.getElem?_eq_getElem place
        exact ⟨.ofCodePoint points[state.pos.toNat], by rw [Tokens.get?, found, Option.map_some]⟩
    | items values =>
        rw [held] at place
        exact ⟨_, Array.getElem?_eq_getElem place⟩
  have atPlace : ¬ state.pos < 0 := by omega
  exact ⟨token, by simp [current, inside, Tokens.fetch, atPlace, found]⟩

end State

/-! ## Functions that never fault -/

/-- A function of the grammar that never faults. -/
def Call.Total {α β : Type} (function : α → Call β) : Prop :=
  ∀ argument, ∃ result, (function argument).outcome = .ok result

/-- A factory that words an error at every state that is reached from the start. -/
def ErrorAt.Total (start : State) (factory : ErrorAt) : Prop :=
  ∀ ⦃state⦄, start.Onward state → ∃ error, factory state = .ok error

mutual

/-- The functions that the rule calls never fault on the way from the start. -/
def Rule.Total (start : State) : Rule ν → Prop
  | .term test => Call.Total test
  | .semantics subrule transform => subrule.Total start ∧ Call.Total transform
  | .exclude subrule subtrahends => subrule.Total start ∧ Rule.AllTotal start subtrahends
  | .sequence subrules | .choice subrules => Rule.AllTotal start subrules
  | .optional subrule _ | .zeroOrMore subrule | .oneOrMore subrule | .exactly _ subrule =>
    subrule.Total start
  | .failpoint subrule error => subrule.Total start ∧ error.Total start
  | .escalate error => error.Total start
  | .empty | .reference _ | .bind _ _ | .derivation _ _ | .updating _ _ | .watched _ _
  | .fault _ => True

/-- The functions that the rules call never fault on the way from the start. -/
def Rule.AllTotal (start : State) : List (Rule ν) → Prop
  | [] => True
  | rule :: rest => rule.Total start ∧ Rule.AllTotal start rest

end

/-- The usual factory words an error everywhere in tokens that may be written. -/
theorem ErrorAt.total_expecting {start : State} (nonneg : 0 ≤ start.pos)
    (written : start.tokens.areWritable start.maxDigits) (expectation : Text) :
    (ErrorAt.expecting expectation).Total start := by
  intro state onward
  obtain ⟨span, made⟩ := State.exists_span (Int.le_trans nonneg onward.forward)
  rw [← onward.tokens, ← onward.maxDigits] at written
  refine ⟨.ofDiagnostic (.expectationFailed expectation state.foundToken span (some state.pos))
    state, ?_⟩
  rw [expecting_of_span made, if_pos (State.foundIsWritable_of_areWritable written)]

/-! ## Replies that end an evaluation -/

/-- A reply other than a spent budget: a match that is described, a decline or a failure, or a fault
where not all functions are total. -/
inductive Reply.Ends {α : Type} (total : Prop) (onMatch : α → State → Prop) : Reply α → Prop where
  | matched {product : α} {state : State} (holds : onMatch product state) :
      Ends total onMatch (.matched product state)
  | declined : Ends total onMatch .declined
  | failed (error : ParseError) : Ends total onMatch (.failed error)
  | raised (fault : Fault) (isPartial : ¬ total) : Ends total onMatch (.raised fault)

namespace Reply.Ends

variable {α β : Type} {total : Prop} {onMatch : α → State → Prop} {onMatch' : β → State → Prop}

/-- A weaker description of a match. -/
theorem mono {weaker : α → State → Prop} {reply : Reply α} (ends : reply.Ends total onMatch)
    (weakens : ∀ product state, onMatch product state → weaker product state) :
    reply.Ends total weaker := by
  cases ends with
  | matched holds => exact .matched (weakens _ _ holds)
  | declined => exact .declined
  | failed error => exact .failed error
  | raised fault isPartial => exact .raised fault isPartial

/-- A reply with a description is no spent budget … -/
theorem ne_exhausted {reply : Reply α} (ends : reply.Ends total onMatch) : reply ≠ .exhausted := by
  cases ends <;> nofun

/-- … and no fault, if the functions of the rule raise none. -/
theorem ne_raised {reply : Reply α} (ends : reply.Ends total onMatch) (isTotal : total)
    (fault : Fault) : reply ≠ .raised fault := by
  rintro rfl
  cases ends with
  | raised _ isPartial => exact isPartial isTotal

/-- Going on from a run that ends. -/
theorem branch {run : Run α} {afterMatch : α → State → Run β} {afterDecline : Unit → Run β}
    (ends : run.reply.Ends total onMatch)
    (ofMatch : ∀ product next, onMatch product next →
      (afterMatch product next).reply.Ends total onMatch')
    (ofDecline : (afterDecline ()).reply.Ends total onMatch') :
    (run.branch afterMatch afterDecline).reply.Ends total onMatch' := by
  generalize replied : run.reply = reply at ends
  cases ends with
  | matched holds =>
      rw [Run.branch_of_matched replied]
      exact ofMatch _ _ holds
  | declined =>
      rw [Run.branch_of_declined replied]
      exact ofDecline
  | failed error =>
      rw [Run.branch_of_failed replied]
      exact .failed error
  | raised fault isPartial =>
      rw [Run.branch_of_raised replied]
      exact .raised fault isPartial

/-- A call that returns if all functions are total. -/
theorem call {callee : Callee} {state : State} {call : Call α}
    (returns : total → ∃ result, call.outcome = .ok result)
    (holds : ∀ result, onMatch result state) :
    (call.run callee state).reply.Ends total onMatch := by
  unfold Call.run
  cases outcome : call.outcome with
  | ok result => exact .matched (holds result)
  | error fault =>
      refine .raised fault fun isTotal => ?_
      obtain ⟨result, returned⟩ := returns isTotal
      cases outcome.symm.trans returned

/-- A failure, if the error can be worded. -/
theorem fail {origin : FailureOrigin} {error : ErrorAt} {state : State}
    (worded : total → ∃ failure, error state = .ok failure) :
    (Behaviour.fail origin error state : Run α).reply.Ends total onMatch := by
  unfold Behaviour.fail
  cases wording : error state with
  | ok failure => exact .failed failure
  | error fault =>
      refine .raised fault fun isTotal => ?_
      obtain ⟨failure, returned⟩ := worded isTotal
      cases wording.symm.trans returned

/-- The failure of a repetition. -/
theorem stall {state : State} (reportable : total → state.Reportable) :
    (Behaviour.stall state : Run α).reply.Ends total onMatch :=
  fail fun isTotal => Behaviour.exists_stallError_iff.mpr (reportable isTotal)

end Reply.Ends

/-! ## Behaviours that settle -/

namespace Behaviour

variable {total : Prop} {start : State} {bound laps : Nat} {behind consumes : Bool}
  {body : Behaviour}

/-- A behaviour that ends at every state reached from the start that has few enough tokens ahead,
one fewer if it stands behind a consumed token. -/
def Settles {α : Type} (total : Prop) (start : State) (bound : Nat) (behind consumes : Bool)
    (behaviour : State → Run α) : Prop :=
  ∀ ⦃state : State⦄, state.remaining + behind.toNat ≤ bound → start.Onward state →
    (behaviour state).reply.Ends total fun _ next =>
      state.Onward next ∧ (consumes → state.pos < next.pos)

/-- One token. -/
theorem settles_term {test : Value → Call Bool} (nonneg : total → 0 ≤ start.pos)
    (returns : total → Call.Total test) :
    Settles total start bound behind true (term test) := by
  intro state _ reached
  unfold term
  split
  · exact .declined
  · next inside =>
      rw [Bool.not_eq_true] at inside
      split
      · next fault missing =>
          refine .raised fault fun isTotal => ?_
          obtain ⟨token, found⟩ := State.exists_current
            (Int.le_trans (nonneg isTotal) reached.forward) inside
          cases missing.symm.trans found
      · next token _ =>
          have called : (Call.run .test state (test token)).reply.Ends total
              fun _ here => here = state :=
            .call (fun isTotal => returns isTotal token) fun _ => rfl
          refine called.branch ?_ .declined
          rintro passes here rfl
          split
          · obtain ⟨onward, moved⟩ := State.onward_forward inside
            exact .matched ⟨onward, fun _ => moved⟩
          · exact .declined

/-- A context that equals itself, in a run from a place that can be reported. -/
structure Comparable (total : Prop) (start : State) : Prop where
  equal : start.context.same start.context
  nonneg : total → 0 ≤ start.pos
  named : total → start.writes start.pos

/-- A repetition takes at least one token in each lap, whatever its body does. -/
theorem Settles.collect (settles : Settles total start bound behind consumes body)
    (comparable : Comparable total start) (limit : Nat) {state : State}
    (ahead : state.remaining + behind.toNat ≤ bound) (reached : start.Onward state) :
    (collect body limit state).reply.Ends total fun products next =>
      state.Onward next ∧ products.length + next.remaining ≤ state.remaining := by
  induction limit generalizing state with
  | zero => exact .matched ⟨.refl state, by simp⟩
  | succ limit inductionHypothesis =>
      refine (settles ahead reached).branch ?_ (.matched ⟨.refl state, by simp⟩)
      rintro product middle ⟨onward, -⟩
      split
      · refine .stall fun isTotal => ?_
        have nonneg := comparable.nonneg isTotal
        exact ⟨reached.writes nonneg (comparable.named isTotal),
          .inl (Int.le_trans nonneg reached.forward)⟩
      · next differs =>
          have equal : state.context.same state.context := by
            rw [reached.context]
            exact comparable.equal
          have shorter := onward.remaining_lt (onward.moved equal differs)
          have aheadOfMiddle : middle.remaining + behind.toNat ≤ bound := by omega
          have others := inductionHypothesis aheadOfMiddle (reached.trans onward)
          refine others.branch ?_ .declined
          rintro products last ⟨further, fewer⟩
          refine .matched ⟨onward.trans further, ?_⟩
          rw [List.length_cons]
          omega

/-- A repetition settles in as many laps as tokens remain: every lap takes one, or it stalls. -/
theorem Settles.zeroOrMore (settles : Settles total start bound behind consumes body)
    (comparable : Comparable total start) (enough : bound < laps) :
    Settles total start bound behind false (zeroOrMore laps body) := by
  intro state ahead reached
  refine (settles.collect comparable laps ahead reached).branch ?_ .declined
  rintro products next ⟨onward, fewer⟩
  rw [if_pos (by omega)]
  exact .matched ⟨onward, nofun⟩

/-- So does one of at least one lap … -/
theorem Settles.oneOrMore (settles : Settles total start bound behind consumes body)
    (comparable : Comparable total start) (enough : bound < laps) :
    Settles total start bound behind true (oneOrMore laps body) := by
  intro state ahead reached
  refine (settles.collect comparable laps ahead reached).branch ?_ .declined
  rintro products next ⟨onward, fewer⟩
  rw [if_pos (by omega)]
  split
  · exact .declined
  · next nonempty =>
      have counted := List.length_pos_iff.mpr (mt List.isEmpty_iff.mpr nonempty)
      exact .matched ⟨onward, fun _ => onward.moved_of_remaining_lt (by omega)⟩

/-- … and one of a fixed number of laps. -/
theorem Settles.exactly (settles : Settles total start bound behind consumes body)
    (comparable : Comparable total start) (count : Int) :
    Settles total start bound behind (0 < count) (exactly count body) := by
  intro state ahead reached
  refine (settles.collect comparable count.toNat ahead reached).branch ?_ .declined
  rintro products next ⟨onward, fewer⟩
  split
  · exact .declined
  · next all =>
      refine .matched ⟨onward, fun positive => onward.moved_of_remaining_lt ?_⟩
      have counted : 0 < count := of_decide_eq_true positive
      omega

/-- What may be missing need not consume anything. -/
theorem Settles.optional (settles : Settles total start bound behind consumes body)
    (default : Value) :
    Settles total start bound behind false (optional body default) := by
  intro state ahead reached
  refine (settles ahead reached).branch ?_ (.matched ⟨.refl state, nofun⟩)
  rintro product next ⟨onward, -⟩
  exact .matched ⟨onward, nofun⟩

/-- A transform that returns settles. -/
theorem Settles.semantics (settles : Settles total start bound behind consumes body)
    {transform : Value → Call Value} (returns : total → Call.Total transform) :
    Settles total start bound behind consumes (semantics body transform) := by
  intro state ahead reached
  refine (settles ahead reached).branch ?_ .declined
  intro product next described
  exact .call (fun isTotal => returns isTotal product) fun _ => described

/-- A mandatory part settles as the part does. -/
theorem Settles.failpoint (settles : Settles total start bound behind consumes body)
    {error : ErrorAt}
    (worded : total → error.Total start) :
    Settles total start bound behind consumes (failpoint body error) := by
  intro state ahead reached
  refine (settles ahead reached).branch (fun _ _ described => .matched described) ?_
  exact .fail fun isTotal => worded isTotal reached

/-- A subtrahend that has to decline. -/
theorem Settles.exclude {subtrahend : Behaviour} {subtrahends : List Behaviour} {moves : Bool}
    (ofSubtrahend : Settles total start bound behind moves subtrahend)
    (others : Settles total start bound behind consumes (exclude body subtrahends)) :
    Settles total start bound behind consumes (exclude body (subtrahend :: subtrahends)) := by
  intro state ahead reached
  exact (ofSubtrahend ahead reached).branch (fun _ _ _ => .declined) (others ahead reached)

/-- An alternative in front of others. -/
theorem Settles.choice {alternatives : List Behaviour} {moves : Bool}
    (settles : Settles total start bound behind consumes body)
    (others : Settles total start bound behind moves (choice alternatives)) :
    Settles total start bound behind (consumes && moves) (choice (body :: alternatives)) := by
  intro state ahead reached
  refine (settles ahead reached).branch ?_ ((others ahead reached).mono ?_)
  · rintro product next ⟨onward, moved⟩
    exact .matched ⟨onward, fun both => moved (Bool.and_eq_true_iff.mp both).1⟩
  · rintro product next ⟨onward, moved⟩
    exact ⟨onward, fun both => moved (Bool.and_eq_true_iff.mp both).2⟩

/-- Behind a part that consumes a token there are fewer ahead. -/
theorem Settles.parts {others : List Behaviour} {moves : Bool}
    (settles : Settles total start bound behind consumes body)
    (ofOthers : Settles total start bound (behind || consumes) moves (parts others)) :
    Settles total start bound behind (consumes || moves) (parts (body :: others)) := by
  intro state ahead reached
  refine (settles ahead reached).branch ?_ .declined
  rintro product middle ⟨onward, moved⟩
  have aheadOfOthers : middle.remaining + (behind || consumes).toNat ≤ bound := by
    cases consumes with
    | false =>
        have fewer := onward.remaining_le
        rw [Bool.or_false]
        omega
    | true =>
        have fewer := onward.remaining_lt (moved rfl)
        rw [Bool.or_true, Bool.toNat_true]
        omega
  have following := ofOthers aheadOfOthers (reached.trans onward)
  refine following.branch ?_ .declined
  rintro products next ⟨further, movedOn⟩
  refine .matched ⟨onward.trans further, fun either => ?_⟩
  rcases Bool.or_eq_true_iff.mp either with first | other
  · exact Int.lt_of_lt_of_le (moved first) further.forward
  · exact Int.lt_of_le_of_lt onward.forward (movedOn other)

/-- A sequence, from its parts. -/
theorem Settles.sequence {subrules : List Behaviour}
    (settles : Settles total start bound behind consumes (Behaviour.parts subrules)) :
    Settles total start bound behind consumes (sequence subrules) := by
  intro state ahead reached
  exact (settles ahead reached).branch (fun _ _ described => .matched described) .declined

end Behaviour

/-! ## Rules and grammars -/

section Rules

variable {total : Prop} {start : State} {bound laps : Nat} {resolve : ν → Behaviour}

mutual

/-- A guarded rule settles if its names do so with one token fewer ahead, and if there are more laps
than tokens. -/
theorem Rule.settles
    (named : ∀ name, Behaviour.Settles total start bound true false (resolve name))
    (comparable : Behaviour.Comparable total start) (enough : bound < laps) :
    ∀ (rule : Rule ν) {behind : Bool}, rule.Guarded behind → (total → rule.Total start) →
      Behaviour.Settles total start bound behind rule.consumes (rule.evaluate laps resolve)
  | .term _, _, _, functions => Behaviour.settles_term comparable.nonneg functions
  | .empty, _, _, _ => fun state _ _ => .matched ⟨.refl state, nofun⟩
  | .semantics subrule _, _, guarded, functions =>
    (Rule.settles named comparable enough subrule guarded
      (fun isTotal => (functions isTotal).1)).semantics fun isTotal => (functions isTotal).2
  | .exclude subrule subtrahends, _, guarded, functions =>
    Rule.settles_exclude named comparable enough subtrahends guarded.2
      (fun isTotal => (functions isTotal).2)
      (Rule.settles named comparable enough subrule guarded.1 fun isTotal => (functions isTotal).1)
  | .sequence subrules, _, guarded, functions =>
    (Rule.settles_parts named comparable enough subrules guarded functions).sequence
  | .choice subrules, _, guarded, functions =>
    Rule.settles_choice named comparable enough subrules guarded functions
  | .optional subrule default, _, guarded, functions =>
    (Rule.settles named comparable enough subrule guarded functions).optional default
  | .zeroOrMore subrule, _, guarded, functions =>
    (Rule.settles named comparable enough subrule guarded functions).zeroOrMore comparable enough
  | .oneOrMore subrule, _, guarded, functions =>
    (Rule.settles named comparable enough subrule guarded functions).oneOrMore comparable enough
  | .exactly count subrule, _, guarded, functions =>
    (Rule.settles named comparable enough subrule guarded functions).exactly comparable count
  | .reference name, true, _, _ => named name
  | .reference _, false, guarded, _ => absurd guarded Bool.false_ne_true
  | .failpoint subrule _, _, guarded, functions =>
    (Rule.settles named comparable enough subrule guarded
      (fun isTotal => (functions isTotal).1)).failpoint fun isTotal => (functions isTotal).2
  | .escalate _, _, _, functions => fun _ _ reached =>
    .fail fun isTotal => functions isTotal reached

/-- What is left when guarded rules are excluded. -/
theorem Rule.settles_exclude
    (named : ∀ name, Behaviour.Settles total start bound true false (resolve name))
    (comparable : Behaviour.Comparable total start) (enough : bound < laps) {body : Behaviour}
    {consumes : Bool} :
    ∀ (rules : List (Rule ν)) {behind : Bool}, Rule.AllGuarded behind rules →
      (total → Rule.AllTotal start rules) →
      Behaviour.Settles total start bound behind consumes body →
      Behaviour.Settles total start bound behind consumes
        (Behaviour.exclude body (Rule.evaluateAll laps resolve rules))
  | [], _, _, _, ofBody => ofBody
  | rule :: rest, _, guarded, functions, ofBody =>
    (Rule.settles named comparable enough rule guarded.1
      (fun isTotal => (functions isTotal).1)).exclude
      (Rule.settles_exclude named comparable enough rest guarded.2
        (fun isTotal => (functions isTotal).2) ofBody)

/-- Guarded alternatives. -/
theorem Rule.settles_choice
    (named : ∀ name, Behaviour.Settles total start bound true false (resolve name))
    (comparable : Behaviour.Comparable total start) (enough : bound < laps) :
    ∀ (rules : List (Rule ν)) {behind : Bool}, Rule.AllGuarded behind rules →
      (total → Rule.AllTotal start rules) →
      Behaviour.Settles total start bound behind (Rule.allConsume rules)
        (Behaviour.choice (Rule.evaluateAll laps resolve rules))
  | [], _, _, _ => fun _ _ _ => .declined
  | rule :: rest, _, guarded, functions =>
    (Rule.settles named comparable enough rule guarded.1
      (fun isTotal => (functions isTotal).1)).choice
      (Rule.settles_choice named comparable enough rest guarded.2 fun isTotal =>
        (functions isTotal).2)

/-- The parts of a guarded sequence, each behind the ones before it. -/
theorem Rule.settles_parts
    (named : ∀ name, Behaviour.Settles total start bound true false (resolve name))
    (comparable : Behaviour.Comparable total start) (enough : bound < laps) :
    ∀ (rules : List (Rule ν)) {behind : Bool}, Rule.InOrderGuarded behind rules →
      (total → Rule.AllTotal start rules) →
      Behaviour.Settles total start bound behind (Rule.someConsumes rules)
        (Behaviour.parts (Rule.evaluateAll laps resolve rules))
  | [], _, _, _ => fun state _ _ => .matched ⟨.refl state, nofun⟩
  | rule :: rest, _, guarded, functions =>
    (Rule.settles named comparable enough rule guarded.1
      (fun isTotal => (functions isTotal).1)).parts
      (Rule.settles_parts named comparable enough rest guarded.2 fun isTotal =>
        (functions isTotal).2)

end

end Rules

namespace Grammar

variable {rules : ν → Rule ν}

/-- Names that are unfolded as many levels deep as there are tokens ahead. A name is unfolded only
behind a consumed token, so that one level fewer is enough for it. -/
theorem settles_evaluateWithin (guarded : ∀ name, (rules name).Guarded false) {total : Prop}
    {start : State} (functions : total → ∀ name, (rules name).Total start)
    (comparable : Behaviour.Comparable total start) {laps unfoldings : Nat}
    (enough : unfoldings < laps) (name : ν) :
    Behaviour.Settles total start unfoldings false (rules name).consumes
      (evaluateWithin (fun name => some (rules name)) laps unfoldings (rules name)) := by
  induction unfoldings generalizing name with
  | zero =>
      apply Rule.settles _ comparable enough (rules name) (guarded name) fun isTotal =>
        functions isTotal name
      intro name state ahead _
      exact absurd ahead (by simp)
  | succ unfoldings inductionHypothesis =>
      apply Rule.settles _ comparable enough (rules name) (guarded name) fun isTotal =>
        functions isTotal name
      intro name state ahead reached
      have fewer : state.remaining + false.toNat ≤ unfoldings := by simpa using ahead
      refine (inductionHypothesis (by omega) name fewer reached).mono ?_
      rintro product next ⟨onward, -⟩
      exact ⟨onward, nofun⟩

/-- A guarded grammar comes to an answer on every input whose context equals itself: names are
unfolded no deeper than there are tokens ahead, a repetition takes no more laps than that, and no
larger budget changes anything. If all functions of the grammar are total on the way from the start,
which is not before the tokens and can be named, the answer is a match, a decline or a failure. -/
theorem guarded_terminates (rules : ν → Rule ν) (guarded : ∀ name, (rules name).Guarded false)
    (name : ν) (state : State) (equal : state.context.same state.context) :
    let grammar : Grammar ν := fun name => some (rules name)
    let budget : Budget := ⟨state.remaining, state.remaining + 1⟩
    let run := grammar.evaluate budget (rules name) state
    run.reply ≠ .exhausted ∧
      (∀ larger, budget ≤ larger → grammar.evaluate larger (rules name) state = run) ∧
      ((∀ name, (rules name).Total state) → 0 ≤ state.pos → state.writes state.pos →
        ∀ fault, run.reply ≠ .raised fault) := by
  intro grammar budget run
  let total : Prop := (∀ name, (rules name).Total state) ∧ 0 ≤ state.pos ∧ state.writes state.pos
  have comparable : Behaviour.Comparable total state :=
    ⟨equal, fun isTotal => isTotal.2.1, fun isTotal => isTotal.2.2⟩
  have settles : run.reply.Ends total
      fun _ next => state.Onward next ∧ ((rules name).consumes → state.pos < next.pos) :=
    settles_evaluateWithin guarded And.left comparable (Nat.lt_succ_self _) name (by simp)
      (.refl state)
  have finished : run.reply ≠ .exhausted := settles.ne_exhausted
  refine ⟨finished, fun larger le => evaluate_of_le le finished, ?_⟩
  intro functions nonneg named fault
  exact settles.ne_raised ⟨functions, nonneg, named⟩ fault

end Grammar

/-- Brackets around any number of groups, where each group may be missing. The repetition could go
on for ever without taking a token, and the grammar comes to an answer all the same. -/
theorem guarded_terminates_missing_groups :
    let groups : Rule Unit := .choice
      [.sequence [.literal (.str (text "(")), .zeroOrMore (.optional (.reference ()) .none),
        .failpoint (.literal (.str (text ")"))) (.expecting (text "a bracket"))],
      .literal (.str (text "x"))]
    let state : State := { tokens := .ofText (text "((x)x") }
    let run := Grammar.evaluate (fun _ => some groups) ⟨5, 6⟩ groups state
    (groups.Guarded false ∧ groups.Total state ∧ state.context.same state.context) ∧
      run.reply ≠ .exhausted ∧ ∀ fault, run.reply ≠ .raised fault := by
  intro groups state run
  have guarded : groups.Guarded false := ⟨⟨trivial, rfl, trivial, trivial⟩, trivial, trivial⟩
  have functions : groups.Total state :=
    ⟨⟨fun _ => ⟨_, rfl⟩, trivial,
      ⟨fun _ => ⟨_, rfl⟩, ErrorAt.total_expecting (Int.le_refl 0) rfl _⟩, trivial⟩,
      fun _ => ⟨_, rfl⟩, trivial⟩
  have equal : state.context.same state.context := by
    rw [Value.same]
  obtain ⟨finished, -, unfaulted⟩ :=
    Grammar.guarded_terminates (fun _ => groups) (fun _ => guarded) () state equal
  exact ⟨⟨guarded, functions, equal⟩, finished,
    unfaulted (fun _ => functions) (Int.le_refl 0) rfl⟩

/-- Matches in place form a chain of any length if the context does not equal itself. -/
theorem Chain.replicate {body : Behaviour} {state : State} {product : Value}
    (matched : body.Replies state (.matched product state))
    (differs : state.context.same state.context = false) (length : Nat) :
    Chain body.Replies state (List.replicate length product) state := by
  have moved : state.samePosition state = false := by
    rw [State.samePosition, differs, Bool.and_false]
  induction length with
  | zero => exact .nil state
  | succ length inductionHypothesis => exact .cons matched moved inductionHypothesis

/-- Such matches use up all the laps of a repetition. -/
theorem Behaviour.exhausted_of_not_same {body : Behaviour} {state : State} {product : Value}
    (matched : body.Replies state (.matched product state))
    (differs : state.context.same state.context = false) (laps : Nat) :
    (zeroOrMore laps body state).reply = .exhausted := by
  have spent := reply_of_chain (Chain.replicate matched differs laps) fun products next =>
    if products.length < laps then .matched (.tuple products) next else .exhausted
  rw [List.length_replicate, if_neg (Nat.lt_irrefl laps)] at spent
  exact spent

/-- A match in place, repeated with a context that is no number: there are no references, no
functions that could fault and no updates, and no budget is large enough. -/
theorem guarded_exhausted_nan :
    let blanks : Rule Unit := .zeroOrMore .empty
    let state : State := { tokens := .ofText (text "a"), context := .float .nan }
    blanks.Guarded false ∧ blanks.Total state ∧ 0 ≤ state.pos ∧ state.writes state.pos ∧
      ∀ budget, (Grammar.evaluate (fun _ => some blanks) budget blanks state).reply =
        .exhausted := by
  intro blanks state
  refine ⟨trivial, trivial, Int.le_refl 0, rfl, fun budget => ?_⟩
  have differs : state.context.same state.context = false := by
    rw [Value.same, Binary64.same_self]
    rfl
  have spent : ∀ resolve : Unit → Behaviour,
      (blanks.evaluate budget.laps resolve state).reply = .exhausted := by
    intro resolve
    show (Behaviour.zeroOrMore budget.laps (Rule.empty.evaluate budget.laps resolve)
      state).reply = _
    exact Behaviour.exhausted_of_not_same rfl differs budget.laps
  unfold Grammar.evaluate
  cases budget.unfoldings <;> exact spent _

end Descent
