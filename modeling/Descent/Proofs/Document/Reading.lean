import Descent.Proofs.Document.Cursor

/-!
# Reading by rules

How the descriptions of `Cursor.Reads` go through the forms of rules: one fact for each form that
the document grammar uses. A repetition is described by what one lap does at every cursor that may
be reached; each lap has to consume something, which is why the laps suffice.
-/

namespace Descent.Document

variable {ν : Type} {laps : Nat} {resolve : ν → Behaviour} {cursor : Cursor}

namespace Cursor.Reads

variable {onMatch onMatch' : Text → Value → Cursor → Prop} {onDecline onDecline' : Prop}
  {onFail onFail' : Text → Cursor → ParseError → Prop}

/-! ## Products -/

/-- A product changed by a call that returns. -/
theorem semantics {subrule : Rule ν} {transform : Value → Call Value}
    (reads : cursor.Reads onMatch onDecline onFail
      (subrule.evaluate laps resolve cursor.state).reply)
    (returns : ∀ consumed product next, onMatch consumed product next →
      ∃ result, (transform product).outcome = .ok result ∧ onMatch' consumed result next) :
    cursor.Reads onMatch' onDecline onFail
      ((Rule.semantics subrule transform).evaluate laps resolve cursor.state).reply := by
  refine reads.andThen ?_
  intro consumed product next passes holds
  obtain ⟨result, outcome, described⟩ := returns consumed product next holds
  simp only [Call.run, outcome]
  exact .here (by simpa using described)

/-- Where a rule never matches, its product is never changed. -/
theorem semantics_unmatched {subrule : Rule ν} {transform : Value → Call Value}
    (reads : cursor.Reads (fun _ _ _ => False) onDecline onFail
      (subrule.evaluate laps resolve cursor.state).reply) :
    cursor.Reads onMatch' onDecline onFail
      ((Rule.semantics subrule transform).evaluate laps resolve cursor.state).reply :=
  reads.semantics fun _ _ _ impossible => impossible.elim

/-- A fixed product. -/
theorem constant {subrule : Rule ν} {product : Value}
    (reads : cursor.Reads (fun consumed _ next => onMatch consumed product next) onDecline onFail
      (subrule.evaluate laps resolve cursor.state).reply) :
    cursor.Reads onMatch onDecline onFail
      ((Rule.constant subrule product).evaluate laps resolve cursor.state).reply :=
  reads.semantics fun _ _ _ holds => ⟨product, rfl, holds⟩

/-- A rule whose product has to be accepted. -/
theorem accepting {subrule : Rule ν} {accepts : Value → Bool}
    (reads : cursor.Reads onMatch onDecline onFail
      (subrule.evaluate laps resolve cursor.state).reply)
    (refused : ∀ consumed product next, onMatch consumed product next →
      accepts product = false → onDecline) :
    cursor.Reads (fun consumed product next => onMatch consumed product next ∧ accepts product)
      onDecline onFail ((Rule.accepting subrule accepts).evaluate laps resolve
        cursor.state).reply := by
  refine reads.andThen ?_
  intro consumed product next passes holds
  show next.Reads _ _ _ ((if accepts product then Rule.yielding product else Rule.never : Rule ν
    ).evaluate laps resolve next.state).reply
  cases accepted : accepts product with
  | true => exact .here ⟨by simpa using holds, accepted⟩
  | false => exact .declined (refused consumed product next holds accepted)

/-! ## Sequences and choices -/

/-- The parts of a sequence, one after the other. -/
theorem parts_cons {subrule : Rule ν} {others : List (Rule ν)}
    {onMatches : Text → List Value → Cursor → Prop}
    (reads : cursor.Reads onMatch onDecline onFail
      (subrule.evaluate laps resolve cursor.state).reply)
    (following : ∀ consumed product next, cursor.Passes consumed next →
      onMatch consumed product next →
      next.Reads (fun more products => onMatches (consumed ++ more) (product :: products))
        onDecline (fun more => onFail (consumed ++ more))
        (Behaviour.parts (Rule.evaluateAll laps resolve others) next.state).reply) :
    cursor.Reads onMatches onDecline onFail
      (Behaviour.parts (Rule.evaluateAll laps resolve (subrule :: others)) cursor.state).reply := by
  refine reads.andThen ?_
  intro consumed product next passes holds
  exact (following consumed product next passes holds).map

/-- Where the first part never matches, the others do not come into it. -/
theorem parts_unmatched {subrule : Rule ν} {others : List (Rule ν)}
    {onMatches : Text → List Value → Cursor → Prop}
    (reads : cursor.Reads (fun _ _ _ => False) onDecline onFail
      (subrule.evaluate laps resolve cursor.state).reply) :
    cursor.Reads onMatches onDecline onFail
      (Behaviour.parts (Rule.evaluateAll laps resolve (subrule :: others)) cursor.state).reply :=
  reads.andThen_unmatched

/-- A sequence of no parts. -/
theorem parts_nil {onMatches : Text → List Value → Cursor → Prop}
    (holds : onMatches [] [] cursor) :
    cursor.Reads onMatches onDecline onFail
      (Behaviour.parts (Rule.evaluateAll laps resolve ([] : List (Rule ν))) cursor.state).reply :=
  .here holds

/-- A sequence, from its parts. -/
theorem sequence {subrules : List (Rule ν)}
    (reads : cursor.Reads (fun consumed products => onMatch consumed (.tuple products)) onDecline
      onFail (Behaviour.parts (Rule.evaluateAll laps resolve subrules) cursor.state).reply) :
    cursor.Reads onMatch onDecline onFail
      ((Rule.sequence subrules).evaluate laps resolve cursor.state).reply :=
  reads.map

/-- A choice between a first rule and the others, which are tried where it declines. -/
theorem choice_cons {subrule : Rule ν} {others : List (Rule ν)}
    (reads : cursor.Reads onMatch onDecline onFail
      (subrule.evaluate laps resolve cursor.state).reply)
    (following : onDecline → cursor.Reads onMatch onDecline' onFail
      ((Rule.choice others).evaluate laps resolve cursor.state).reply) :
    cursor.Reads onMatch onDecline' onFail
      ((Rule.choice (subrule :: others)).evaluate laps resolve cursor.state).reply :=
  reads.orElse following

/-- A choice without alternatives. -/
theorem choice_nil (declines : onDecline) :
    cursor.Reads onMatch onDecline onFail
      ((Rule.choice ([] : List (Rule ν))).evaluate laps resolve cursor.state).reply :=
  .declined declines

/-- An optional rule. -/
theorem optional {subrule : Rule ν} {default : Value}
    (reads : cursor.Reads onMatch onDecline onFail
      (subrule.evaluate laps resolve cursor.state).reply)
    (absent : onDecline → onMatch [] default cursor) :
    cursor.Reads onMatch False onFail
      ((Rule.optional subrule default).evaluate laps resolve cursor.state).reply :=
  reads.orElse fun declines => .here (absent declines)

/-! ## Mandatory parts -/

/-- The error that an expectation is missing at a cursor. -/
theorem exists_expecting (cursor : Cursor) (expectation : Text) :
    ∃ error, ErrorAt.expecting expectation cursor.state = .ok error ∧
      error.state = cursor.state ∧ error.code = .expectationFailed := by
  obtain ⟨span, made⟩ := State.exists_span cursor.pos_nonneg
  refine ⟨.ofDiagnostic (.expectationFailed expectation cursor.state.foundToken span
    (some cursor.state.pos)) cursor.state, ?_, rfl, rfl⟩
  rw [ErrorAt.expecting_of_span made, if_pos cursor.foundIsWritable]

/-- A mandatory rule: where it declines, the error stands at the cursor. -/
theorem failpoint {subrule : Rule ν} {expectation : Text}
    (reads : cursor.Reads onMatch onDecline onFail
      (subrule.evaluate laps resolve cursor.state).reply)
    (missing : onDecline → ∀ error : ParseError, error.code = .expectationFailed →
      onFail [] cursor error) :
    cursor.Reads onMatch False onFail
      ((Rule.failpoint subrule (.expecting expectation)).evaluate laps resolve
        cursor.state).reply := by
  refine reads.orElse fun declines => ?_
  obtain ⟨error, worded, place, code⟩ := exists_expecting cursor expectation
  simp only [Behaviour.fail, worded]
  exact .failed (.refl cursor) place (missing declines error code)

/-! ## Derivations -/

/-- A derivation, from its steps. -/
theorem derivation {steps : Steps ν} {closing : List Remark}
    (reads : cursor.Reads onMatch onDecline onFail
      (steps.evaluate laps resolve cursor.state).reply) :
    cursor.Reads onMatch onDecline onFail
      ((Rule.derivation steps closing).evaluate laps resolve cursor.state).reply :=
  reads

/-- A step that applies a rule, and the steps after it. -/
theorem apply {subrule : Rule ν} {following : Value → Steps ν}
    (reads : cursor.Reads onMatch onDecline onFail
      (subrule.evaluate laps resolve cursor.state).reply)
    (ofMatch : ∀ consumed product next, cursor.Passes consumed next →
      onMatch consumed product next →
      next.Reads (fun more => onMatch' (consumed ++ more)) onDecline
        (fun more => onFail (consumed ++ more))
        ((following product).evaluate laps resolve next.state).reply) :
    cursor.Reads onMatch' onDecline onFail
      ((Steps.apply subrule following).evaluate laps resolve cursor.state).reply :=
  reads.andThen ofMatch

/-- Where the rule of a step never matches, the steps after it are not taken. -/
theorem apply_unmatched {subrule : Rule ν} {following : Value → Steps ν}
    (reads : cursor.Reads (fun _ _ _ => False) onDecline onFail
      (subrule.evaluate laps resolve cursor.state).reply) :
    cursor.Reads onMatch' onDecline onFail
      ((Steps.apply subrule following).evaluate laps resolve cursor.state).reply :=
  reads.andThen_unmatched

/-- The last step. -/
theorem finish {product : Value} (holds : onMatch [] product cursor) :
    cursor.Reads onMatch onDecline onFail
      ((Steps.finish product : Steps ν).evaluate laps resolve cursor.state).reply :=
  .here holds

/-! ## Repetition -/

/-- One lap of a repetition and the laps after it. A lap has to consume something, so there are
never more products than characters. -/
theorem collect_succ {body : Behaviour} {limit : Nat}
    {onMatches : Text → List Value → Cursor → Prop}
    (reads : cursor.Reads onMatch onDecline onFail (body cursor.state).reply)
    (consumes : ∀ consumed product next, onMatch consumed product next → consumed ≠ [])
    (following : ∀ consumed product next, cursor.Passes consumed next →
      onMatch consumed product next →
      next.Reads
        (fun more products last => onMatches (consumed ++ more) (product :: products) last ∧
          products.length ≤ more.length)
        False (fun more => onFail (consumed ++ more))
        (Behaviour.collect body limit next.state).reply)
    (stops : onDecline → onMatches [] [] cursor) :
    cursor.Reads
      (fun consumed products next => onMatches consumed products next ∧
        products.length ≤ consumed.length)
      False onFail (Behaviour.collect body (limit + 1) cursor.state).reply := by
  refine reads.branch ?_ fun declines => .here ⟨stops declines, Nat.le_refl _⟩
  intro consumed product next passes holds
  have longer := List.length_pos_iff.mpr (consumes consumed product next holds)
  rw [passes.not_samePosition (consumes consumed product next holds)]
  refine Cursor.Reads.map ((following consumed product next passes holds).weakenMatch ?_)
  rintro more products last _ ⟨described, counted⟩
  refine ⟨described, ?_⟩
  simp only [List.length_cons, List.length_append]
  omega

/-- A repetition that has no lap. -/
theorem collect_nil {body : Behaviour} {limit : Nat} {onMatches : Text → List Value → Cursor → Prop}
    (reads : cursor.Reads (fun _ _ _ => False) onDecline onFail (body cursor.state).reply)
    (stops : onDecline → onMatches [] [] cursor) :
    cursor.Reads
      (fun consumed products next => onMatches consumed products next ∧
        products.length ≤ consumed.length)
      False onFail (Behaviour.collect body (limit + 1) cursor.state).reply :=
  reads.collect_succ (fun _ _ _ impossible => impossible.elim)
    (fun _ _ _ _ impossible => impossible.elim) stops

/-- An unbounded repetition, from its laps. -/
theorem zeroOrMore {body : Behaviour} (enough : cursor.rest.length < laps)
    (reads : cursor.Reads
      (fun consumed products next => onMatch consumed (.tuple products) next ∧
        products.length ≤ consumed.length)
      False onFail (Behaviour.collect body laps cursor.state).reply) :
    cursor.Reads onMatch False onFail (Behaviour.zeroOrMore laps body cursor.state).reply := by
  refine reads.andThen ?_
  rintro consumed products next passes ⟨described, counted⟩
  have lengths := passes.length
  rw [if_pos (by omega)]
  exact .here (by simpa using described)

end Cursor.Reads

/-- What one lap of a repetition does at the cursors that may be reached, and what that comes to
for all laps together. -/
structure Lap (body : Behaviour) (reachable : Cursor → Prop)
    (onMatch : Cursor → Text → Value → Cursor → Prop) (onDecline : Cursor → Prop)
    (onFail : Cursor → Text → Cursor → ParseError → Prop)
    (onMatches : Cursor → Text → List Value → Cursor → Prop) : Prop where
  reads : ∀ cursor, reachable cursor →
    cursor.Reads (onMatch cursor) (onDecline cursor) (onFail cursor) (body cursor.state).reply
  consumes : ∀ {cursor consumed product next}, onMatch cursor consumed product next →
    consumed ≠ []
  reaches : ∀ {cursor consumed product next}, reachable cursor → cursor.Passes consumed next →
    onMatch cursor consumed product next → reachable next
  stops : ∀ {cursor}, reachable cursor → onDecline cursor → onMatches cursor [] [] cursor
  continues : ∀ {cursor consumed product next more products last},
    cursor.Passes consumed next → onMatch cursor consumed product next →
    next.Passes more last → onMatches next more products last →
    onMatches cursor (consumed ++ more) (product :: products) last
  fails : ∀ {cursor consumed product next more last error},
    onMatch cursor consumed product next → onFail next more last error →
    onFail cursor (consumed ++ more) last error

namespace Lap

variable {body : Behaviour} {reachable : Cursor → Prop}
  {onMatch : Cursor → Text → Value → Cursor → Prop} {onDecline : Cursor → Prop}
  {onFail : Cursor → Text → Cursor → ParseError → Prop}
  {onMatches : Cursor → Text → List Value → Cursor → Prop}

/-- All laps together. They end before the limit is reached, because each consumes something. -/
theorem collect (lap : Lap body reachable onMatch onDecline onFail onMatches) {limit : Nat}
    {cursor : Cursor} (reached : reachable cursor) (enough : cursor.rest.length < limit) :
    cursor.Reads
      (fun consumed products next => onMatches cursor consumed products next ∧
        products.length ≤ consumed.length)
      False (onFail cursor) (Behaviour.collect body limit cursor.state).reply := by
  induction limit generalizing cursor with
  | zero => omega
  | succ limit inductionHypothesis =>
      refine (lap.reads cursor reached).collect_succ (fun _ _ _ => lap.consumes) ?_
        (lap.stops reached)
      intro consumed product next passes holds
      have longer := List.length_pos_iff.mpr (lap.consumes holds)
      have lengths := passes.length
      have further := inductionHypothesis (lap.reaches reached passes holds) (by omega)
      refine further.mono ?_ id ?_
      · rintro more products last furtherPasses ⟨described, counted⟩
        exact ⟨lap.continues passes holds furtherPasses described, counted⟩
      · intro more last error failed
        exact lap.fails holds failed

/-- An unbounded repetition. -/
theorem zeroOrMore (lap : Lap body reachable onMatch onDecline onFail onMatches)
    {cursor : Cursor} (reached : reachable cursor) (enough : cursor.rest.length < laps) :
    cursor.Reads
      (fun consumed product next =>
        ∃ products, product = .tuple products ∧ onMatches cursor consumed products next)
      False (onFail cursor) (Behaviour.zeroOrMore laps body cursor.state).reply := by
  refine Cursor.Reads.zeroOrMore enough ((lap.collect reached enough).weakenMatch ?_)
  rintro consumed products next _ ⟨described, counted⟩
  exact ⟨⟨products, rfl, described⟩, counted⟩

/-- An unbounded repetition that has to match once. -/
theorem oneOrMore (lap : Lap body reachable onMatch onDecline onFail onMatches)
    {cursor : Cursor} (reached : reachable cursor) (enough : cursor.rest.length < laps) :
    cursor.Reads
      (fun consumed product next => ∃ products, product = .tuple products ∧ products ≠ [] ∧
        onMatches cursor consumed products next)
      (∃ consumed next, cursor.Passes consumed next ∧ onMatches cursor consumed [] next)
      (onFail cursor) (Behaviour.oneOrMore laps body cursor.state).reply := by
  refine (lap.collect reached enough).neverDeclines.andThen ?_
  rintro consumed products next passes ⟨described, counted⟩
  have lengths := passes.length
  rw [if_pos (by omega)]
  cases products with
  | nil => exact .declined ⟨consumed, next, passes, described⟩
  | cons first others => exact .here ⟨first :: others, rfl, by simp, by simpa using described⟩

end Lap

end Descent.Document
