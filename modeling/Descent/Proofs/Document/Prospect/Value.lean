import Descent.Proofs.Document.Prospect.Leaf

/-!
# Following values

The rules for containers and values are followed from what is open where they are applied to what
is open where they have matched. Containers are described for any rule of members; unfolding the
grammar often enough then gives the description to the value rule itself.

A rule that declines says what is not ahead. Where it is mandatory, that leaves no way on, so the
place of every expectation that is not met is stuck.
-/

namespace Descent.Document

variable {ν : Type} {laps : Nat} {resolve : ν → Behaviour} {cursor next : Cursor}
  {stack after rest : List Pending}

/-! ## Containers -/

/-- A cursor at a depth, without white space ahead, where a stack is open. -/
structure Cursor.Faces (laps : Nat) (cursor : Cursor) (depth : Int) (stack : List Pending) :
    Prop where
  depth : cursor.depth = depth
  enough : cursor.rest.length < laps
  bare : skipBlanks cursor.rest = cursor.rest
  awaits : cursor.Awaits stack

/-- Behind a structural character. -/
theorem Awaits.faces {character : Char} {consumed : Text} {depth : Int}
    (awaits : cursor.Awaits (.blanks :: stack)) (passes : cursor.Passes consumed next)
    (crosses : cursor.Crosses character consumed next)
    (visible : (CodePoint.ofChar character).isBlank = false)
    (steps : advance stack (CodePoint.ofChar character) = some (.blanks :: after))
    (enough : cursor.rest.length < laps) (deep : next.depth = depth) :
    next.Faces laps depth after := by
  obtain ⟨reached, bare⟩ := awaits.offers.cross passes crosses visible steps
  have shorter := passes.length
  exact ⟨deep, by omega, bare, reached.of_blanks bare⟩

/-- A mandatory separator. -/
theorem reads_separator_awaits {character : Char} {expectation : Text}
    (visible : (CodePoint.ofChar character).isBlank = false)
    (awaits : cursor.Awaits (.blanks :: .mark (CodePoint.ofChar character) :: .blanks :: rest))
    (enough : cursor.rest.length < laps) :
    cursor.Reads (fun _ _ next => next.Faces laps cursor.depth rest) False Misses
      ((Rule.failpoint (separator character) (.expecting expectation) : Rule ν).evaluate laps
        resolve cursor.state).reply := by
  refine Cursor.Reads.failpoint ((reads_separator visible enough).neverFails.weakenMatch ?_) ?_
  · rintro _ _ next passes ⟨crosses, deep⟩
    exact awaits.faces passes crosses visible (advance_of_step step_mark) enough deep
  · intro absent _ _ _
    refine awaits.stuck_blanks fun wrong head => advance_of_lacks rfl (step_mark_of_ne ?_)
    rwa [head, ne_eq, Option.some.injEq] at absent

/-- The bracket that closes a container is mandatory. -/
theorem reads_closing_awaits {container : Container} {part : Pending} {expectation : Text}
    {product : Value} {depth : Int} (isSome : product ≠ .none)
    (awaits : cursor.Awaits (.blanks :: part :: .blanks :: rest))
    (steps : part.step (CodePoint.ofChar container.closer) = some [])
    (unclosed : (skipBlanks cursor.rest).head? ≠ some (CodePoint.ofChar container.closer) →
      Stuck cursor.before cursor.rest)
    (deep : cursor.depth = depth + 1) (enough : cursor.rest.length < laps) :
    cursor.Reads (Reaches (.blanks :: rest) depth)
      False Misses
      ((Steps.apply (.failpoint (bracket container.closer (-1)) (.expecting expectation)) fun _ =>
        .finish product : Steps ν).evaluate laps resolve cursor.state).reply := by
  have visible := container.isBlank_closer
  have closes : cursor.Reads (fun _ _ next => next.Awaits (.blanks :: rest) ∧ next.depth = depth)
      False Misses
      ((Rule.failpoint (bracket container.closer (-1)) (.expecting expectation) : Rule ν).evaluate
        laps resolve cursor.state).reply := by
    refine Cursor.Reads.failpoint ((reads_bracket visible enough).neverFails.weakenMatch ?_)
      fun absent _ _ _ => unclosed absent
    rintro _ _ next passes ⟨crosses, nextDepth⟩
    exact ⟨(awaits.offers.cross passes crosses visible (advance_of_step steps)).1, by omega⟩
  refine closes.neverDeclines.apply ?_
  rintro _ _ next - reached
  exact .finish ⟨isSome, reached⟩

/-- Commas and the members behind them, as far as they go. -/
theorem lap_others_awaits {container : Container} {steps : Steps ν} {depth : Int}
    (reads : ∀ inner : Cursor, inner.Faces laps depth
        (Pending.member container ++ .blanks :: .others container :: rest) →
      inner.Reads (fun _ _ next => next.Awaits (.blanks :: .others container :: rest) ∧
        next.depth = depth) False Misses (steps.evaluate laps resolve inner.state).reply) :
    Lap ((Rule.derivation (.apply (separator ',') fun _ => steps) []).evaluate laps resolve)
      (fun cursor => cursor.Awaits (.blanks :: .others container :: rest) ∧
        cursor.depth = depth ∧ cursor.rest.length < laps)
      (fun _ consumed _ next => consumed ≠ [] ∧
        next.Awaits (.blanks :: .others container :: rest) ∧ next.depth = depth)
      (fun cursor => (skipBlanks cursor.rest).head? ≠ some (CodePoint.ofChar ','))
      (fun _ => Misses)
      (fun _ _ _ next => next.Awaits (.blanks :: .others container :: rest) ∧
        next.depth = depth ∧ (skipBlanks next.rest).head? ≠ some (CodePoint.ofChar ',')) where
  reads := by
    rintro cursor ⟨awaits, deep, enough⟩
    refine Cursor.Reads.derivation
      (Cursor.Reads.apply (reads_separator (by decide) enough).neverFails ?_)
    rintro consumed _ inner passes ⟨crosses, innerDepth⟩
    have faces := awaits.faces passes crosses (by decide) advance_comma enough
      (innerDepth.trans deep)
    obtain ⟨margin, rfl⟩ := crosses.margin
    refine (reads inner faces).neverDeclines.weakenMatch ?_
    rintro more _ next _ reached
    exact ⟨by simp [Margin.around], reached⟩
  consumes := And.left
  reaches := by
    rintro cursor consumed _ next ⟨-, -, enough⟩ passes ⟨-, reached, deep⟩
    have shorter := passes.length
    exact ⟨reached, deep, by omega⟩
  stops := fun reached lacks => ⟨reached.1, reached.2.1, lacks⟩
  continues := fun _ _ _ holds => holds
  fails := fun _ holds => holds

/-- A container, from what is known of its members. -/
theorem reads_container_awaits {limits : Limits} {kind : RecordKind} {first : Rule ν}
    {steps : Steps ν} {expectation : Text} (container : Container) (absent : Text → Prop)
    (offers : cursor.Offers (.value :: .blanks :: rest))
    (bare : skipBlanks cursor.rest = cursor.rest) (enough : cursor.rest.length < laps)
    (readsFirst : cursor.depth + 1 ≤ limits.maxDepth → ∀ inner : Cursor,
      inner.Faces laps (cursor.depth + 1) (.members container :: .blanks :: rest) →
      inner.Reads (Reaches (.blanks :: .others container :: .blanks :: rest) (cursor.depth + 1))
        (absent inner.rest) Misses (first.evaluate laps resolve inner.state).reply)
    (readsOthers : cursor.depth + 1 ≤ limits.maxDepth → ∀ inner : Cursor,
      inner.Faces laps (cursor.depth + 1)
        (Pending.member container ++ .blanks :: .others container :: .blanks :: rest) →
      inner.Reads
        (fun _ _ next => next.Awaits (.blanks :: .others container :: .blanks :: rest) ∧
          next.depth = cursor.depth + 1)
        False Misses (steps.evaluate laps resolve inner.state).reply)
    (unclosed : ∀ {before ahead : Text},
      Document.Awaits before ahead (.members container :: .blanks :: rest) → absent ahead →
      ahead.head? ≠ some (CodePoint.ofChar container.closer) → Stuck before ahead) :
    cursor.Reads (Reaches (.blanks :: rest) cursor.depth)
      (cursor.rest.head? ≠ some (CodePoint.ofChar container.opener)) Misses
      ((Rule.derivation (.apply (bracket container.opener 1) fun _ =>
        withinDepth limits (members first
          (.derivation (.apply (separator ',') fun _ => steps) []) fun items =>
            .apply (.failpoint (bracket container.closer (-1)) (.expecting expectation)) fun _ =>
              .finish (.record kind [.tuple items]))) []).evaluate laps resolve
                cursor.state).reply := by
  have visible := container.isBlank_opener
  refine Cursor.Reads.derivation (Cursor.Reads.apply
    ((reads_bracket visible enough).weakenDecline (by rw [bare]; exact id)).neverFails ?_)
  rintro _ _ inner passes ⟨crosses, innerDepth⟩
  obtain ⟨opened, innerBare⟩ := (offers.blanks bare).cross passes crosses visible advance_opener
  have innerShorter := passes.length
  have faces : inner.Faces laps (cursor.depth + 1) (.members container :: .blanks :: rest) :=
    ⟨innerDepth, by omega, innerBare, opened.of_blanks innerBare⟩
  refine reads_withinDepth (fun _ error code _ other => ?_) fun within => ?_
  · rw [code] at other
    cases other
  rw [innerDepth] at within
  refine reads_members (readsFirst within inner faces) (fun _ _ _ => And.left) ?_ ?_
  · intro lacks
    refine (reads_closing_awaits (by simp) opened step_members_closer ?_ innerDepth
      faces.enough).neverDeclines
    rw [innerBare]
    exact unclosed faces.awaits lacks
  · rintro _ _ second secondPasses ⟨-, reached, secondDepth⟩
    have secondShorter := secondPasses.length
    have secondEnough : second.rest.length < laps := by omega
    refine Cursor.Reads.apply ((lap_others_awaits (readsOthers within)).zeroOrMore
      ⟨reached, secondDepth, secondEnough⟩ secondEnough).neverDeclines ?_
    rintro _ _ third thirdPasses ⟨products, rfl, thirdReached, thirdDepth, noComma⟩
    have thirdShorter := thirdPasses.length
    refine (reads_closing_awaits (by simp) thirdReached step_others_closer ?_ thirdDepth
      (by omega)).neverDeclines
    intro noCloser
    refine thirdReached.stuck_blanks fun wrong head => advance_of_lacks rfl ?_
    rw [head, ne_eq, Option.some.injEq] at noComma noCloser
    exact (if_neg noComma).trans (if_neg noCloser)

/-! ## Values -/

/-- A behaviour that goes on with a value wherever one may come, and that declines only where none
begins. -/
def Proceeds (laps : Nat) (depth : Int) (body : Behaviour) : Prop :=
  ∀ (cursor : Cursor) (rest : List Pending), cursor.depth = depth → cursor.rest.length < laps →
    skipBlanks cursor.rest = cursor.rest → cursor.Offers (.value :: .blanks :: rest) →
    cursor.Reads (Reaches (.blanks :: rest) depth)
      (ValueAbsent cursor.rest) Misses (body cursor.state).reply

/-- A mandatory value. -/
theorem Proceeds.mandatory {rule : Rule ν} {depth : Int}
    (proceeds : Proceeds laps depth (rule.evaluate laps resolve))
    (faces : cursor.Faces laps depth (.value :: .blanks :: rest)) (expectation : Text) :
    cursor.Reads (Reaches (.blanks :: rest) depth)
      False Misses
      ((Rule.failpoint rule (.expecting expectation)).evaluate laps resolve cursor.state).reply :=
  (proceeds cursor rest faces.depth faces.enough faces.bare faces.awaits.offers).failpoint
    fun absent _ _ _ => faces.awaits.stuck_of_absent absent

theorem reads_array_awaits {limits : Limits} {self : Rule ν}
    (proceeds : cursor.depth + 1 ≤ limits.maxDepth →
      Proceeds laps (cursor.depth + 1) (self.evaluate laps resolve))
    (offers : cursor.Offers (.value :: .blanks :: rest))
    (bare : skipBlanks cursor.rest = cursor.rest) (enough : cursor.rest.length < laps) :
    cursor.Reads (Reaches (.blanks :: rest) cursor.depth)
      (cursor.rest.head? ≠ some (CodePoint.ofChar '[')) Misses
      ((array limits self).evaluate laps resolve cursor.state).reply := by
  refine reads_container_awaits .array ValueAbsent offers bare enough
    (fun within inner faces => ?_) (fun within inner faces => ?_) ?_
  · refine proceeds within inner _ faces.depth faces.enough faces.bare
      (faces.awaits.offers.restrict fun point next head steps => ?_)
    rw [advance_members_array, steps]
    rintro rfl
    cases steps
  · refine ((proceeds within).mandatory faces _).apply ?_
    rintro _ _ next - ⟨-, reached⟩
    exact .finish reached
  · intro before ahead awaits absent noCloser
    refine (awaits.congr fun point head => advance_members_array ?_).stuck_of_absent absent
    rintro rfl
    exact noCloser head

/-- A key, and then the colon and the value that have to follow it. -/
theorem reads_entrySteps_awaits {key self : Rule ν} {depth : Int} {onDecline : Prop}
    (readsKey : cursor.Reads
      (fun _ _ next => next.Awaits (.blanks :: .mark (CodePoint.ofChar ':') :: .blanks :: .value ::
        .blanks :: rest) ∧ next.depth = depth)
      onDecline Misses (key.evaluate laps resolve cursor.state).reply)
    (proceeds : Proceeds laps depth (self.evaluate laps resolve))
    (enough : cursor.rest.length < laps) :
    cursor.Reads (Reaches (.blanks :: rest) depth)
      onDecline Misses ((entrySteps key self).evaluate laps resolve cursor.state).reply := by
  refine readsKey.apply ?_
  rintro _ name first passes ⟨reached, rfl⟩
  have shorter := passes.length
  refine (reads_separator_awaits (by decide) reached (by omega)).neverDeclines.apply ?_
  rintro _ _ second - faces
  refine (proceeds.mandatory faces _).neverDeclines.apply ?_
  rintro _ item third - ⟨-, ended⟩
  exact .finish ⟨by simp, ended⟩

theorem reads_object_awaits {limits : Limits} {self : Rule ν}
    (proceeds : cursor.depth + 1 ≤ limits.maxDepth →
      Proceeds laps (cursor.depth + 1) (self.evaluate laps resolve))
    (offers : cursor.Offers (.value :: .blanks :: rest))
    (bare : skipBlanks cursor.rest = cursor.rest) (enough : cursor.rest.length < laps) :
    cursor.Reads (Reaches (.blanks :: rest) cursor.depth)
      (cursor.rest.head? ≠ some (CodePoint.ofChar '\x7b')) Misses
      ((object limits self).evaluate laps resolve cursor.state).reply := by
  refine reads_container_awaits .object (List.head? · ≠ some (CodePoint.ofChar '"')) offers bare
    enough
    (fun within inner faces => ?_) (fun within inner faces => ?_) ?_
  · refine Cursor.Reads.derivation (reads_entrySteps_awaits ?_ (proceeds within) faces.enough)
    rw [← faces.depth]
    exact reads_string_awaits (faces.awaits.offers.of_mark rfl) faces.enough
  · refine (reads_entrySteps_awaits ?_ (proceeds within) faces.enough).weakenMatch
      (fun _ _ _ _ => And.right)
    rw [← faces.depth]
    refine (reads_string_awaits faces.awaits.offers faces.enough).failpoint
      fun absent _ _ _ => faces.awaits.stuck fun wrong head => advance_of_lacks rfl ?_
    rw [head, ne_eq, Option.some.injEq] at absent
    exact step_mark_of_ne absent
  · intro before ahead awaits noQuote noCloser
    refine awaits.stuck fun wrong head => advance_of_lacks rfl ?_
    rw [head, ne_eq, Option.some.injEq] at noQuote noCloser
    refine (if_neg noCloser).trans ?_
    rw [Pending.afterMemberStart?, if_neg noQuote]
    rfl

/-- A value, if the rule for nested values goes on one level deeper. -/
theorem proceeds_value {limits : Limits} {self : Rule ν} {depth : Int}
    (proceeds : depth + 1 ≤ limits.maxDepth →
      Proceeds laps (depth + 1) (self.evaluate laps resolve)) :
    Proceeds laps depth ((value limits self).evaluate laps resolve) := by
  rintro cursor rest rfl enough bare offers
  have string : cursor.Reads (Reaches (.blanks :: rest) cursor.depth)
      (cursor.rest.head? ≠ some (CodePoint.ofChar '"')) Misses
      ((stringValue : Rule ν).evaluate laps resolve cursor.state).reply := by
    refine (reads_string_awaits (offers.of_mark rfl) enough).semantics ?_
    rintro _ product next reached
    exact ⟨_, rfl, by simp [scalar], reached⟩
  exact string.choice_cons fun noQuote =>
    (reads_number_awaits limits offers enough).choice_cons fun noNumber =>
      (reads_keyword_awaits offers).choice_cons fun noWord =>
        (reads_array_awaits proceeds offers bare enough).choice_cons fun noArray =>
          (reads_object_awaits proceeds offers bare enough).choice_cons fun noObject =>
            .choice_nil ⟨noQuote, noNumber, noWord, noArray, noObject⟩

/-- The value rule of the grammar, unfolded as often as values can nest. -/
theorem proceeds_unfolded (limits : Limits) (laps : Nat) {unfoldings : Nat} {depth : Int}
    (enough : limits.maxDepth ≤ depth + unfoldings) :
    Proceeds laps depth
      ((grammar limits).evaluateWithin laps unfoldings (value limits (.reference ()))) := by
  induction unfoldings generalizing depth with
  | zero => exact proceeds_value fun within => by omega
  | succ unfoldings inductionHypothesis =>
      exact proceeds_value fun _ => inductionHypothesis (by omega)

/-! ## Documents -/

/-- A document: behind what it has matched only white space is open, of which none is left, and
where it misses something, there is no way on. -/
theorem reads_document_awaits {self : Rule ν}
    (proceeds : Proceeds laps 0 (self.evaluate laps resolve)) (source : Text)
    (enough : source.length < laps) :
    (Cursor.start source).Reads
      (fun _ _ next => next.Awaits [.blanks] ∧ skipBlanks next.rest = next.rest) True Misses
      ((document self).evaluate laps resolve (Cursor.start source).state).reply := by
  have start : (Cursor.start source).Awaits atStart := ⟨atStart, rfl, fun _ _ => rfl⟩
  have parts : (Cursor.start source).Reads
      (fun _ product next => (next.Awaits [.blanks] ∧ skipBlanks next.rest = next.rest) ∧
        ∃ first second third, product = .tuple [first, second, third])
      True Misses
      ((Rule.sequence [whitespace, self, whitespace]).evaluate laps resolve
        (Cursor.start source).state).reply := by
    refine Cursor.Reads.sequence
      (Cursor.Reads.parts_cons (reads_whitespace enough).neverFails.neverDeclines ?_)
    rintro _ before first passes ⟨⟨blanks, rfl⟩, ahead, deep⟩
    have firstShorter : source.length = _ := passes.length
    have bare : skipBlanks first.rest = first.rest := by
      rw [ahead, skipBlanks_skipBlanks]
    have opened := (start.move passes (follow_blanks blanks.property)).of_blanks bare
    refine Cursor.Reads.parts_cons
      (proceeds first [] deep (by omega) bare opened.offers).mayDecline ?_
    rintro _ item second secondPasses ⟨-, reached, -⟩
    have secondShorter := secondPasses.length
    refine Cursor.Reads.parts_cons (reads_whitespace (by omega)).neverFails.neverDeclines ?_
    rintro _ behind third thirdPasses ⟨⟨blanks, rfl⟩, ended, -⟩
    refine .parts_nil ⟨⟨reached.move thirdPasses (follow_blanks blanks.property), ?_⟩,
      before, item, behind, rfl⟩
    rw [ended, skipBlanks_skipBlanks]
  refine parts.semantics ?_
  rintro _ _ next ⟨ended, first, second, third, rfl⟩
  exact ⟨second, rfl, ended⟩

end Descent.Document
