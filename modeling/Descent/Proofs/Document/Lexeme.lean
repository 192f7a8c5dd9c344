import Descent.Proofs.Document.Reading

/-!
# Characters and words

The rules that look at single characters, described exactly: what they match, and that they decline
only where nothing matches. `TakesOne` is the description of all rules for one character. A product
that is made of characters spells the text that they were taken from.
-/

namespace Descent.Document

variable {ν : Type} {laps : Nat} {resolve : ν → Behaviour} {cursor : Cursor}

/-- Describes a rule that never fails. -/
abbrev noFailure : Text → Cursor → ParseError → Prop := fun _ _ _ => False

/-- A choice whose first alternative declines. -/
theorem Cursor.Reads.choice_skip {subrule : Rule ν} {others : List (Rule ν)}
    {onMatch : Text → Value → Cursor → Prop} {onDecline : Prop}
    {onFail : Text → Cursor → ParseError → Prop}
    (declines : cursor.Reads (fun _ _ _ => False) True noFailure
      (subrule.evaluate laps resolve cursor.state).reply)
    (following : cursor.Reads onMatch onDecline onFail
      ((Rule.choice others).evaluate laps resolve cursor.state).reply) :
    cursor.Reads onMatch onDecline onFail
      ((Rule.choice (subrule :: others)).evaluate laps resolve cursor.state).reply :=
  declines.neverFails.neverMatches.choice_cons
    fun _ => following

/-! ## Terminals -/

/-- The cursor behind the next character, with the counters as they were. -/
def Cursor.shift (cursor : Cursor) (point : CodePoint) (rest : Text) : Cursor :=
  { cursor with before := cursor.before ++ [point], rest }

/-- A terminal at the end of the text. -/
theorem term_of_nil (test : Value → Call Bool) (ended : cursor.rest = []) :
    ((Rule.term test : Rule ν).evaluate laps resolve cursor.state).reply = .declined := by
  have atEnd : cursor.state.atEnd = true := cursor.atEnd_iff.mpr ended
  show (Behaviour.term test cursor.state).reply = .declined
  simp only [Behaviour.term, atEnd]
  rfl

/-- A terminal in front of a character that its test can judge. -/
theorem term_of_cons {test : Value → Call Bool} {point : CodePoint} {rest : Text}
    {accepted : Bool} (outcome : (test (.ofCodePoint point)).outcome = .ok accepted)
    (ahead : cursor.rest = point :: rest) :
    ((Rule.term test : Rule ν).evaluate laps resolve cursor.state).reply =
      if accepted then .matched (.ofCodePoint point) (cursor.shift point rest).state
      else .declined := by
  have moved : cursor.state.forward 1 = (cursor.shift point rest).state := by
    simp only [Cursor.state, Cursor.shift, State.between, State.forward, Tokens.ofText,
      Tokens.size, ahead, List.append_assoc, List.singleton_append, List.length_append,
      List.size_toArray, List.length_cons, List.length_nil, State.mk.injEq, true_and]
    exact ⟨by omega, rfl, trivial⟩
  have inside : cursor.state.atEnd = false := by
    rw [Bool.eq_false_iff, ne_eq, cursor.atEnd_iff, ahead]
    exact List.cons_ne_nil _ _
  have current : cursor.state.current = .ok (.ofCodePoint point) := by
    have nonneg : ¬ (cursor.before.length : Int) < 0 := by omega
    simp only [State.current, inside]
    simp [Cursor.state, State.between, Tokens.ofText, Tokens.fetch, Tokens.get?, nonneg, ahead]
  show (Behaviour.term test cursor.state).reply = _
  simp only [Behaviour.term, inside, current, Call.run, outcome]
  cases accepted with
  | true =>
      rw [← moved]
      rfl
  | false => rfl

/-! ## Rules for one character -/

/-- The rule matches one character that is accepted, and declines where there is none. -/
def TakesOne (laps : Nat) (resolve : ν → Behaviour) (rule : Rule ν)
    (accepts : CodePoint → Bool) : Prop :=
  ∀ cursor : Cursor,
    cursor.Reads
      (fun consumed product next => ∃ point, accepts point ∧ consumed = [point] ∧
        product = .ofCodePoint point ∧ next.depth = cursor.depth)
      (∀ point, cursor.rest.head? = some point → accepts point = false) noFailure
      (rule.evaluate laps resolve cursor.state).reply

/-- A terminal that moves the column on. Its test judges every character and accepts no line
break. -/
theorem takesOne_trackColumn {test : Value → Call Bool} {accepts : CodePoint → Bool}
    (judges : ∀ point, (test (.ofCodePoint point)).outcome = .ok (accepts point))
    (unbroken : ∀ point, accepts point →
      point ≠ CodePoint.carriageReturn ∧ point ≠ CodePoint.lineFeed) :
    TakesOne laps resolve (Rule.trackColumn (.term test)) accepts := by
  intro cursor
  show cursor.Reads _ _ _ (((Rule.term test).evaluate laps resolve cursor.state).branch
    (fun product next => Behaviour.update product [Rule.increment (text "column")] next)
    fun _ => Run.declined).reply
  cases ahead : cursor.rest with
  | nil =>
      rw [Run.branch_of_declined (term_of_nil test ahead)]
      exact .declined (by simp)
  | cons point rest =>
      have noBreak := unbroken point
      have replies : ((Rule.term test).evaluate laps resolve cursor.state).reply = _ :=
        term_of_cons (judges point) ahead
      cases accepted : accepts point with
      | true =>
          rw [accepted, if_pos rfl] at replies
          rw [Run.branch_of_matched replies]
          exact .matched
            (Cursor.passes_step ahead (noBreak accepted).1 (noBreak accepted).2)
            ⟨point, accepted, rfl, rfl, rfl⟩
      | false =>
          rw [accepted, if_neg (by simp)] at replies
          rw [Run.branch_of_declined replies]
          refine .declined ?_
          intro other same
          rw [← Option.some.inj same, accepted]

namespace TakesOne

variable {rule : Rule ν} {accepts accepts' : CodePoint → Bool}

/-- The same characters, described in another way. -/
theorem congr (takes : TakesOne laps resolve rule accepts)
    (same : ∀ point, accepts point = accepts' point) :
    TakesOne laps resolve rule accepts' := by
  rwa [← funext same]

/-- A choice between rules for one character. -/
theorem choice_cons {others : List (Rule ν)} (takes : TakesOne laps resolve rule accepts)
    (following : TakesOne laps resolve (.choice others) accepts') :
    TakesOne laps resolve (.choice (rule :: others))
      fun point => accepts point || accepts' point := by
  intro cursor
  refine Cursor.Reads.choice_cons ((takes cursor).weakenMatch ?_) ?_
  · rintro consumed product next passes ⟨point, accepted, described⟩
    exact ⟨point, by simp [accepted], described⟩
  · intro lacks
    refine ((following cursor).weakenMatch ?_).weakenDecline ?_
    · rintro consumed product next passes ⟨point, accepted, described⟩
      exact ⟨point, by simp [accepted], described⟩
    · intro lacksOthers point ahead
      simp [lacks point ahead, lacksOthers point ahead]

/-- A choice without alternatives. -/
theorem choice_nil : TakesOne laps resolve (.choice []) fun _ => false :=
  fun _ => .declined fun _ _ => rfl

/-- In front of an accepted character the rule matches it. -/
theorem takes (takes : TakesOne laps resolve rule accepts) {point : CodePoint} {rest : Text}
    (ahead : cursor.rest = point :: rest) (accepted : accepts point) :
    cursor.Reads
      (fun consumed product next => consumed = [point] ∧ product = .ofCodePoint point ∧
        next.rest = rest ∧ next.depth = cursor.depth)
      False noFailure (rule.evaluate laps resolve cursor.state).reply := by
  refine ((takes cursor).weakenMatch ?_).weakenDecline ?_
  · rintro consumed product next passes ⟨other, -, rfl, rfl, depth⟩
    have texts := passes.rest
    rw [ahead, List.singleton_append, List.cons.injEq] at texts
    obtain ⟨rfl, rfl⟩ := texts
    exact ⟨rfl, rfl, rfl, depth⟩
  · intro lacks
    have refused := lacks point (by rw [ahead]; rfl)
    simp [accepted] at refused

/-- Where no accepted character is ahead, the rule declines. -/
theorem declines (takes : TakesOne laps resolve rule accepts)
    (lacks : ∀ point, cursor.rest.head? = some point → accepts point = false) :
    cursor.Reads (fun _ _ _ => False) True noFailure
      (rule.evaluate laps resolve cursor.state).reply := by
  refine (takes cursor).mayDecline.weakenMatch ?_
  rintro consumed product next passes ⟨point, accepted, rfl, -⟩
  have refused := lacks point (by rw [passes.rest]; rfl)
  simp [accepted] at refused

/-- A mandatory character: where it is missing, the error stands in front of what is there. -/
theorem mandatory (takes : TakesOne laps resolve rule accepts) (expectation : Text)
    (cursor : Cursor) :
    cursor.Reads
      (fun consumed product next => ∃ point, accepts point ∧ consumed = [point] ∧
        product = .ofCodePoint point ∧ next.depth = cursor.depth)
      False
      (fun consumed _ error => error.code = .expectationFailed ∧ consumed = [] ∧
        ∀ point, cursor.rest.head? = some point → accepts point = false)
      ((Rule.failpoint rule (.expecting expectation)).evaluate laps resolve
        cursor.state).reply := by
  refine Cursor.Reads.failpoint
    (takes cursor).neverFails ?_
  intro lacks error code
  exact ⟨code, rfl, lacks⟩

end TakesOne

/-! ## Literals -/

/-- Two characters are the same token only if they are the same. -/
theorem same_ofCodePoint (first second : CodePoint) :
    (Value.ofCodePoint first).same (.ofCodePoint second) = (first == second) := by
  simp [Value.ofCodePoint, Value.same]

/-- A token that is no line break. -/
theorem takesOne_tracked {point : CodePoint} (noReturn : point ≠ CodePoint.carriageReturn)
    (noFeed : point ≠ CodePoint.lineFeed) :
    TakesOne laps resolve (tracked (.ofCodePoint point)) (· == point) := by
  refine takesOne_trackColumn ?_ ?_
  · intro other
    exact congrArg Except.ok (same_ofCodePoint other point)
  · intro other same
    rw [beq_iff_eq] at same
    exact same ▸ ⟨noReturn, noFeed⟩

/-- A character that is no line break. -/
theorem takesOne_char {character : Char}
    (noReturn : CodePoint.ofChar character ≠ CodePoint.carriageReturn)
    (noFeed : CodePoint.ofChar character ≠ CodePoint.lineFeed) :
    TakesOne laps resolve (char character) (· == CodePoint.ofChar character) :=
  takesOne_tracked noReturn noFeed

/-- One of several tokens that are no line breaks. -/
theorem takesOne_literalChoice {points : Text}
    (unbroken : ∀ point ∈ points,
      point ≠ CodePoint.carriageReturn ∧ point ≠ CodePoint.lineFeed) :
    TakesOne laps resolve (.literalChoice tracked (points.map .ofCodePoint))
      fun point => points.contains point := by
  induction points with
  | nil => exact .choice_nil
  | cons point others inductionHypothesis =>
      have noBreak := unbroken point (by simp)
      have following := inductionHypothesis fun other mem => unbroken other (by simp [mem])
      refine (TakesOne.choice_cons (takesOne_tracked noBreak.1 noBreak.2) following).congr ?_
      intro other
      rw [List.contains_cons]

/-- Tokens in a row that are no line breaks: either all of them are ahead, or the run declines. -/
theorem reads_literalSequence {points : Text}
    (unbroken : ∀ point ∈ points,
      point ≠ CodePoint.carriageReturn ∧ point ≠ CodePoint.lineFeed) (cursor : Cursor) :
    cursor.Reads
      (fun consumed _ next => consumed = points ∧ next.depth = cursor.depth)
      (¬ points <+: cursor.rest) noFailure
      ((Rule.literalSequence tracked (points.map .ofCodePoint) : Rule ν).evaluate laps resolve
        cursor.state).reply := by
  refine Cursor.Reads.sequence ?_
  induction points generalizing cursor with
  | nil => exact .parts_nil ⟨rfl, rfl⟩
  | cons point others inductionHypothesis =>
      have noBreak := unbroken point (by simp)
      refine Cursor.Reads.parts_cons
        ((takesOne_tracked noBreak.1 noBreak.2 cursor).weakenDecline ?_) ?_
      · intro lacks ahead
        have refused := lacks point (by
          obtain ⟨more, rests⟩ := ahead
          rw [← rests]
          rfl)
        simp at refused
      · rintro consumed product next passes ⟨found, same, rfl, -, depth⟩
        rw [beq_iff_eq] at same
        subst same
        have following := inductionHypothesis
          (fun other mem => unbroken other (by simp [mem])) next
        refine (following.weakenMatch ?_).weakenDecline ?_
        · rintro more products last furtherPasses ⟨rfl, further⟩
          exact ⟨rfl, by rw [further, depth]⟩
        · intro missing ahead
          rw [passes.rest, List.singleton_append, List.cons_prefix_cons] at ahead
          exact missing ahead.2

/-! ## Products that spell texts -/

/-- The leaves of a product are the characters of a text. -/
def Spells (product : Value) (points : Text) : Prop :=
  product.flatten = points.map .ofCodePoint

theorem flattenAll_map_ofCodePoint (points : Text) :
    Value.flattenAll (points.map .ofCodePoint) = points.map .ofCodePoint := by
  induction points with
  | nil => rfl
  | cons point others inductionHypothesis =>
      simp only [List.map_cons, Value.flattenAll, inductionHypothesis]
      rfl

/-- A run of characters spells them. -/
theorem spells_run (points : Text) : Spells (.tuple (points.map .ofCodePoint)) points :=
  flattenAll_map_ofCodePoint points

theorem spells_point (point : CodePoint) : Spells (.ofCodePoint point) [point] := rfl

theorem spells_nil : Spells (.tuple []) [] := rfl

/-- A tuple spells what its items spell together. -/
theorem Spells.cons {first : Value} {others : List Value} {points more : Text}
    (spells : Spells first points) (spellsOthers : Spells (.tuple others) more) :
    Spells (.tuple (first :: others)) (points ++ more) := by
  show first.flatten ++ Value.flattenAll others = _
  rw [List.map_append, spells]
  exact congrArg _ spellsOthers

/-- A text that is spelled can be joined from the leaves. -/
theorem Spells.joined? {product : Value} {points : Text} (spells : Spells product points) :
    product.joined? = some points := by
  have texts : (points.map Value.ofCodePoint).mapM Value.str? =
      some (points.map fun point => [point]) := by
    clear spells
    induction points with
    | nil => rfl
    | cons point others inductionHypothesis =>
        rw [List.map_cons, List.mapM_cons, inductionHypothesis]
        rfl
  rw [Value.joined?, spells, texts, Option.map_some, ← List.flatMap_def, List.flatMap_singleton']

end Descent.Document
