import Descent.Proofs.Document.Value.Leaf

/-!
# Members of containers are read

A container whose members are ahead is read as the row of their products. White space in front of a
member is skipped before its rule is applied, and white space behind it may be consumed with its
last bracket, so the statements compare what is ahead up to white space.
-/

namespace Descent.Document

variable {ν : Type} {laps : Nat} {resolve : ν → Behaviour} {cursor : Cursor}

/-! ## Containers -/

/-- A cursor at a depth in front of some text, up to white space. -/
structure Cursor.Before (laps : Nat) (cursor : Cursor) (depth : Int) (points : Text) : Prop where
  depth : cursor.depth = depth
  ahead : skipBlanks cursor.rest = skipBlanks points
  enough : cursor.rest.length < laps

/-- Where a match leads, if it is known what is behind it. -/
theorem Takes.andThen {α β : Type} {run : Run α} {following : α → State → Run β} {product : α}
    {result : β} {points behind : Text} {depth outer : Int}
    (takes : Takes cursor product points depth run.reply) (enough : cursor.rest.length < laps)
    (continues : ∀ next : Cursor, next.Before laps depth points →
      Takes next result behind outer (following product next.state).reply) :
    Takes cursor result behind outer (run.andThen following).reply := by
  refine Cursor.Reads.andThen takes ?_
  rintro _ _ next passes ⟨rfl, ahead, deep⟩
  have shorter := passes.length
  exact continues next ⟨deep, ahead, by omega⟩

/-- No member is ahead. -/
theorem takes_members_none {first additional : Rule ν} {close : List Value → Steps ν}
    {product : Value} {points : Text} {depth : Int}
    (declines : cursor.Reads (fun _ _ _ => False) True noFailure
      (first.evaluate laps resolve cursor.state).reply)
    (closes : Takes cursor product points depth
      ((close []).evaluate laps resolve cursor.state).reply) :
    Takes cursor product points depth
      ((members first additional close).evaluate laps resolve cursor.state).reply :=
  reads_members declines (fun _ _ _ impossible => impossible.elim) (fun _ => closes)
    fun _ _ _ _ impossible => impossible.elim

/-- A first member is ahead, and others are behind it. -/
theorem takes_members_some {first additional : Rule ν} {close : List Value → Steps ν}
    {head product : Value} {products : List Value} {behind ending points : Text}
    {inner depth : Int} (enough : cursor.rest.length < laps)
    (takesFirst : Takes cursor head behind inner (first.evaluate laps resolve cursor.state).reply)
    (isSome : head ≠ .none)
    (takesOthers : ∀ next : Cursor, next.Before laps inner behind →
      Takes next (.tuple products) ending inner
        ((Rule.zeroOrMore additional).evaluate laps resolve next.state).reply)
    (closes : ∀ last : Cursor, last.Before laps inner ending →
      Takes last product points depth
        ((close (head :: products)).evaluate laps resolve last.state).reply) :
    Takes cursor product points depth
      ((members first additional close).evaluate laps resolve cursor.state).reply := by
  refine reads_members takesFirst ?_ False.elim ?_
  · rintro _ _ next ⟨rfl, -⟩
    exact isSome
  · rintro _ _ next passes ⟨rfl, ahead, deep⟩
    have shorter := passes.length
    exact (takesOthers next ⟨deep, ahead, by omega⟩).andThen (by omega) closes

/-- An opening bracket that is ahead, and what follows it within the limit or beyond it. -/
theorem reads_opened {limits : Limits} {opener : Char} {steps : Steps ν} {points : Text}
    {opening : Margin} {onMatch : Value → Cursor → Prop} {onFail : Cursor → ParseError → Prop}
    (visible : (CodePoint.ofChar opener).isBlank = false) (enough : cursor.rest.length < laps)
    (ahead : skipBlanks cursor.rest = skipBlanks (opening.around opener ++ points))
    (beyond : limits.maxDepth < cursor.depth + 1 → ∀ (inner : Cursor) (error : ParseError),
      inner.rest = skipBlanks points → TooDeepAt limits inner error → onFail inner error)
    (within : cursor.depth + 1 ≤ limits.maxDepth → ∀ inner : Cursor,
      inner.depth = cursor.depth + 1 → inner.rest = skipBlanks points → inner.rest.length < laps →
      inner.Reads (fun _ => onMatch) False (fun _ => onFail)
        (steps.evaluate laps resolve inner.state).reply) :
    cursor.Reads (fun _ => onMatch) False (fun _ => onFail)
      ((Rule.derivation (.apply (bracket opener 1) fun _ => withinDepth limits steps) []).evaluate
        laps resolve cursor.state).reply := by
  refine Cursor.Reads.derivation
    (Cursor.Reads.apply (takes_crossing (reads_bracket visible enough) visible ahead).neverFails ?_)
  rintro _ _ inner passes ⟨-, rest, innerDepth⟩
  have shorter := passes.length
  refine reads_withinDepth (fun many error _ worded => ?_) fun few => ?_
  · exact beyond (innerDepth ▸ many) inner error rest worded
  · exact within (innerDepth ▸ few) inner innerDepth rest (by omega)

/-- A container, from what is known of its members. -/
theorem takes_container {limits : Limits} {opener closer : Char} {kind : RecordKind}
    {first additional : Rule ν} {products : List Value} {expectation inside points : Text}
    {opening closing : Margin}
    (openerVisible : (CodePoint.ofChar opener).isBlank = false)
    (closerVisible : (CodePoint.ofChar closer).isBlank = false)
    (within : cursor.depth + 1 ≤ limits.maxDepth) (enough : cursor.rest.length < laps)
    (ahead : skipBlanks cursor.rest =
      skipBlanks (opening.around opener ++ (inside ++ (closing.around closer ++ points))))
    (takesMembers : ∀ (inner : Cursor) (close : List Value → Steps ν),
      inner.depth = cursor.depth + 1 → inner.rest.length < laps →
      inner.rest = skipBlanks (inside ++ (closing.around closer ++ points)) →
      (∀ last : Cursor,
        last.Before laps (cursor.depth + 1) (closing.around closer ++ points) →
        Takes last (.record kind [.tuple products]) points cursor.depth
          ((close products).evaluate laps resolve last.state).reply) →
      Takes inner (.record kind [.tuple products]) points cursor.depth
        ((members first additional close).evaluate laps resolve inner.state).reply) :
    Takes cursor (.record kind [.tuple products]) points cursor.depth
      ((Rule.derivation (.apply (bracket opener 1) fun _ =>
        withinDepth limits (members first additional fun items =>
          .apply (.failpoint (bracket closer (-1)) (.expecting expectation)) fun _ =>
            .finish (.record kind [.tuple items]))) []).evaluate laps resolve
              cursor.state).reply := by
  refine reads_opened openerVisible enough ahead (by omega)
    fun _ inner innerDepth rest shorter => ?_
  refine takesMembers inner _ innerDepth shorter rest ?_
  rintro last ⟨lastDepth, lastAhead, lastEnough⟩
  refine Cursor.Reads.apply ((takes_crossing (reads_bracket closerVisible lastEnough)
    closerVisible lastAhead).failpoint False.elim) ?_
  rintro _ _ next _ ⟨-, behind, nextDepth⟩
  exact .finish ⟨rfl, by rw [behind, skipBlanks_skipBlanks], by omega⟩

/-! ## Members behind the first one -/

/-- The laps of a repetition have the products, and end in front of the points up to white space. -/
def Collects (cursor : Cursor) (products : List Value) (points : Text) (depth : Int)
    (reply : Reply (List Value)) : Prop :=
  cursor.Reads
    (fun consumed result next => (result = products ∧
      skipBlanks next.rest = skipBlanks points ∧ next.depth = depth) ∧
      result.length ≤ consumed.length)
    False noFailure reply

/-- A comma that is ahead, and what follows it. -/
theorem reads_comma {steps : Steps ν} {depth : Int} {comma : Margin} {points : Text}
    {onMatch : Value → Cursor → Prop} {onFail : Cursor → ParseError → Prop}
    (before : cursor.Before laps depth (comma.around ',' ++ points))
    (following : ∀ inner : Cursor, inner.depth = depth → inner.rest = skipBlanks points →
      inner.rest.length < laps →
      inner.Reads (fun _ => onMatch) False (fun _ => onFail)
        (steps.evaluate laps resolve inner.state).reply) :
    cursor.Reads (fun consumed product next => consumed ≠ [] ∧ onMatch product next) False
      (fun _ => onFail)
      ((Rule.derivation (.apply (separator ',') fun _ => steps) []).evaluate laps resolve
        cursor.state).reply := by
  have enough := before.enough
  refine Cursor.Reads.derivation (Cursor.Reads.apply
    (takes_crossing (reads_separator (by decide) enough) (by decide) before.ahead).neverFails ?_)
  rintro _ _ inner passes ⟨consumes, rest, innerDepth⟩
  have shorter := passes.length
  refine (following inner (innerDepth.trans before.depth) rest (by omega)).weakenMatch ?_
  intro _ _ next _ holds
  exact ⟨by simp [consumes], holds⟩

/-- Where no comma is ahead, there is no further member. -/
theorem collects_nil {steps : Steps ν} {depth : Int} {ending : Text} {limit : Nat}
    (before : cursor.Before laps depth ending)
    (noComma : (skipBlanks ending).head? ≠ some (CodePoint.ofChar ',')) :
    Collects cursor [] ending depth
      (Behaviour.collect ((Rule.derivation (.apply (separator ',') fun _ => steps) []).evaluate
        laps resolve) (limit + 1) cursor.state).reply := by
  have declines : cursor.Reads (fun _ _ _ => False) True noFailure
      ((Rule.derivation (.apply (separator ',') fun _ => steps) []).evaluate laps resolve
        cursor.state).reply :=
    Cursor.Reads.derivation (.apply_unmatched
      (declines_crossing (reads_separator (by decide) before.enough) (by rwa [before.ahead])))
  exact declines.collect_nil fun _ => ⟨rfl, before.ahead, before.depth⟩

/-- A behaviour that reads a text as a product, in front of what does not go on a number. -/
def TakesText (laps : Nat) (depth : Int) (member : Text) (product : Value) (body : Behaviour) :
    Prop :=
  ∀ (cursor : Cursor) (points : Text), cursor.depth = depth →
    cursor.rest = skipBlanks (member ++ points) → Detached points → cursor.rest.length < laps →
    Takes cursor product points depth (body cursor.state).reply

/-- Members behind the first one, each of which a behaviour reads behind its comma. -/
inductive Row (laps : Nat) (depth : Int) (body : Behaviour) : Text → List Value → Prop where
  | nil : Row laps depth body [] []
  | cons {member others : Text} {product : Value} {products : List Value} (comma : Margin)
      (takes : TakesText laps depth member product body)
      (row : Row laps depth body others products) :
      Row laps depth body (comma.around ',' ++ (member ++ others)) (product :: products)

namespace Row

variable {depth : Int} {steps : Steps ν} {others : Text} {products : List Value}

/-- Further members do not go on a number in front of them. -/
theorem detached {body : Behaviour} (row : Row laps depth body others products) {ending : Text}
    (detached : Detached ending) : Detached (others ++ ending) := by
  cases row with
  | nil => exact detached
  | cons comma takes row =>
      rw [List.append_assoc]
      exact detached_around comma (by decide) _

/-- One lap: a comma and the member behind it. -/
theorem takes_lap {comma : Margin} {member points : Text} {product : Value}
    (takes : TakesText laps depth member product (steps.evaluate laps resolve))
    (before : cursor.Before laps depth (comma.around ',' ++ (member ++ points)))
    (detached : Detached points) :
    cursor.Reads
      (fun consumed result next => consumed ≠ [] ∧ result = product ∧
        skipBlanks next.rest = skipBlanks points ∧ next.depth = depth)
      False noFailure
      ((Rule.derivation (.apply (separator ',') fun _ => steps) []).evaluate laps resolve
        cursor.state).reply :=
  reads_comma before fun inner deep rest enough => takes inner points deep rest detached enough

/-- All the members are read, up to something that is no comma. -/
theorem collects (row : Row laps depth (steps.evaluate laps resolve) others products)
    {ending : Text} {limit : Nat} (before : cursor.Before laps depth (others ++ ending))
    (detached : Detached ending)
    (noComma : (skipBlanks ending).head? ≠ some (CodePoint.ofChar ','))
    (fits : cursor.rest.length < limit) :
    Collects cursor products ending depth
      (Behaviour.collect ((Rule.derivation (.apply (separator ',') fun _ => steps) []).evaluate
        laps resolve) limit cursor.state).reply := by
  induction row generalizing cursor limit with
  | nil =>
      obtain ⟨limit, rfl⟩ : ∃ smaller, limit = smaller + 1 := ⟨limit - 1, by omega⟩
      exact collects_nil before noComma
  | cons comma takes row inductionHypothesis =>
      obtain ⟨limit, rfl⟩ : ∃ smaller, limit = smaller + 1 := ⟨limit - 1, by omega⟩
      have enough := before.enough
      rw [List.append_assoc, List.append_assoc] at before
      refine (takes_lap takes before (row.detached detached)).collect_succ
        (fun _ _ _ holds => holds.1) ?_ False.elim
      rintro _ _ next passes ⟨consumes, rfl, ahead, deep⟩
      have longer := List.length_pos_iff.mpr consumes
      have shorter := passes.length
      refine (inductionHypothesis ⟨deep, ahead, by omega⟩ (by omega)).weakenMatch ?_
      rintro _ _ last _ ⟨⟨rfl, described⟩, counted⟩
      exact ⟨⟨rfl, described⟩, counted⟩

/-- All the members behind the first one. -/
theorem takes (row : Row laps depth (steps.evaluate laps resolve) others products)
    {ending : Text} (before : cursor.Before laps depth (others ++ ending))
    (detached : Detached ending)
    (noComma : (skipBlanks ending).head? ≠ some (CodePoint.ofChar ',')) :
    Takes cursor (.tuple products) ending depth
      ((Rule.zeroOrMore (.derivation (.apply (separator ',') fun _ => steps) [])).evaluate laps
        resolve cursor.state).reply := by
  have collects := row.collects before detached noComma before.enough
  refine Cursor.Reads.zeroOrMore before.enough (collects.weakenMatch ?_)
  rintro _ _ next _ ⟨⟨rfl, described⟩, counted⟩
  exact ⟨⟨rfl, described⟩, counted⟩

end Row

end Descent.Document
