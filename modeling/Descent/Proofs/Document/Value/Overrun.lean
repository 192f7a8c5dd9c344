import Descent.Proofs.Document.Value.Completeness
import Descent.Proofs.Document.Value.Soundness

/-!
# Descents overrun the nesting limit

A text that descends into a container which is one too deep is read up to that container, and the
reading fails there, whatever comes behind. The proof follows the descent: members in front of the
one that leads deeper are read as phrases, and the failure of that one goes through every container
around it.

A phrase that nests deeper than the limit allows begins with a descent, if its numbers may have any
number of digits.
-/

namespace Descent.Document

variable {ν : Type} {laps : Nat} {resolve : ν → Behaviour} {cursor : Cursor} {limits : Limits}

/-! ## Failures of containers that are too deep -/

/-- The reply is the failure of a container that is one too deep, in front of the points up to white
space. -/
def Overruns {α : Type} (limits : Limits) (cursor : Cursor) (points : Text) (reply : Reply α) :
    Prop :=
  cursor.Reads (fun _ _ _ => False) False
    (fun _ next error => TooDeepAt limits next error ∧ next.rest = skipBlanks points)
    reply

/-- Such a failure goes through the steps behind it. -/
theorem Overruns.apply {rule : Rule ν} {points : Text}
    (overruns : Overruns limits cursor points (rule.evaluate laps resolve cursor.state).reply)
    (following : Value → Steps ν) :
    Overruns limits cursor points
      ((Steps.apply rule following).evaluate laps resolve cursor.state).reply :=
  overruns.apply_unmatched

/-- A behaviour that fails behind a text, whatever follows. -/
def OverrunsText (laps : Nat) (limits : Limits) (depth : Int) (front : Text) (body : Behaviour) :
    Prop :=
  ∀ (cursor : Cursor) (points : Text), cursor.depth = depth →
    cursor.rest = skipBlanks (front ++ points) → cursor.rest.length < laps →
    Overruns limits cursor points (body cursor.state).reply

/-- A mandatory rule that fails. -/
theorem OverrunsText.apply {rule : Rule ν} {depth : Int} {front : Text}
    (overruns : OverrunsText laps limits depth front (rule.evaluate laps resolve))
    (expectation : Text) (following : Value → Steps ν) :
    OverrunsText laps limits depth front
      ((Steps.apply (.failpoint rule (.expecting expectation)) following).evaluate laps resolve) :=
  fun cursor points deep rest enough =>
    Overruns.apply (Cursor.Reads.failpoint (overruns cursor points deep rest enough) False.elim) _

/-! ## Members -/

/-- Members behind the first one are read, and the one behind them fails. -/
theorem Row.overruns {depth : Int} {steps : Steps ν} {others : Text} {products : List Value}
    (row : Row laps depth (steps.evaluate laps resolve) others products) {comma : Margin}
    {front points : Text} {limit : Nat}
    (overruns : OverrunsText laps limits depth front (steps.evaluate laps resolve))
    (before : cursor.Before laps depth (others ++ (comma.around ',' ++ (front ++ points))))
    (fits : cursor.rest.length < limit) :
    Overruns limits cursor points
      (Behaviour.collect ((Rule.derivation (.apply (separator ',') fun _ => steps) []).evaluate
        laps resolve) limit cursor.state).reply := by
  induction row generalizing cursor limit with
  | nil =>
      obtain ⟨limit, rfl⟩ : ∃ smaller, limit = smaller + 1 := ⟨limit - 1, by omega⟩
      have lap := reads_comma before fun inner deep rest enough =>
        overruns inner points deep rest enough
      exact lap.branch (fun _ _ _ _ holds => holds.2.elim) False.elim
  | cons first takes row inductionHypothesis =>
      obtain ⟨limit, rfl⟩ : ∃ smaller, limit = smaller + 1 := ⟨limit - 1, by omega⟩
      have enough := before.enough
      rw [List.append_assoc, List.append_assoc] at before
      have lap := Row.takes_lap takes before (row.detached (detached_around comma (by decide) _))
      refine lap.neverFails.branch ?_ False.elim
      rintro _ _ next passes ⟨consumes, rfl, ahead, deep⟩
      have longer := List.length_pos_iff.mpr consumes
      have shorter := passes.length
      rw [passes.not_samePosition consumes]
      refine Cursor.Reads.andThen_unmatched (inductionHypothesis ⟨deep, ahead, ?_⟩ ?_)
      · omega
      · omega

/-- The first member fails. -/
theorem overruns_members_first {first additional : Rule ν} {close : List Value → Steps ν}
    {points : Text}
    (overruns : Overruns limits cursor points (first.evaluate laps resolve cursor.state).reply) :
    Overruns limits cursor points
      ((members first additional close).evaluate laps resolve cursor.state).reply :=
  reads_members overruns (fun _ _ _ impossible => impossible.elim) False.elim
    fun _ _ _ _ impossible => impossible.elim

/-- The first member is read, and one behind it fails. -/
theorem overruns_members_later {first : Rule ν} {steps : Steps ν} {close : List Value → Steps ν}
    {head : Value} {others front points : Text} {products : List Value} {comma : Margin}
    {depth : Int} (enough : cursor.rest.length < laps)
    (takesFirst : Takes cursor head (others ++ (comma.around ',' ++ (front ++ points))) depth
      (first.evaluate laps resolve cursor.state).reply)
    (isSome : head ≠ .none)
    (row : Row laps depth (steps.evaluate laps resolve) others products)
    (overruns : OverrunsText laps limits depth front (steps.evaluate laps resolve)) :
    Overruns limits cursor points
      ((members first (.derivation (.apply (separator ',') fun _ => steps) []) close).evaluate laps
        resolve cursor.state).reply := by
  refine reads_members takesFirst.neverFails ?_ False.elim ?_
  · rintro _ _ next ⟨rfl, -⟩
    exact isSome
  · rintro _ _ next passes ⟨rfl, ahead, deep⟩
    have shorter := passes.length
    have enough : next.rest.length < laps := by omega
    have collect := row.overruns overruns ⟨deep, ahead, enough⟩ enough
    have repetition : Overruns limits next points ((Rule.zeroOrMore
        (.derivation (.apply (separator ',') fun _ => steps) [])).evaluate laps resolve
          next.state).reply :=
      collect.andThen_unmatched
    exact repetition.apply _

/-! ## Containers -/

/-- A container that is too deep, or one whose members overrun the limit. -/
theorem overrunsText_opened {opener : Char} {steps : Steps ν} {depth : Int} {inside : Text}
    (visible : (CodePoint.ofChar opener).isBlank = false) (opening : Margin)
    (beyond : limits.maxDepth < depth + 1 → inside = [])
    (within : depth + 1 ≤ limits.maxDepth →
      OverrunsText laps limits (depth + 1) inside (steps.evaluate laps resolve)) :
    OverrunsText laps limits depth (opening.around opener ++ inside)
      ((Rule.derivation (.apply (bracket opener 1) fun _ => withinDepth limits steps) []).evaluate
        laps resolve) := by
  rintro cursor points rfl rest enough
  rw [List.append_assoc] at rest
  refine reads_opened visible enough (by rw [rest, skipBlanks_skipBlanks]) ?_ ?_
  · intro tooMany inner error innerRest worded
    rw [beyond tooMany] at innerRest
    exact ⟨worded, innerRest⟩
  · intro few inner deep innerRest shorter
    exact within few inner points deep innerRest shorter

theorem overrunsText_array {self : Rule ν} {depth : Int} {inside : Text} (opening : Margin)
    (beyond : limits.maxDepth < depth + 1 → inside = [])
    (within : depth + 1 ≤ limits.maxDepth → ∀ close, OverrunsText laps limits (depth + 1) inside
      ((members self (additionalValue self) close).evaluate laps resolve)) :
    OverrunsText laps limits depth (opening.around '[' ++ inside)
      ((value limits self).evaluate laps resolve) := by
  intro cursor points deep rest enough
  have ahead := rest
  rw [List.append_assoc, skipBlanks_around opening (by decide)] at ahead
  exact reads_value_array enough ahead (overrunsText_opened (by decide) opening beyond
    (fun few => within few _) cursor points deep rest enough)

theorem overrunsText_object {self : Rule ν} {depth : Int} {inside : Text} (opening : Margin)
    (beyond : limits.maxDepth < depth + 1 → inside = [])
    (within : depth + 1 ≤ limits.maxDepth → ∀ close, OverrunsText laps limits (depth + 1) inside
      ((members (entry self) (additionalEntry self) close).evaluate laps resolve)) :
    OverrunsText laps limits depth (opening.around '\x7b' ++ inside)
      ((value limits self).evaluate laps resolve) := by
  intro cursor points deep rest enough
  have ahead := rest
  rw [List.append_assoc, skipBlanks_around opening (by decide)] at ahead
  exact reads_value_object enough ahead (overrunsText_opened (by decide) opening beyond
    (fun few => within few _) cursor points deep rest enough)

/-- An entry whose value overruns the limit. -/
theorem overrunsText_entry {rule self : Rule ν} {depth : Int} {inner : Text}
    (key : List StringItem) (colon : Margin)
    (takesKey : ∀ (cursor : Cursor) (points : Text), cursor.rest = StringItem.quoted key ++ points →
      cursor.rest.length < laps →
      cursor.Reads
        (fun consumed product next => consumed = StringItem.quoted key ∧
          product = .str (StringItem.decode key) ∧ next.depth = cursor.depth)
        False noFailure (rule.evaluate laps resolve cursor.state).reply)
    (overruns : OverrunsText laps limits depth inner (self.evaluate laps resolve)) :
    OverrunsText laps limits depth (StringItem.quoted key ++ colon.around ':' ++ inner)
      ((entrySteps rule self).evaluate laps resolve) := by
  rintro cursor points rfl rest enough
  simp only [List.append_assoc] at rest
  have ahead := rest.trans (skipBlanks_cons (by decide) _)
  exact reads_entry (takesKey cursor _ ahead enough) ahead enough
    (fun next deep nextRest shorter => overruns next points deep nextRest shorter)
    fun _ _ impossible => impossible.elim

section Grammar

variable {unfoldings : Nat} {depth : Int} {front inner : Text}

/-- Items up to one that overruns the limit. -/
theorem overrunsText_items (unfolds : limits.maxDepth ≤ depth + unfoldings)
    (isFront : Front (ValueText limits depth) (ItemsText limits depth) front)
    (overruns : OverrunsText laps limits depth inner
      ((Rule.reference ()).evaluate laps (unfolded limits laps unfoldings)))
    (close : List Value → Steps Unit) :
    OverrunsText laps limits depth (front ++ inner)
      ((members (.reference ()) (additionalValue (.reference ())) close).evaluate laps
        (unfolded limits laps unfoldings)) := by
  intro cursor points deep rest enough
  cases isFront with
  | first => exact overruns_members_first (overruns cursor points deep rest enough)
  | later isMember areOthers comma =>
      obtain ⟨phrase, fits, rfl⟩ := isMember
      obtain ⟨tail, tailFits, rfl⟩ := areOthers
      have takes := takes_phrase limits laps phrase unfoldings depth unfolds fits
      have row := takes_items limits laps tail unfoldings depth unfolds tailFits
      simp only [List.append_assoc] at rest
      refine overruns_members_later enough
        (takes.takesText cursor _ deep rest
          ((row []).detached (detached_around comma (by decide) _)) enough) ?_ (row _)
        (overruns.apply _ _)
      cases phrase <;> simp [Phrase.node, Node.toValue]

/-- Entries up to one whose value overruns the limit. -/
theorem overrunsText_entries (unfolds : limits.maxDepth ≤ depth + unfoldings)
    (isFront : Front (EntryText limits depth) (EntriesText limits depth) front)
    (key : List StringItem) (colon : Margin)
    (overruns : OverrunsText laps limits depth inner
      ((Rule.reference ()).evaluate laps (unfolded limits laps unfoldings)))
    (close : List Value → Steps Unit) :
    OverrunsText laps limits depth
      (front ++ (StringItem.quoted key ++ colon.around ':' ++ inner))
      ((members (entry (.reference ())) (additionalEntry (.reference ())) close).evaluate laps
        (unfolded limits laps unfoldings)) := by
  intro cursor points deep rest enough
  cases isFront with
  | first =>
      have fails := overrunsText_entry key colon (fun _ _ ahead => takes_string ahead) overruns
      exact overruns_members_first (fails cursor points deep rest enough)
  | later isMember areOthers comma =>
      obtain ⟨firstKey, firstColon, phrase, fits, rfl⟩ := isMember
      obtain ⟨tail, tailFits, rfl⟩ := areOthers
      subst deep
      have takes := takes_phrase limits laps phrase unfoldings cursor.depth unfolds fits
      have row := takes_entries limits laps tail unfoldings cursor.depth unfolds tailFits
      have fails : ∀ expectation, OverrunsText laps limits cursor.depth
          (StringItem.quoted key ++ colon.around ':' ++ inner)
          ((entrySteps (.failpoint string (.expecting expectation)) (.reference ())).evaluate laps
            (unfolded limits laps unfoldings)) := fun expectation =>
        overrunsText_entry key colon
          (fun _ _ ahead shorter => (takes_string ahead shorter).failpoint False.elim) overruns
      have ahead : cursor.rest = StringItem.quoted firstKey ++ (firstColon.around ':' ++
          (phrase.text ++ (tail.text ++ (comma.around ',' ++
            (StringItem.quoted key ++ colon.around ':' ++ inner ++ points))))) := by
        rw [rest]
        simp only [List.append_assoc]
        exact skipBlanks_cons (by decide) _
      refine overruns_members_later enough (Cursor.Reads.derivation
        (takes_entry ?_ takes (takes_string ahead enough) ahead enough)) (by simp) (row _) (fails _)
      exact (row []).detached (detached_around comma (by decide) _)

/-- A descent is read up to the container that is too deep, and fails there. -/
theorem overrunsText_of_descends (descends : Descends limits depth front)
    (unfolds : limits.maxDepth ≤ depth + unfoldings) :
    OverrunsText laps limits depth front
      ((grammar limits).evaluateWithin laps unfoldings (value limits (.reference ()))) := by
  induction descends generalizing unfoldings with
  | @array depth beyond opening =>
      obtain ⟨resolve, same⟩ := exists_resolve limits laps unfoldings (value limits (.reference ()))
      rw [same, ← List.append_nil (opening.around '[')]
      exact overrunsText_array opening (fun _ => rfl) fun within => absurd beyond (by omega)
  | @object depth beyond opening =>
      obtain ⟨resolve, same⟩ := exists_resolve limits laps unfoldings (value limits (.reference ()))
      rw [same, ← List.append_nil (opening.around '\x7b')]
      exact overrunsText_object opening (fun _ => rfl) fun within => absurd beyond (by omega)
  | item within opening isFront descends inductionHypothesis =>
      cases unfoldings with
      | zero => omega
      | succ unfoldings =>
          exact overrunsText_array opening (by omega) fun _ =>
            overrunsText_items (by omega) isFront (inductionHypothesis (by omega))
  | entry within opening isFront key colon descends inductionHypothesis =>
      cases unfoldings with
      | zero => omega
      | succ unfoldings =>
          exact overrunsText_object opening (by omega) fun _ =>
            overrunsText_entries (by omega) isFront key colon (inductionHypothesis (by omega))

end Grammar

/-- A document that begins with a descent fails at the container that is too deep. -/
theorem overruns_document {unfoldings : Nat} {before : Blanks} {front points : Text}
    (unfolds : limits.maxDepth ≤ unfoldings) (descends : Descends limits 0 front)
    (deep : cursor.depth = 0) (ahead : cursor.rest = before.val ++ (front ++ points))
    (enough : cursor.rest.length < laps) :
    Overruns limits cursor points
      ((grammar limits).evaluateWithin laps (unfoldings + 1) (document (.reference ()))
        cursor.state).reply := by
  have overruns : OverrunsText laps limits 0 front ((grammar limits).evaluateWithin laps unfoldings
      (value limits (.reference ()))) := overrunsText_of_descends descends (by simpa using unfolds)
  have parts : Overruns limits cursor points
      ((grammar limits).evaluateWithin laps (unfoldings + 1)
        (.sequence [whitespace, .reference (), whitespace]) cursor.state).reply := by
    refine Cursor.Reads.sequence ?_
    refine Cursor.Reads.parts_cons (reads_whitespace enough).neverFails ?_
    rintro _ _ first passes ⟨-, rest, firstDepth⟩
    have shorter := passes.length
    rw [ahead, skipBlanks_append] at rest
    exact Cursor.Reads.parts_unmatched
      (overruns first points (firstDepth.trans deep) rest (by omega))
  exact Cursor.Reads.semantics_unmatched parts

/-! ## Phrases that nest too deeply -/

/-- Without a limit for the digits only the nesting counts. -/
theorem Limits.fits_of_le (unlimited : limits.maxDigits = 0) {depth : Int} {nesting : Nat}
    (le : depth + nesting ≤ limits.maxDepth) (literals : List NumberLiteral) :
    limits.Fits depth nesting literals :=
  ⟨fun _ => le, fun _ _ _ positive => absurd positive (by omega)⟩

mutual

/-- A phrase that nests deeper than the limit allows begins with a descent. -/
theorem Phrase.exists_descends (unlimited : limits.maxDigits = 0) (phrase : Phrase) (depth : Int)
    (nests : 0 < phrase.nesting) (exceeds : limits.maxDepth < depth + phrase.nesting) :
    ∃ front behind, phrase.text = front ++ behind ∧ Descends limits depth front := by
  match phrase with
  | .string items => simp [Phrase.nesting] at nests
  | .number literal => simp [Phrase.nesting] at nests
  | .word keyword => simp [Phrase.nesting] at nests
  | .emptyArray opening closing =>
      simp only [Phrase.nesting] at exceeds
      exact ⟨_, _, rfl, .array exceeds opening⟩
  | .emptyObject opening closing =>
      simp only [Phrase.nesting] at exceeds
      exact ⟨_, _, rfl, .object exceeds opening⟩
  | .array opening first others closing =>
      simp only [Phrase.nesting, Phrase.text, List.append_assoc] at exceeds ⊢
      by_cases within : depth + 1 ≤ limits.maxDepth
      · by_cases shallow : depth + 1 + first.nesting ≤ limits.maxDepth
        · obtain ⟨before, comma, front, behind, spelled, areItems, descends⟩ :=
            others.exists_descends unlimited (depth + 1) within (by omega)
          have isFirst : ValueText limits (depth + 1) first.text :=
            ⟨first, limits.fits_of_le unlimited shallow _, rfl⟩
          refine ⟨_, behind ++ closing.around ']', ?_,
            .item within opening (.later isFirst areItems comma) descends⟩
          simp [spelled]
        · obtain ⟨front, behind, spelled, descends⟩ :=
            first.exists_descends unlimited (depth + 1) (by omega) (by omega)
          refine ⟨_, behind ++ (others.text ++ closing.around ']'), ?_,
            .item within opening .first descends⟩
          simp [spelled]
      · exact ⟨_, _, rfl, .array (by omega) opening⟩
  | .object opening key colon first others closing =>
      simp only [Phrase.nesting, Phrase.text, List.append_assoc] at exceeds ⊢
      by_cases within : depth + 1 ≤ limits.maxDepth
      · by_cases shallow : depth + 1 + first.nesting ≤ limits.maxDepth
        · obtain ⟨before, comma, laterKey, laterColon, front, behind, spelled, areEntries,
            descends⟩ := others.exists_descends unlimited (depth + 1) within (by omega)
          have isFirst : EntryText limits (depth + 1)
              (StringItem.quoted key ++ colon.around ':' ++ first.text) :=
            ⟨key, colon, first, limits.fits_of_le unlimited shallow _, rfl⟩
          refine ⟨_, behind ++ closing.around '\x7d', ?_, .entry within opening
            (.later isFirst areEntries comma) laterKey laterColon descends⟩
          simp [spelled]
        · obtain ⟨front, behind, spelled, descends⟩ :=
            first.exists_descends unlimited (depth + 1) (by omega) (by omega)
          refine ⟨_, behind ++ (others.text ++ closing.around '\x7d'), ?_,
            .entry within opening .first key colon descends⟩
          simp [spelled]
      · exact ⟨_, _, rfl, .object (by omega) opening⟩

/-- Items of which one nests too deeply. -/
theorem ItemTail.exists_descends (unlimited : limits.maxDigits = 0) (tail : ItemTail) (depth : Int)
    (within : depth ≤ limits.maxDepth) (exceeds : limits.maxDepth < depth + tail.nesting) :
    ∃ before comma front behind,
      tail.text = before ++ (Margin.around comma ',' ++ (front ++ behind)) ∧
      ItemsText limits depth before ∧ Descends limits depth front := by
  match tail with
  | .nil =>
      simp only [ItemTail.nesting] at exceeds
      omega
  | .cons comma item others =>
      simp only [ItemTail.nesting, ItemTail.text, List.append_assoc] at exceeds ⊢
      by_cases shallow : depth + item.nesting ≤ limits.maxDepth
      · obtain ⟨before, later, front, behind, spelled, ⟨row, fits, rfl⟩, descends⟩ :=
          others.exists_descends unlimited depth within (by omega)
        refine ⟨(ItemTail.cons comma item row).text, later, front, behind, ?_,
          ⟨.cons comma item row, (limits.fits_of_le unlimited shallow _).join fits, rfl⟩, descends⟩
        simp [spelled, ItemTail.text]
      · obtain ⟨front, behind, spelled, descends⟩ :=
          item.exists_descends unlimited depth (by omega) (by omega)
        refine ⟨[], comma, front, behind ++ others.text, ?_, ⟨.nil, .empty, rfl⟩, descends⟩
        simp [spelled]

/-- Entries of which one nests too deeply. -/
theorem EntryTail.exists_descends (unlimited : limits.maxDigits = 0) (tail : EntryTail)
    (depth : Int) (within : depth ≤ limits.maxDepth)
    (exceeds : limits.maxDepth < depth + tail.nesting) :
    ∃ before comma key colon front behind,
      tail.text = before ++ (Margin.around comma ',' ++
        (StringItem.quoted key ++ Margin.around colon ':' ++ front ++ behind)) ∧
      EntriesText limits depth before ∧ Descends limits depth front := by
  match tail with
  | .nil =>
      simp only [EntryTail.nesting] at exceeds
      omega
  | .cons comma key colon item others =>
      simp only [EntryTail.nesting, EntryTail.text, List.append_assoc] at exceeds ⊢
      by_cases shallow : depth + item.nesting ≤ limits.maxDepth
      · obtain ⟨before, later, laterKey, laterColon, front, behind, spelled, ⟨row, fits, rfl⟩,
          descends⟩ := others.exists_descends unlimited depth within (by omega)
        refine ⟨(EntryTail.cons comma key colon item row).text, later, laterKey, laterColon, front,
          behind, ?_, ⟨.cons comma key colon item row,
            (limits.fits_of_le unlimited shallow _).join fits, rfl⟩, descends⟩
        simp [spelled, EntryTail.text]
      · obtain ⟨front, behind, spelled, descends⟩ :=
          item.exists_descends unlimited depth (by omega) (by omega)
        refine ⟨[], comma, key, colon, front, behind ++ others.text, ?_, ⟨.nil, .empty, rfl⟩,
          descends⟩
        simp [spelled]

end

end Descent.Document
