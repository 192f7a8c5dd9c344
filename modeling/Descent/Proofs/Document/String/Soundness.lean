import Descent.Proofs.Document.String.Escape

/-!
# Strings consume items

The contents of a string are a row of items, and the rules take the items one by one. Inside the
quotes nothing can be declined: a string that does not go on is a failure, and what has been
consumed is the beginning of some string.
-/

namespace Descent.Document

variable {ν : Type} {laps : Nat} {resolve : ν → Behaviour} {cursor : Cursor}

/-! ## Plain characters -/

/-- A rule for one character where another one does not match. -/
theorem TakesOne.exclude_cons {rule subtrahend : Rule ν} {others : List (Rule ν)}
    {accepts refuses : CodePoint → Bool} (refused : TakesOne laps resolve subtrahend refuses)
    (takes : TakesOne laps resolve (.exclude rule others) accepts) :
    TakesOne laps resolve (.exclude rule (subtrahend :: others))
      fun point => !refuses point && accepts point := by
  intro cursor
  refine Cursor.Reads.branch (refused cursor).neverFails ?_ ?_
  · rintro _ _ next passes ⟨point, isRefused, rfl, -⟩
    refine .declined ?_
    intro other ahead
    rw [passes.rest] at ahead
    cases ahead
    simp [isRefused]
  · intro lacks
    refine ((takes cursor).weakenMatch ?_).weakenDecline ?_
    · rintro _ _ next passes ⟨point, accepted, rfl, described⟩
      have free := lacks point (by rw [passes.rest]; rfl)
      exact ⟨point, by simp [free, accepted], rfl, described⟩
    · intro lacksAccepted point ahead
      simp [lacksAccepted point ahead]

/-- Characters are compared by number. -/
theorem space_le_singleton (point : CodePoint) :
    Text.le (text " ") [point] = decide (0x20 ≤ point.val) := by
  by_cases isSpace : CodePoint.ofChar ' ' = point
  · subst isSpace
    decide
  · have distinct : point.val ≠ 0x20 := fun same => isSpace (Fin.ext same.symm)
    show (if CodePoint.ofChar ' ' = point then true
      else decide (CodePoint.ofChar ' ' < point)) = _
    rw [if_neg isSpace, decide_eq_decide, Fin.lt_def]
    show 0x20 < point.val ↔ 0x20 ≤ point.val
    omega

/-- A character that is not a control character. -/
theorem takesOne_printable {test : Value → Call Bool}
    (judges : ∀ point, (test (.ofCodePoint point)).outcome = .ok (Text.le (text " ") [point])) :
    TakesOne laps resolve (Rule.trackColumn (.term test))
      fun point => decide (0x20 ≤ point.val) := by
  refine takesOne_trackColumn (fun point => by rw [judges, space_le_singleton]) ?_
  intro point above
  rw [decide_eq_true_eq] at above
  constructor
  · rintro rfl
    exact absurd above (by decide)
  · rintro rfl
    exact absurd above (by decide)

/-- A character that stands for itself. -/
theorem takesOne_unescaped : TakesOne laps resolve (unescaped : Rule ν) CodePoint.isPlain := by
  refine (takesOne_quote.exclude_cons (takesOne_backslash.exclude_cons
    (takesOne_printable fun _ => rfl))).congr ?_
  intro point
  grind [CodePoint.isPlain]

/-! ## Strings -/

/-- One lap through the contents of a string. -/
theorem lap_contents {escape : Rule ν} (readsEscape : ReadsItems laps resolve escape) :
    Lap ((Rule.choice [escape, unescaped] : Rule ν).evaluate laps resolve) (fun _ => True)
      (fun cursor consumed product next => consumed ≠ [] ∧
        (∃ items, consumed = StringItem.texts items) ∧ (∃ point, product = .ofCodePoint point) ∧
        next.depth = cursor.depth)
      (fun _ => True)
      (fun _ consumed _ error => error.code = .expectationFailed ∧
        ∃ items, consumed <+: StringItem.texts items)
      (fun cursor consumed products next => (∃ items, consumed = StringItem.texts items) ∧
        (∃ points : Text, products = points.map .ofCodePoint) ∧ next.depth = cursor.depth) where
  reads := by
    intro cursor _
    refine Cursor.Reads.choice_cons (readsEscape cursor) fun _ => ?_
    refine Cursor.Reads.choice_cons
      ((takesOne_unescaped cursor).neverFails.mayDecline.weakenMatch ?_)
      fun _ => .choice_nil trivial
    rintro _ _ next _ ⟨point, isPlain, rfl, rfl, depth⟩
    exact ⟨by simp, ⟨[.plain point isPlain], rfl⟩, ⟨point, rfl⟩, depth⟩
  consumes := fun holds => holds.1
  reaches := fun _ _ _ => trivial
  stops := fun _ _ => ⟨⟨[], rfl⟩, ⟨[], rfl⟩, rfl⟩
  continues := by
    rintro cursor _ _ next _ _ last _ ⟨-, ⟨items, rfl⟩, ⟨point, rfl⟩, depth⟩ -
      ⟨⟨others, rfl⟩, ⟨points, rfl⟩, lastDepth⟩
    exact ⟨⟨items ++ others, by simp [StringItem.texts]⟩, ⟨point :: points, rfl⟩,
      by rw [lastDepth, depth]⟩
  fails := by
    rintro cursor _ _ next more last error ⟨-, ⟨items, rfl⟩, -⟩ ⟨code, others, viable⟩
    refine ⟨code, items ++ others, ?_⟩
    simpa [StringItem.texts, List.prefix_append_right_inj] using viable

/-- The quote that closes a string, mandatory or not. -/
def ReadsQuote (laps : Nat) (resolve : ν → Behaviour) (onDecline : Prop) (rule : Rule ν) : Prop :=
  ∀ cursor : Cursor,
    cursor.Reads
      (fun consumed _ next => consumed = [CodePoint.ofChar '"'] ∧ next.depth = cursor.depth)
      onDecline (fun consumed _ error => error.code = .expectationFailed ∧ consumed = [])
      (rule.evaluate laps resolve cursor.state).reply

theorem readsQuote_char : ReadsQuote laps resolve True (char '"' : Rule ν) := by
  intro cursor
  refine (takesOne_quote cursor).neverFails.mayDecline.weakenMatch ?_
  rintro _ _ next _ ⟨point, same, rfl, -, depth⟩
  exact ⟨by rw [eq_of_beq same], depth⟩

theorem ReadsQuote.mandatory {rule : Rule ν} {onDecline : Prop}
    (reads : ReadsQuote laps resolve onDecline rule) (expectation : Text) :
    ReadsQuote laps resolve False (.failpoint rule (.expecting expectation)) := fun cursor =>
  (reads cursor).failpoint fun _ _ code => ⟨code, rfl⟩

/-- A string: it consumes the quotes and what is between them, and what it fails behind begins a
string. -/
theorem reads_string {escape closing : Rule ν} {onDecline : Prop}
    (readsEscape : ReadsItems laps resolve escape)
    (readsClosing : ReadsQuote laps resolve onDecline closing)
    (enough : cursor.rest.length < laps) :
    cursor.Reads
      (fun consumed product next => (∃ items, consumed = StringItem.quoted items) ∧
        (∃ points, product = .str points) ∧ next.depth = cursor.depth)
      (cursor.rest.head? ≠ some (CodePoint.ofChar '"') ∨ onDecline)
      (fun consumed _ error => error.code = .expectationFailed ∧
        ∃ items, consumed <+: StringItem.quoted items)
      ((Rule.derivation (.apply (char '"') fun _ =>
        .apply (.zeroOrMore (.choice [escape, unescaped])) fun contents =>
          .apply closing fun _ => match contents.joined? with
            | some points => .finish (.str points)
            | none => .fault .typeMismatch) [] : Rule ν).evaluate laps resolve
              cursor.state).reply := by
  refine Cursor.Reads.derivation
    (Cursor.Reads.apply ((takesOne_quote cursor).neverFails.weakenDecline ?_) ?_)
  · intro lacks
    left
    intro ahead
    simpa using lacks _ ahead
  · rintro _ _ first passes ⟨point, same, rfl, rfl, depth⟩
    rw [beq_iff_eq] at same
    subst same
    have shorter := passes.length
    refine Cursor.Reads.apply
      (((lap_contents readsEscape).zeroOrMore trivial (by omega)).neverDeclines.weakenFail ?_) ?_
    · rintro consumed next error ⟨code, items, behind, spelled⟩
      refine ⟨code, items, behind ++ [CodePoint.ofChar '"'], ?_⟩
      simp [StringItem.quoted, ← spelled]
    · rintro _ _ second _ ⟨_, rfl, ⟨items, rfl⟩, ⟨points, rfl⟩, contentsDepth⟩
      refine Cursor.Reads.apply (((readsClosing second).weakenDecline .inr).weakenFail ?_) ?_
      · rintro _ next error ⟨code, rfl⟩
        refine ⟨code, items, [CodePoint.ofChar '"'], ?_⟩
        simp [StringItem.quoted]
      · rintro _ _ third _ ⟨rfl, closingDepth⟩
        simp only [(spells_run points).joined?]
        refine .finish ⟨⟨items, by simp [StringItem.quoted]⟩, ⟨points, rfl⟩, ?_⟩
        rw [closingDepth, contentsDepth, depth]

end Descent.Document
