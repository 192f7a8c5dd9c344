import Descent.Proofs.Document.Number.Run

/-!
# Literals are read

A literal that is ahead is taken as a whole where no character behind it could continue it. The
parts are taken from the front of the text, and what each of them takes is the part of the literal.
-/

namespace Descent.Document

variable {ν : Type} {laps : Nat} {resolve : ν → Behaviour} {cursor : Cursor}

/-- No character that a number could go on with is ahead. -/
def Detached (points : Text) : Prop :=
  ∀ point, points.head? = some point →
    point.isDigit = false ∧ point ≠ CodePoint.ofChar '.' ∧ Number.isExponentMark point = false

/-- A run of digits ends where no digit is ahead. -/
theorem takeWhile_digits (digits : Digits) {points : Text}
    (ended : ∀ point, points.head? = some point → point.isDigit = false) :
    (digits.val ++ points).takeWhile CodePoint.isDigit = digits.val := by
  rw [List.takeWhile_append_of_pos digits.property.2]
  cases points with
  | nil => simp
  | cons point others => simp [ended point rfl]

namespace NumberLiteral

variable (literal : NumberLiteral)

/-- The sign of a literal is taken … -/
theorem scanSign_text (points : Text) :
    scanSign (literal.signText ++ (literal.integral.val ++ points)) = literal.signText := by
  obtain ⟨digit, others, spelled, isDigit⟩ := Digits.exists_head literal.integral
  rw [signText, spelled]
  cases literal.negative with
  | true => rfl
  | false =>
      have noMinus := (ne_sign_of_isDigit isDigit).2
      simp [scanSign, noMinus]

/-- … then its digits before the point … -/
theorem scanIntegral_text {points : Text}
    (ended : ∀ point, points.head? = some point → point.isDigit = false) :
    scanIntegral (literal.integral.val ++ points) = literal.integral.val := by
  obtain ⟨digit, others, spelled, isDigit⟩ := Digits.exists_head literal.integral
  have zeroAlone := literal.zeroAlone
  rw [scanIntegral, takeWhile_digits literal.integral ended]
  rw [spelled] at zeroAlone ⊢
  split
  · rename_i zero
    have isZero : digit = CodePoint.ofChar '0' := by simpa using zero
    have alone := zeroAlone (by simp [isZero])
    simp only [List.length_cons, Nat.add_eq_right, List.length_eq_zero_iff] at alone
    rw [isZero, alone]
  · rfl

/-- … then its fraction … -/
theorem scanFraction_text (fraction : Option Digits) {points : Text}
    (ended : ∀ point, points.head? = some point →
      point.isDigit = false ∧ point ≠ CodePoint.ofChar '.') :
    scanFraction (fractionText fraction ++ points) = fractionText fraction := by
  cases fraction with
  | some digits =>
      have taken := takeWhile_digits digits fun point ahead => (ended point ahead).1
      simp [scanFraction, fractionText, taken]
  | none =>
      rw [scanFraction, fractionText, List.nil_append, if_neg]
      intro ahead
      exact (ended _ ahead).2 rfl

/-- … and then its exponent. -/
theorem scanExponent_text (exponent : Option Exponent) {points : Text}
    (detached : Detached points) :
    scanExponent (exponentText exponent ++ points) = exponentText exponent := by
  cases exponent with
  | some exponent =>
      obtain ⟨capital, sign, digits⟩ := exponent
      have taken := takeWhile_digits digits fun point ahead => (detached point ahead).1
      have isMark : Number.isExponentMark (CodePoint.ofChar (if capital then 'E' else 'e')) := by
        cases capital <;> decide
      have scannedSign : scanExponentSign (sign.text ++ (digits.val ++ points)) = sign := by
        obtain ⟨digit, others, spelled, isDigit⟩ := Digits.exists_head digits
        obtain ⟨noPlus, noMinus⟩ := ne_sign_of_isDigit isDigit
        cases sign with
        | absent => simp [scanExponentSign, ExponentSign.text, spelled, noPlus, noMinus]
        | plus => rfl
        | minus => rfl
      simp only [exponentText, Exponent.text, List.cons_append, List.append_assoc, scanExponent,
        isMark, if_true, scannedSign, List.drop_left, taken]
  | none =>
      cases points with
      | nil => rfl
      | cons point others =>
          have noMark := (detached point rfl).2.2
          simp [exponentText, scanExponent, noMark]

/-- Behind the fraction of a literal there is neither a digit nor a point. -/
theorem head_behind_fraction {points : Text} (detached : Detached points) (point : CodePoint)
    (ahead : (exponentText literal.exponent ++ points).head? = some point) :
    point.isDigit = false ∧ point ≠ CodePoint.ofChar '.' := by
  cases spelled : literal.exponent with
  | some exponent =>
      rw [spelled] at ahead
      simp only [exponentText, Exponent.text, List.cons_append, List.head?_cons,
        Option.some.injEq] at ahead
      subst ahead
      cases exponent.capital <;> decide
  | none =>
      rw [spelled] at ahead
      have free := detached point ahead
      exact ⟨free.1, free.2.1⟩

/-- Behind the integral part of a literal there is no digit. -/
theorem head_behind_integral {points : Text} (detached : Detached points) (point : CodePoint)
    (ahead : (fractionText literal.fraction ++ (exponentText literal.exponent ++ points)).head? =
      some point) : point.isDigit = false := by
  cases spelled : literal.fraction with
  | some digits =>
      rw [spelled] at ahead
      cases ahead
      decide
  | none =>
      rw [spelled] at ahead
      exact (literal.head_behind_fraction detached point ahead).1

end NumberLiteral

/-- The run in front of a text that begins with a literal is that of the literal. -/
theorem NumberRun.scan_append {literal : NumberLiteral} {points : Text}
    (detached : Detached points) : scan (literal.text ++ points) = ofLiteral literal := by
  simp only [NumberLiteral.text, List.append_assoc, scan]
  -- What each part takes is known, because the parts behind it are.
  rw [literal.scanSign_text, List.drop_left,
    literal.scanIntegral_text (literal.head_behind_integral detached), List.drop_left,
    NumberLiteral.scanFraction_text literal.fraction (literal.head_behind_fraction detached),
    List.drop_left, NumberLiteral.scanExponent_text literal.exponent detached]
  rfl

/-- What the parts of a number make depends on the run only. -/
theorem PartsOf.of_sameRun {first second : NumberLiteral} {parts : Value}
    (sameRun : NumberRun.ofLiteral first = .ofLiteral second) (isParts : PartsOf first parts) :
    PartsOf second parts := by
  have integral : first.integral.val = second.integral.val := congrArg NumberRun.integral sameRun
  have fraction := congrArg NumberRun.fraction sameRun
  have exponent := congrArg NumberRun.exponent sameRun
  have text : first.text = second.text := congrArg NumberRun.text sameRun
  simp only [NumberRun.ofLiteral] at fraction exponent
  rwa [PartsOf, integral, fraction, exponent, text] at isParts

/-- The parts of a literal that is ahead. -/
theorem takes_numberParts {literal : NumberLiteral} {points : Text} (detached : Detached points)
    (ahead : cursor.rest = literal.text ++ points) (enough : cursor.rest.length < laps) :
    cursor.Reads
      (fun consumed product next => consumed = literal.text ∧ PartsOf literal product ∧
        next.depth = cursor.depth)
      False noFailure ((numberParts : Rule ν).evaluate laps resolve cursor.state).reply := by
  have run : NumberRun.scan cursor.rest = .ofLiteral literal := by
    rw [ahead, NumberRun.scan_append detached]
  refine (((reads_numberRun enough).weakenMatch ?_).weakenDecline ?_).weakenFail ?_
  · rintro _ product next - ⟨found, scanned, rfl, isParts, depth⟩
    have sameRun : NumberRun.ofLiteral found = .ofLiteral literal := scanned.symm.trans run
    exact ⟨congrArg NumberRun.text sameRun, isParts.of_sameRun sameRun, depth⟩
  · intro lacks
    rw [run] at lacks
    exact literal.integral.property.1 lacks
  · rintro consumed next error ⟨-, -, broken, -⟩
    rw [run, NumberRun.brokenOff?_ofLiteral] at broken
    cases broken

/-- An admitted literal that is ahead. -/
theorem takes_number {limits : Limits} {literal : NumberLiteral} {points : Text}
    (admits : limits.Admits literal) (detached : Detached points)
    (ahead : cursor.rest = literal.text ++ points) (enough : cursor.rest.length < laps) :
    cursor.Reads
      (fun consumed product next => consumed = literal.text ∧ product = scalar literal.value ∧
        next.depth = cursor.depth)
      False noFailure ((number limits : Rule ν).evaluate laps resolve cursor.state).reply := by
  refine Cursor.Reads.andThen (takes_numberParts detached ahead enough) ?_
  rintro consumed product next passes ⟨rfl, isParts, depth⟩
  show next.Reads _ _ _
    ((numberSteps limits cursor.state product).evaluate laps resolve next.state).reply
  rw [isParts.steps_of_admits admits]
  exact .here ⟨by simp, rfl, depth⟩

/-- Where neither a minus nor a digit is ahead, there is no number. -/
theorem declines_number (limits : Limits) (enough : cursor.rest.length < laps)
    (absent : ∀ point, cursor.rest.head? = some point →
      point.isDigit = false ∧ point ≠ CodePoint.ofChar '-') :
    cursor.Reads (fun _ _ _ => False) True noFailure
      ((number limits : Rule ν).evaluate laps resolve cursor.state).reply := by
  have noSign : scanSign cursor.rest = [] := by
    rw [scanSign, if_neg]
    intro ahead
    exact (absent _ ahead).2 rfl
  have noDigit : scanIntegral cursor.rest = [] := by
    cases ahead : cursor.rest with
    | nil => rfl
    | cons point others =>
        have free := absent point (by rw [ahead]; rfl)
        rw [scanIntegral, if_neg, List.takeWhile_cons_of_neg (by simp [free.1])]
        intro zero
        rw [Option.some.inj zero] at free
        exact absurd free.1 (by decide)
  have lacks : (NumberRun.scan cursor.rest).integral = [] := by
    simp only [NumberRun.scan, noSign, List.length_nil, List.drop_zero, noDigit]
  have parts : cursor.Reads (fun _ _ _ => False) True noFailure
      ((numberParts : Rule ν).evaluate laps resolve cursor.state).reply := by
    refine (((reads_numberRun enough).weakenMatch ?_).mayDecline).weakenFail ?_
    · rintro _ product next - ⟨literal, scanned, -⟩
      rw [scanned] at lacks
      exact literal.integral.property.1 lacks
    · rintro consumed next error ⟨-, present, -⟩
      exact present lacks
  exact parts.andThen_unmatched

end Descent.Document
