import Descent.Proofs.Document.Number.Soundness

/-!
# The run of a number

What the parts of a number take is a function of the text ahead: each takes as much as it can of
what the parts before it have left. The run that they take together is that of a literal, or it
breaks off at a digit that is missing. What holds of numbers is read off the run.
-/

namespace Descent.Document

variable {ν : Type} {laps : Nat} {resolve : ν → Behaviour} {cursor : Cursor}

/-- The first of some digits. -/
theorem Digits.exists_head (digits : Digits) :
    ∃ digit others, digits.val = digit :: others ∧ digit.isDigit := by
  obtain ⟨digit, others, spelled⟩ := List.exists_cons_of_ne_nil digits.property.1
  exact ⟨digit, others, spelled, digits.property.2 digit (by simp [spelled])⟩

/-- A point alone is no fraction. -/
theorem NumberLiteral.fractionText_ne (fraction : Option Digits) :
    fractionText fraction ≠ [CodePoint.ofChar '.'] := by
  cases fraction with
  | some digits => simpa [fractionText] using digits.property.1
  | none => simp [fractionText]

/-- What the parts of a number take from a text. -/
@[ext] structure NumberRun where
  sign : Text
  integral : Text
  fraction : Text
  exponent : Text

namespace NumberRun

/-- The run in front of a text. Each part takes as much as it can of what the parts before it have
left. -/
def scan (points : Text) : NumberRun :=
  let sign := scanSign points
  let unsigned := points.drop sign.length
  let integral := scanIntegral unsigned
  let behind := unsigned.drop integral.length
  let fraction := scanFraction behind
  ⟨sign, integral, fraction, scanExponent (behind.drop fraction.length)⟩

variable (run : NumberRun)

/-- All that the parts take. -/
def text : Text := run.sign ++ run.integral ++ run.fraction ++ run.exponent

/-- Whether there is neither a fraction nor an exponent. -/
def isWhole : Bool := run.fraction.isEmpty && run.exponent.isEmpty

/-- The text up to the place of a digit that is missing: behind the point, or else behind the
exponent mark and its sign. -/
def brokenOff? : Option Text :=
  if run.fraction = [CodePoint.ofChar '.'] then some (run.sign ++ run.integral ++ run.fraction)
  else if run.exponent ≠ [] ∧ ¬ run.exponent.any CodePoint.isDigit then some run.text
  else none

/-- The number that the run spells. -/
def value : Value :=
  if run.isWhole then
    .int (if run.sign.isEmpty then (run.integral.decimalValue : Int)
      else -(run.integral.decimalValue : Int))
  else .float (Number.double run.text)

/-- The run of a literal. -/
def ofLiteral (literal : NumberLiteral) : NumberRun :=
  ⟨literal.signText, literal.integral.val, NumberLiteral.fractionText literal.fraction,
    NumberLiteral.exponentText literal.exponent⟩

variable (literal : NumberLiteral)

/-- The run of a literal is its text … -/
theorem text_ofLiteral : (ofLiteral literal).text = literal.text := rfl

/-- … it is whole if the literal is … -/
theorem isWhole_ofLiteral : (ofLiteral literal).isWhole = literal.isWhole := literal.isEmpty_texts

/-- … and it spells the value of the literal. -/
theorem value_ofLiteral : (ofLiteral literal).value = literal.value := by
  rw [value, isWhole_ofLiteral, text_ofLiteral, NumberLiteral.value, ofLiteral,
    NumberLiteral.signText]
  cases literal.negative with
  | true => rfl
  | false => rfl

/-- No digit is missing from a literal. -/
theorem brokenOff?_ofLiteral : (ofLiteral literal).brokenOff? = none := by
  have fraction : (ofLiteral literal).fraction ≠ [CodePoint.ofChar '.'] :=
    NumberLiteral.fractionText_ne _
  rw [brokenOff?, if_neg fraction, if_neg]
  rintro ⟨present, lacks⟩
  cases spelled : literal.exponent with
  | none => exact present (by rw [ofLiteral, spelled]; rfl)
  | some exponent =>
      obtain ⟨digit, others, digits, isDigit⟩ := Digits.exists_head exponent.digits
      refine lacks (List.any_eq_true.mpr ⟨digit, ?_, isDigit⟩)
      simp [ofLiteral, spelled, NumberLiteral.exponentText, Exponent.text, digits]

/-- What is left behind a part. -/
theorem drop_taken {points taken rest : Text} (ahead : points = taken ++ rest) :
    points.drop taken.length = rest := by
  rw [ahead, List.drop_left]

variable {points first second third : Text}

/-- The digits before the point are those behind the sign … -/
theorem scan_integral (signed : points = scanSign points ++ first) :
    (scan points).integral = scanIntegral first := by
  simp only [scan, drop_taken signed]

/-- … the fraction is what follows them … -/
theorem scan_fraction (signed : points = scanSign points ++ first)
    (whole : first = scanIntegral first ++ second) :
    (scan points).fraction = scanFraction second := by
  simp only [scan, drop_taken signed, drop_taken whole]

/-- … and the exponent is what follows the fraction. -/
theorem scan_exponent (signed : points = scanSign points ++ first)
    (whole : first = scanIntegral first ++ second)
    (fractional : second = scanFraction second ++ third) :
    (scan points).exponent = scanExponent third := by
  simp only [scan, drop_taken signed, drop_taken whole, drop_taken fractional]

end NumberRun

/-- The parts of a number take the run that is ahead. It is that of a literal, or it breaks off. -/
theorem reads_numberRun (enough : cursor.rest.length < laps) :
    cursor.Reads
      (fun consumed product next => ∃ literal : NumberLiteral,
        NumberRun.scan cursor.rest = .ofLiteral literal ∧ consumed = literal.text ∧
        PartsOf literal product ∧ next.depth = cursor.depth)
      ((NumberRun.scan cursor.rest).integral = [])
      (fun consumed next error => error.code = .expectationFailed ∧
        (NumberRun.scan cursor.rest).integral ≠ [] ∧
        (NumberRun.scan cursor.rest).brokenOff? = some consumed ∧ next.depth = cursor.depth)
      ((numberParts : Rule ν).evaluate laps resolve cursor.state).reply := by
  refine Cursor.Reads.sequence ?_
  refine Cursor.Reads.parts_cons (reads_sign cursor).neverFails.neverDeclines ?_
  rintro _ signProduct first firstPasses ⟨rfl, signSpells, signDepth⟩
  have firstLength := firstPasses.length
  have integral := NumberRun.scan_integral firstPasses.rest
  refine Cursor.Reads.parts_cons ((reads_integralPart (by omega)).neverFails.weakenDecline ?_) ?_
  · intro lacks
    rwa [integral]
  · rintro _ integralProduct second secondPasses ⟨present, rfl, integralSpells, integralDepth⟩
    have secondLength := secondPasses.length
    have fraction := NumberRun.scan_fraction firstPasses.rest secondPasses.rest
    refine Cursor.Reads.parts_cons ((reads_fraction (by omega)).neverDeclines.weakenFail ?_) ?_
    · rintro _ next error ⟨code, start, rfl, missingDepth⟩
      refine ⟨code, by rwa [integral], ?_, by rw [missingDepth, integralDepth, signDepth]⟩
      rw [NumberRun.brokenOff?, fraction, if_pos start, integral, List.append_assoc]
      rfl
    · rintro _ fractionProduct third thirdPasses
        ⟨digits, spelledFraction, rfl, fractionSpells, fractionNone, fractionDepth⟩
      have thirdLength := thirdPasses.length
      have exponent := NumberRun.scan_exponent firstPasses.rest secondPasses.rest thirdPasses.rest
      refine Cursor.Reads.parts_cons ((reads_exponent (by omega)).neverDeclines.weakenFail ?_) ?_
      · rintro _ next error ⟨code, ⟨capital, sign, start⟩, rfl, missingDepth⟩
        refine ⟨code, by rwa [integral], ?_,
          by rw [missingDepth, fractionDepth, integralDepth, signDepth]⟩
        have noDot : scanFraction second.rest ≠ [CodePoint.ofChar '.'] := by
          rw [spelledFraction]
          exact NumberLiteral.fractionText_ne _
        have noDigit : scanExponent third.rest ≠ [] ∧
            ¬ (scanExponent third.rest).any CodePoint.isDigit := by
          rw [start]
          cases capital <;> cases sign <;> decide
        rw [NumberRun.brokenOff?, fraction, if_neg noDot, exponent, if_pos noDigit, NumberRun.text,
          integral, fraction, exponent, List.append_assoc, List.append_assoc]
        rfl
      · rintro _ exponentProduct fourth fourthPasses
          ⟨power, spelledExponent, rfl, exponentSpells, exponentNone, exponentDepth⟩
        obtain ⟨literal, signText, integralText, rfl, rfl, texts⟩ :=
          exists_literal cursor.rest present digits power
        refine .parts_nil ⟨literal, ?_, ?_, ?_, ?_⟩
        · exact NumberRun.ext signText.symm (integral.trans integralText.symm)
            (fraction.trans spelledFraction) (exponent.trans spelledExponent)
        · rw [texts, spelledFraction, spelledExponent, List.append_nil]
        · refine ⟨signProduct, integralProduct, fractionProduct, exponentProduct, rfl, ?_, ?_, ?_,
            ?_⟩
          · rwa [integralText]
          · rwa [← spelledFraction]
          · rwa [← spelledExponent]
          · have spells := Spells.cons signSpells (.cons integralSpells (.cons fractionSpells
              (.cons exponentSpells spells_nil)))
            rwa [List.append_nil, spelledFraction, spelledExponent, ← texts] at spells
        · rw [exponentDepth, fractionDepth, integralDepth, signDepth]

end Descent.Document
