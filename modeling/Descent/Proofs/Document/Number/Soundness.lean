import Descent.Proofs.Document.Number.Parts

/-!
# Numbers consume literals

What the number rule consumes is the text of a literal, and its product is the number that the
literal stands for. A literal with too many digits is refused with an error of its own.
-/

namespace Descent.Document

variable {ν : Type} {laps : Nat} {resolve : ν → Behaviour} {cursor : Cursor}

/-- What `numberParts` makes of a literal. -/
def PartsOf (literal : NumberLiteral) (parts : Value) : Prop :=
  ∃ sign integral fraction exponent, parts = .tuple [sign, integral, fraction, exponent] ∧
    Spells integral literal.integral.val ∧
    fraction.same .none = (NumberLiteral.fractionText literal.fraction).isEmpty ∧
    exponent.same .none = (NumberLiteral.exponentText literal.exponent).isEmpty ∧
    Spells parts literal.text

/-- What is taken as a sign and as the digits behind it begins literals with any fraction and any
exponent. -/
theorem exists_literal (points : Text) {digits : Text} (taken : scanIntegral digits ≠ [])
    (fraction : Option Digits) (exponent : Option Exponent) :
    ∃ literal : NumberLiteral, literal.signText = scanSign points ∧
      literal.integral.val = scanIntegral digits ∧ literal.fraction = fraction ∧
      literal.exponent = exponent ∧
      literal.text = scanSign points ++ (scanIntegral digits ++
        (NumberLiteral.fractionText fraction ++ NumberLiteral.exponentText exponent)) := by
  have areDigits : ∀ digit ∈ scanIntegral digits, digit.isDigit := by
    intro digit mem
    rw [scanIntegral] at mem
    split at mem
    · rw [List.mem_singleton.mp mem]
      rfl
    · exact List.all_eq_true.mp List.all_takeWhile digit mem
  have zeroAlone : (scanIntegral digits).head? = some (CodePoint.ofChar '0') →
      (scanIntegral digits).length = 1 := by
    rw [scanIntegral]
    split
    · exact fun _ => rfl
    · rename_i noZero
      intro zero
      cases digits with
      | nil => cases zero
      | cons digit others =>
          rw [List.takeWhile_cons] at zero
          split at zero
          · exact absurd zero noZero
          · cases zero
  have signed : ∀ literal : NumberLiteral,
      literal.negative = decide (points.head? = some (CodePoint.ofChar '-')) →
      literal.signText = scanSign points := by
    intro literal negative
    simp [NumberLiteral.signText, scanSign, negative]
  refine ⟨⟨decide (points.head? = some (CodePoint.ofChar '-')),
    ⟨scanIntegral digits, taken, areDigits⟩, zeroAlone, fraction, exponent⟩, signed _ rfl, rfl, rfl,
    rfl, ?_⟩
  rw [NumberLiteral.text, signed _ rfl, List.append_assoc, List.append_assoc]

/-- Digits that complete a fraction or an exponent. -/
def zeroDigits : Digits := ⟨[CodePoint.ofChar '0'], by simp, by simp [CodePoint.isDigit]; decide⟩

/-- A rule for the fraction of a number or for its absence. -/
def ReadsFraction (laps : Nat) (resolve : ν → Behaviour) (rule : Rule ν) : Prop :=
  ∀ cursor : Cursor, cursor.rest.length < laps →
    cursor.Reads
      (fun consumed product next => ∃ fraction : Option Digits,
        consumed = NumberLiteral.fractionText fraction ∧ Spells product consumed ∧
        product.same .none = consumed.isEmpty ∧ next.depth = cursor.depth)
      False
      (fun consumed _ error => error.code = .expectationFailed ∧
        ∃ digits, consumed <+: NumberLiteral.fractionText (some digits))
      (rule.evaluate laps resolve cursor.state).reply

theorem readsFraction_of {digits : Rule ν} {onDecline : Prop}
    (readsDigits : ReadsDigits laps resolve onDecline digits) :
    ReadsFraction laps resolve (.optional (.sequence [char '.', digits]) .none) := by
  intro cursor enough
  refine Cursor.Reads.optional ((reads_fractionalPart readsDigits enough).mono ?_ id ?_)
    fun _ => ⟨none, rfl, rfl, rfl, rfl⟩
  · rintro consumed product next _ ⟨digits, rfl, -, described⟩
    exact ⟨some digits, rfl, described⟩
  · rintro _ next error ⟨code, rfl, -⟩
    exact ⟨code, zeroDigits, zeroDigits.val, rfl⟩

/-- A rule for the exponent of a number or for its absence. -/
def ReadsExponent (laps : Nat) (resolve : ν → Behaviour) (rule : Rule ν) : Prop :=
  ∀ cursor : Cursor, cursor.rest.length < laps →
    cursor.Reads
      (fun consumed product next => ∃ exponent : Option Exponent,
        consumed = NumberLiteral.exponentText exponent ∧ Spells product consumed ∧
        product.same .none = consumed.isEmpty ∧ next.depth = cursor.depth)
      False
      (fun consumed _ error => error.code = .expectationFailed ∧
        ∃ exponent, consumed <+: NumberLiteral.exponentText (some exponent))
      (rule.evaluate laps resolve cursor.state).reply

theorem readsExponent_of {digits : Rule ν} {onDecline : Prop}
    (readsDigits : ReadsDigits laps resolve onDecline digits) :
    ReadsExponent laps resolve (.optional (.sequence [.literalChoice tracked (tokens "eE"),
      .optional (.choice [char '+', char '-']) .none, digits]) .none) := by
  intro cursor enough
  refine Cursor.Reads.optional ((reads_exponentialPart readsDigits enough).mono ?_ id ?_)
    fun _ => ⟨none, rfl, rfl, rfl, rfl⟩
  · rintro consumed product next _ ⟨exponent, rfl, -, described⟩
    exact ⟨some exponent, rfl, described⟩
  · rintro _ next error ⟨code, ⟨capital, sign, rfl⟩, -⟩
    exact ⟨code, ⟨capital, sign, zeroDigits⟩, zeroDigits.val, rfl⟩

/-- Sign, integral part, fraction and exponent. -/
theorem reads_numberParts {fraction exponent : Rule ν}
    (readsFraction : ReadsFraction laps resolve fraction)
    (readsExponent : ReadsExponent laps resolve exponent) (enough : cursor.rest.length < laps) :
    cursor.Reads
      (fun consumed product next => ∃ literal : NumberLiteral, consumed = literal.text ∧
        PartsOf literal product ∧ next.depth = cursor.depth)
      (scanIntegral (cursor.rest.drop (scanSign cursor.rest).length) = [])
      (fun consumed _ error => error.code = .expectationFailed ∧ ∃ literal : NumberLiteral,
        literal.isWhole = false ∧ consumed <+: literal.text)
      ((Rule.sequence [.optional (char '-') .none, integralPart, fraction, exponent]).evaluate laps
        resolve cursor.state).reply := by
  refine Cursor.Reads.sequence ?_
  refine Cursor.Reads.parts_cons (reads_sign cursor).neverFails.neverDeclines ?_
  rintro _ signProduct first firstPasses ⟨rfl, signSpells, signDepth⟩
  have firstLength := firstPasses.length
  refine Cursor.Reads.parts_cons ((reads_integralPart (by omega)).neverFails.weakenDecline ?_) ?_
  · intro lacks
    have behind := congrArg (List.drop (scanSign cursor.rest).length) firstPasses.rest
    rw [List.drop_left] at behind
    rwa [behind]
  · rintro _ integralProduct second secondPasses ⟨present, rfl, integralSpells, integralDepth⟩
    have secondLength := secondPasses.length
    refine Cursor.Reads.parts_cons
      ((readsFraction second (by omega)).neverDeclines.weakenFail ?_) ?_
    · rintro consumed next error ⟨code, digits, missing, spelled⟩
      obtain ⟨literal, -, -, isFraction, -, texts⟩ :=
        exists_literal cursor.rest present (some digits) none
      refine ⟨code, literal, by simp [NumberLiteral.isWhole, isFraction], missing, ?_⟩
      simp [texts, NumberLiteral.exponentText, ← spelled]
    · rintro _ fractionProduct third thirdPasses
        ⟨fraction, rfl, fractionSpells, fractionNone, fractionDepth⟩
      have thirdLength := thirdPasses.length
      refine Cursor.Reads.parts_cons
        ((readsExponent third (by omega)).neverDeclines.weakenFail ?_) ?_
      · rintro consumed next error ⟨code, exponent, missing, spelled⟩
        obtain ⟨literal, -, -, -, isExponent, texts⟩ :=
          exists_literal cursor.rest present fraction (some exponent)
        refine ⟨code, literal, by simp [NumberLiteral.isWhole, isExponent], missing, ?_⟩
        simp [texts, ← spelled]
      · rintro _ exponentProduct fourth fourthPasses
          ⟨exponent, rfl, exponentSpells, exponentNone, exponentDepth⟩
        obtain ⟨literal, -, integral, rfl, rfl, texts⟩ :=
          exists_literal cursor.rest present fraction exponent
        refine .parts_nil ⟨literal, by simp [texts], ?_, ?_⟩
        · refine ⟨signProduct, integralProduct, fractionProduct, exponentProduct, rfl,
            by rwa [integral], fractionNone, exponentNone, ?_⟩
          have spells := Spells.cons signSpells (.cons integralSpells (.cons fractionSpells
            (.cons exponentSpells spells_nil)))
          rwa [List.append_nil, ← texts] at spells
        · rw [exponentDepth, fractionDepth, integralDepth, signDepth]

/-- A whole number is a sign and its digits. -/
theorem NumberLiteral.splitSign_text {literal : NumberLiteral} (whole : literal.isWhole) :
    Number.splitSign literal.text = (literal.negative, literal.integral.val) := by
  obtain ⟨negative, ⟨digits, present, areDigits⟩, zeroAlone, fraction, exponent⟩ := literal
  simp only [isWhole, Bool.and_eq_true, Option.isNone_iff_eq_none] at whole
  obtain ⟨rfl, rfl⟩ := whole
  cases negative with
  | true => simp [text, signText, fractionText, exponentText, Number.splitSign]
  | false =>
      obtain ⟨digit, others, rfl⟩ := List.exists_cons_of_ne_nil present
      have isDigit := areDigits digit (by simp)
      obtain ⟨noPlus, noMinus⟩ := ne_sign_of_isDigit isDigit
      simp [text, signText, fractionText, exponentText, Number.splitSign, noMinus, noPlus]

/-- A whole number with as many digits as are allowed is read. -/
theorem NumberLiteral.readWhole_text {limits : Limits} {literal : NumberLiteral}
    (whole : literal.isWhole) (admits : limits.Admits literal) :
    Number.readWhole limits.maxDigits literal.text = .ok
      (if literal.negative then -(literal.integral.val.decimalValue : Int)
      else literal.integral.val.decimalValue) := by
  rw [Number.readWhole, if_neg, Number.whole, splitSign_text whole]
  rw [splitSign_text whole]
  intro exceeds
  simp only [Bool.and_eq_true, decide_eq_true_eq] at exceeds
  have few := admits whole exceeds.1
  omega

/-- A whole number has no text for a fraction and none for an exponent. -/
theorem NumberLiteral.isEmpty_texts (literal : NumberLiteral) :
    ((fractionText literal.fraction).isEmpty && (exponentText literal.exponent).isEmpty) =
      literal.isWhole := by
  rw [isWhole]
  cases literal.fraction <;> cases literal.exponent <;> rfl

/-- The node of a literal is that of its parts. -/
theorem PartsOf.numberNode {limits : Limits} {literal : NumberLiteral} {parts : Value}
    (isParts : PartsOf literal parts) (admits : limits.Admits literal) :
    numberNode limits literal.isWhole parts = .ok (scalar literal.value) := by
  obtain ⟨sign, integral, fraction, exponent, -, -, -, -, spells⟩ := isParts
  rw [Document.numberNode, spells.joined?, NumberLiteral.value]
  cases isWhole : literal.isWhole with
  | true => simp [NumberLiteral.readWhole_text isWhole admits, Except.map]
  | false => rfl

/-- A literal with as many digits as are allowed gets its node. -/
theorem PartsOf.steps_of_admits {limits : Limits} {literal : NumberLiteral} {parts : Value}
    (isParts : PartsOf literal parts) (admits : limits.Admits literal) (start : State) :
    (numberSteps limits start parts : Steps ν) = .finish (scalar literal.value) := by
  have node := isParts.numberNode admits
  obtain ⟨sign, integral, fraction, exponent, rfl, spells, noFraction, noExponent, -⟩ := isParts
  have digits : integral.flatten.length = literal.integral.val.length := by
    rw [spells, List.length_map]
  have whole : (fraction.same .none && exponent.same .none) = literal.isWhole := by
    rw [noFraction, noExponent, literal.isEmpty_texts]
  simp only [numberSteps, digits, whole]
  rw [if_neg, node]
  · rfl
  · intro exceeds
    simp only [Bool.and_eq_true, decide_eq_true_eq] at exceeds
    have few := admits exceeds.1.1 exceeds.1.2
    omega

/-- A literal with more digits than are allowed is refused where it starts. -/
theorem PartsOf.steps_of_not_admits {limits : Limits} {literal : NumberLiteral} {parts : Value}
    (isParts : PartsOf literal parts) (exceeds : ¬ limits.Admits literal) (start : State) :
    ∃ following, (numberSteps limits start parts : Steps ν) =
      .apply (.escalate (tooManyDigits literal.integral.val.length limits.maxDigits start))
        following := by
  obtain ⟨sign, integral, fraction, exponent, rfl, spells, noFraction, noExponent, -⟩ := isParts
  have digits : integral.flatten.length = literal.integral.val.length := by
    rw [spells, List.length_map]
  have whole : (fraction.same .none && exponent.same .none) = literal.isWhole := by
    rw [noFraction, noExponent, literal.isEmpty_texts]
  simp only [Limits.Admits, Classical.not_imp, Nat.not_le] at exceeds
  simp only [numberSteps, digits, whole]
  rw [if_pos]
  · exact ⟨_, rfl⟩
  · simpa [and_assoc] using exceeds

/-- The error that a whole number has too many digits. -/
theorem exists_tooManyDigits (digits maxDigits : Nat) (start : Cursor) (state : State) :
    ∃ error, tooManyDigits digits maxDigits start.state state = .ok error ∧
      error.state = start.state ∧ error.code = .numberTooLarge := by
  obtain ⟨span, made⟩ := State.exists_span start.pos_nonneg
  refine ⟨.ofDiagnostic (.numberTooLarge digits maxDigits span (some start.state.pos))
    start.state, ?_, rfl, rfl⟩
  rw [tooManyDigits, ErrorAt.wording_of_span made, if_pos rfl]

/-- Steps that escalate end there. -/
theorem reply_escalate {errorAt : ErrorAt} {state : State} {error : ParseError}
    (worded : errorAt state = .ok error) (following : Value → Steps ν) :
    ((Steps.apply (.escalate errorAt) following).evaluate laps resolve state).reply =
      .failed error := by
  have fails : ((Rule.escalate errorAt : Rule ν).evaluate laps resolve state).reply =
      .failed error := by
    show (Behaviour.fail .escalation errorAt state).reply = _
    simp only [Behaviour.fail, worded]
  show (((Rule.escalate errorAt : Rule ν).evaluate laps resolve state).branch _ _).reply = _
  rw [Run.branch_of_failed fails]

/-- Steps that would escalate end in the fault that keeps the error from being worded. -/
theorem reply_escalate_error {errorAt : ErrorAt} {state : State} {fault : Fault}
    (unworded : errorAt state = .error fault) (following : Value → Steps ν) :
    ((Steps.apply (.escalate errorAt) following).evaluate laps resolve state).reply =
      .raised fault := by
  have raises : ((Rule.escalate errorAt : Rule ν).evaluate laps resolve state).reply =
      .raised fault := by
    show (Behaviour.fail .escalation errorAt state).reply = _
    simp only [Behaviour.fail, unworded, Run.raised, Run.ofReply]
  show (((Rule.escalate errorAt : Rule ν).evaluate laps resolve state).branch _ _).reply = _
  rw [Run.branch_of_raised raises]

/-- A number from a rule for its parts: the literal is one that is admitted, and a whole number that
is too long is a failure. -/
theorem reads_numberOf {parts : Rule ν} {onDecline : Prop}
    {onFail : Text → Cursor → ParseError → Prop} (limits : Limits)
    (reads : cursor.Reads
      (fun consumed product next => ∃ literal : NumberLiteral, consumed = literal.text ∧
        PartsOf literal product ∧ next.depth = cursor.depth)
      onDecline onFail (parts.evaluate laps resolve cursor.state).reply) :
    cursor.Reads
      (fun consumed product next => ∃ literal : NumberLiteral, consumed = literal.text ∧
        limits.Admits literal ∧ product = scalar literal.value ∧ next.depth = cursor.depth)
      onDecline
      (fun consumed next error => onFail consumed next error ∨ error.code = .numberTooLarge)
      ((Rule.derivation (.getState fun start => .apply parts fun product =>
        numberSteps limits start product) []).evaluate laps resolve cursor.state).reply := by
  show cursor.Reads _ _ _ ((parts.evaluate laps resolve cursor.state).branch
    (fun product here => (numberSteps limits cursor.state product).evaluate laps resolve here)
    fun _ => .declined).reply
  generalize reply : (parts.evaluate laps resolve cursor.state).reply = described at reads
  cases reads with
  | @matched _ product next passes holds =>
      obtain ⟨literal, rfl, isParts, depth⟩ := holds
      rw [Run.branch_of_matched reply]
      by_cases admits : limits.Admits literal
      · rw [isParts.steps_of_admits admits]
        exact .matched passes ⟨literal, rfl, admits, rfl, depth⟩
      · obtain ⟨following, steps⟩ := isParts.steps_of_not_admits admits cursor.state
        obtain ⟨error, worded, place, code⟩ := exists_tooManyDigits
          literal.integral.val.length limits.maxDigits cursor next.state
        rw [steps]
        show cursor.Reads _ _ _ ((Steps.apply _ following).evaluate laps resolve next.state).reply
        rw [reply_escalate worded]
        exact .failed (.refl cursor) place (.inr code)
  | declined lacks =>
      rw [Run.branch_of_declined reply]
      exact .declined lacks
  | failed passes place holds =>
      rw [Run.branch_of_failed reply]
      exact .failed passes place (.inl holds)
  | raised passes holds =>
      rw [Run.branch_of_raised reply]
      exact .raised passes (.inl holds)

/-- A number with its parts: the literal is one that is admitted, and a failure comes from a digit
that is missing or from a whole number that is too long. -/
theorem reads_number {fraction exponent : Rule ν} (limits : Limits)
    (readsFraction : ReadsFraction laps resolve fraction)
    (readsExponent : ReadsExponent laps resolve exponent) (enough : cursor.rest.length < laps) :
    cursor.Reads
      (fun consumed product next => ∃ literal : NumberLiteral, consumed = literal.text ∧
        limits.Admits literal ∧ product = scalar literal.value ∧ next.depth = cursor.depth)
      (scanIntegral (cursor.rest.drop (scanSign cursor.rest).length) = [])
      (fun consumed _ error => (error.code = .expectationFailed ∧ ∃ literal : NumberLiteral,
        limits.Admits literal ∧ consumed <+: literal.text) ∨ error.code = .numberTooLarge)
      ((Rule.derivation (.getState fun start => .apply
        (.sequence [.optional (char '-') .none, integralPart, fraction, exponent]) fun product =>
          numberSteps limits start product) []).evaluate laps resolve cursor.state).reply := by
  have parts := reads_numberParts readsFraction readsExponent enough
  refine (reads_numberOf limits parts).weakenFail ?_
  rintro consumed next error (⟨code, literal, notWhole, viable⟩ | code)
  · refine .inl ⟨code, literal, ?_, viable⟩
    intro isWhole
    rw [isWhole] at notWhole
    cases notWhole
  · exact .inr code

end Descent.Document
