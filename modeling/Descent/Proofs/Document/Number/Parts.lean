import Descent.Proofs.Document.Lexeme

/-!
# The parts of a number

Every part of a number takes from the front of a text as much as it can. What it takes is computed
by `scanSign`, `scanIntegral`, `scanFraction` and `scanExponent`. Once a point or an exponent mark
is consumed, the digits behind it are missed where they are absent; up to there the text is the
beginning of a number.
-/

namespace Descent.Document

variable {ν : Type} {laps : Nat} {resolve : ν → Behaviour} {cursor : Cursor}

/-! ## Runs of digits -/

/-- A digit other than zero. -/
theorem takesOne_nonzeroDigit :
    TakesOne laps resolve (nonzeroDigit : Rule ν)
      fun point => point.isDigit && point != CodePoint.ofChar '0' := by
  have spelled : TakesOne laps resolve (nonzeroDigit : Rule ν) _ :=
    takesOne_literalChoice
      (by simp [text, CodePoint.carriageReturn, CodePoint.lineFeed, CodePoint.ofChar])
  refine spelled.congr ?_
  intro point
  rw [Bool.eq_iff_iff]
  simp only [text, String.reduceToList, List.map_cons, List.map_nil, CodePoint.ofChar,
    Char.reduceToNat, Fin.reduceFinMk, List.contains_eq_mem, List.mem_cons, List.not_mem_nil,
    or_false, Fin.ext_iff, CodePoint.isDigit, CodePoint.isBetween, Bool.and_eq_true,
    decide_eq_true_eq, bne_iff_ne, ne_eq]
  omega

theorem takesOne_digit : TakesOne laps resolve (digit : Rule ν) CodePoint.isDigit := by
  have zero : TakesOne laps resolve (char '0' : Rule ν) _ := takesOne_char (by decide) (by decide)
  refine (zero.choice_cons (takesOne_nonzeroDigit.choice_cons .choice_nil)).congr ?_
  intro point
  by_cases isZero : point = CodePoint.ofChar '0'
  · subst isZero
    decide
  · rw [beq_false_of_ne isZero, bne_iff_ne.mpr isZero]
    simp

/-- Repeating a rule for one character takes all characters in a row that are accepted. -/
theorem TakesOne.lap {rule : Rule ν} {accepts : CodePoint → Bool}
    (takes : TakesOne laps resolve rule accepts) :
    Lap (rule.evaluate laps resolve) (fun _ => True)
      (fun cursor consumed product next => ∃ point, accepts point ∧ consumed = [point] ∧
        product = .ofCodePoint point ∧ next.depth = cursor.depth)
      (fun cursor => ∀ point, cursor.rest.head? = some point → accepts point = false)
      (fun _ => noFailure)
      (fun cursor consumed products next => consumed = cursor.rest.takeWhile accepts ∧
        products = consumed.map .ofCodePoint ∧ next.depth = cursor.depth) where
  reads := fun cursor _ => takes cursor
  consumes := by
    rintro cursor consumed product next ⟨point, -, rfl, -⟩
    simp
  reaches := fun _ _ _ => trivial
  stops := by
    intro cursor _ lacks
    refine ⟨?_, rfl, rfl⟩
    cases ahead : cursor.rest with
    | nil => rfl
    | cons point rest =>
        have refused := lacks point (by rw [ahead]; rfl)
        rw [List.takeWhile_cons_of_neg (by simp [refused])]
  continues := by
    rintro cursor consumed product next more products last passes
      ⟨point, accepted, rfl, rfl, depth⟩ - ⟨rfl, rfl, lastDepth⟩
    refine ⟨?_, rfl, by rw [lastDepth, depth]⟩
    rw [passes.rest]
    exact (List.takeWhile_cons_of_pos accepted).symm
  fails := fun _ fails => fails

/-- Any number of digits. -/
theorem reads_digits (enough : cursor.rest.length < laps) :
    cursor.Reads
      (fun consumed product next => consumed = cursor.rest.takeWhile CodePoint.isDigit ∧
        product = .tuple (consumed.map .ofCodePoint) ∧ next.depth = cursor.depth)
      False noFailure
      ((Rule.zeroOrMore digit : Rule ν).evaluate laps resolve cursor.state).reply := by
  refine (takesOne_digit.lap.zeroOrMore trivial enough).weakenMatch ?_
  rintro consumed product next passes ⟨products, rfl, taken, rfl, depth⟩
  exact ⟨taken, rfl, depth⟩

/-- One digit or more. -/
theorem reads_someDigits (enough : cursor.rest.length < laps) :
    cursor.Reads
      (fun consumed product next => ∃ digits : Digits, consumed = digits.val ∧
        consumed = cursor.rest.takeWhile CodePoint.isDigit ∧ Spells product consumed ∧
        next.depth = cursor.depth)
      (cursor.rest.takeWhile CodePoint.isDigit = []) noFailure
      ((Rule.oneOrMore digit : Rule ν).evaluate laps resolve cursor.state).reply := by
  refine ((takesOne_digit.lap.oneOrMore trivial enough).weakenMatch ?_).weakenDecline ?_
  · rintro consumed product next passes ⟨products, rfl, some, taken, rfl, depth⟩
    refine ⟨⟨consumed, by simpa using some, ?_⟩, rfl, taken, spells_run consumed, depth⟩
    intro digit mem
    rw [taken] at mem
    exact List.all_eq_true.mp List.all_takeWhile digit mem
  · rintro ⟨consumed, next, passes, taken, none, -⟩
    rw [← taken]
    simpa using none.symm

/-- No digit is a sign. -/
theorem ne_sign_of_isDigit {digit : CodePoint} (isDigit : digit.isDigit) :
    digit ≠ CodePoint.ofChar '+' ∧ digit ≠ CodePoint.ofChar '-' := by
  constructor
  · rintro rfl
    exact absurd isDigit (by decide)
  · rintro rfl
    exact absurd isDigit (by decide)

/-! ## The parts of a number -/

/-- The sign in front of a text. -/
def scanSign (points : Text) : Text :=
  if points.head? = some (CodePoint.ofChar '-') then [CodePoint.ofChar '-'] else []

/-- The digits before the point in front of a text: zero alone, or a run of digits. -/
def scanIntegral (points : Text) : Text :=
  if points.head? = some (CodePoint.ofChar '0') then [CodePoint.ofChar '0']
  else points.takeWhile CodePoint.isDigit

/-- The point in front of a text and the digits behind it. -/
def scanFraction (points : Text) : Text :=
  if points.head? = some (CodePoint.ofChar '.') then
    CodePoint.ofChar '.' :: points.tail.takeWhile CodePoint.isDigit
  else []

/-- The sign of an exponent in front of a text. -/
def scanExponentSign (points : Text) : ExponentSign :=
  if points.head? = some (CodePoint.ofChar '+') then .plus
  else if points.head? = some (CodePoint.ofChar '-') then .minus
  else .absent

/-- The exponent mark in front of a text, with the sign and the digits behind it. -/
def scanExponent : Text → Text
  | [] => []
  | mark :: rest =>
    if Number.isExponentMark mark then
      mark :: ((scanExponentSign rest).text ++
        (rest.drop (scanExponentSign rest).text.length).takeWhile CodePoint.isDigit)
    else []

/-- The sign. -/
theorem reads_sign (cursor : Cursor) :
    cursor.Reads
      (fun consumed product next => consumed = scanSign cursor.rest ∧ Spells product consumed ∧
        next.depth = cursor.depth)
      False noFailure
      ((Rule.optional (char '-') .none : Rule ν).evaluate laps resolve cursor.state).reply := by
  have minus : TakesOne laps resolve (char '-' : Rule ν) _ :=
    takesOne_char (by decide) (by decide)
  refine Cursor.Reads.optional ((minus cursor).weakenMatch ?_) ?_
  · rintro consumed product next passes ⟨point, same, rfl, rfl, depth⟩
    rw [beq_iff_eq] at same
    subst same
    refine ⟨?_, rfl, depth⟩
    rw [scanSign, passes.rest]
    rfl
  · intro lacks
    refine ⟨?_, rfl, rfl⟩
    rw [scanSign, if_neg]
    intro ahead
    simpa using lacks _ ahead

/-- The digits before the point. -/
theorem reads_integralPart (enough : cursor.rest.length < laps) :
    cursor.Reads
      (fun consumed product next => consumed ≠ [] ∧ consumed = scanIntegral cursor.rest ∧
        Spells product consumed ∧ next.depth = cursor.depth)
      (scanIntegral cursor.rest = []) noFailure
      ((integralPart : Rule ν).evaluate laps resolve cursor.state).reply := by
  have zero : TakesOne laps resolve (char '0' : Rule ν) _ :=
    takesOne_char (by decide) (by decide)
  refine Cursor.Reads.choice_cons ((zero cursor).weakenMatch ?_) fun noZero => ?_
  · rintro consumed product next passes ⟨point, same, rfl, rfl, depth⟩
    rw [beq_iff_eq] at same
    subst same
    refine ⟨by simp, ?_, rfl, depth⟩
    rw [scanIntegral, passes.rest]
    rfl
  have run : scanIntegral cursor.rest = cursor.rest.takeWhile CodePoint.isDigit := by
    rw [scanIntegral, if_neg]
    intro ahead
    simpa using noZero _ ahead
  rw [run]
  refine Cursor.Reads.choice_cons (Cursor.Reads.sequence ?_) fun lacks => .choice_nil lacks
  refine Cursor.Reads.parts_cons ((takesOne_nonzeroDigit cursor).weakenDecline ?_) ?_
  · intro lacks
    cases ahead : cursor.rest with
    | nil => rfl
    | cons point others =>
        have notZero := noZero point (by rw [ahead]; rfl)
        have refused := lacks point (by rw [ahead]; rfl)
        rw [List.takeWhile_cons_of_neg]
        simpa [bne, notZero] using refused
  · rintro _ _ first passes ⟨point, isDigit, rfl, rfl, depth⟩
    rw [Bool.and_eq_true] at isDigit
    have shorter := passes.length
    refine Cursor.Reads.parts_cons (reads_digits (by omega)).neverDeclines ?_
    rintro more _ second furtherPasses ⟨taken, rfl, furtherDepth⟩
    refine .parts_nil ⟨by simp, ?_, ?_, by rw [furtherDepth, depth]⟩
    · rw [passes.rest, List.append_nil, taken]
      exact (List.takeWhile_cons_of_pos isDigit.1).symm
    · exact .cons (spells_point point) (.cons (spells_run more) spells_nil)

/-- A rule for the digits behind a point or an exponent mark, mandatory or not. -/
def ReadsDigits (laps : Nat) (resolve : ν → Behaviour) (onDecline : Prop) (rule : Rule ν) : Prop :=
  ∀ cursor : Cursor, cursor.rest.length < laps →
    cursor.Reads
      (fun consumed product next => ∃ digits : Digits, consumed = digits.val ∧
        consumed = cursor.rest.takeWhile CodePoint.isDigit ∧ Spells product consumed ∧
        next.depth = cursor.depth)
      onDecline
      (fun consumed next error => error.code = .expectationFailed ∧ consumed = [] ∧
        cursor.rest.takeWhile CodePoint.isDigit = [] ∧ next.depth = cursor.depth)
      (rule.evaluate laps resolve cursor.state).reply

/-- Digits that may be missing. -/
theorem readsDigits_some : ReadsDigits laps resolve True (.oneOrMore digit : Rule ν) :=
  fun _ enough => (reads_someDigits enough).neverFails.mayDecline

/-- Digits that have to follow. -/
theorem readsDigits_mandatory (expectation : Text) :
    ReadsDigits laps resolve False
      (.failpoint (.oneOrMore digit) (.expecting expectation) : Rule ν) := by
  intro cursor enough
  refine Cursor.Reads.failpoint
    (reads_someDigits enough).neverFails ?_
  intro lacks error code
  exact ⟨code, rfl, lacks, rfl⟩

/-- A point and the digits behind it. -/
theorem reads_fractionalPart {digits : Rule ν} {onDecline : Prop}
    (readsDigits : ReadsDigits laps resolve onDecline digits) (enough : cursor.rest.length < laps) :
    cursor.Reads
      (fun consumed product next => ∃ digits : Digits,
        consumed = CodePoint.ofChar '.' :: digits.val ∧ consumed = scanFraction cursor.rest ∧
        Spells product consumed ∧ product.same .none = false ∧ next.depth = cursor.depth)
      (scanFraction cursor.rest = [] ∨ onDecline)
      (fun consumed next error => error.code = .expectationFailed ∧
        consumed = [CodePoint.ofChar '.'] ∧ consumed = scanFraction cursor.rest ∧
        next.depth = cursor.depth)
      ((Rule.sequence [char '.', digits]).evaluate laps resolve cursor.state).reply := by
  have dot : TakesOne laps resolve (char '.' : Rule ν) _ :=
    takesOne_char (by decide) (by decide)
  refine Cursor.Reads.sequence ?_
  refine Cursor.Reads.parts_cons ((dot cursor).neverFails.weakenDecline ?_) ?_
  · intro lacks
    left
    rw [scanFraction, if_neg]
    intro ahead
    simpa using lacks _ ahead
  · rintro _ _ first passes ⟨point, same, rfl, rfl, depth⟩
    rw [beq_iff_eq] at same
    subst same
    have shorter := passes.length
    have scanned : scanFraction cursor.rest =
        CodePoint.ofChar '.' :: first.rest.takeWhile CodePoint.isDigit := by
      rw [scanFraction, passes.rest]
      rfl
    rw [scanned]
    refine Cursor.Reads.parts_cons
      (((readsDigits first (by omega)).weakenDecline .inr).weakenFail ?_) ?_
    · rintro consumed next error ⟨code, rfl, lacks, missingDepth⟩
      rw [lacks]
      exact ⟨code, rfl, rfl, by rw [missingDepth, depth]⟩
    · rintro _ product second _ ⟨digits, rfl, taken, spells, furtherDepth⟩
      refine .parts_nil ⟨digits, by simp, ?_, ?_, rfl, by rw [furtherDepth, depth]⟩
      · rw [List.append_nil, taken]
        rfl
      · exact .cons (spells_point _) (.cons spells spells_nil)

/-- The fraction, if a point is ahead. -/
theorem reads_fraction (enough : cursor.rest.length < laps) :
    cursor.Reads
      (fun consumed product next => ∃ fraction : Option Digits,
        consumed = NumberLiteral.fractionText fraction ∧ consumed = scanFraction cursor.rest ∧
        Spells product consumed ∧ product.same .none = consumed.isEmpty ∧
        next.depth = cursor.depth)
      False
      (fun consumed next error => error.code = .expectationFailed ∧
        consumed = [CodePoint.ofChar '.'] ∧ consumed = scanFraction cursor.rest ∧
        next.depth = cursor.depth)
      ((Rule.optional fractionalPart .none : Rule ν).evaluate laps resolve cursor.state).reply := by
  refine Cursor.Reads.optional
    ((reads_fractionalPart (readsDigits_mandatory _) enough).weakenMatch ?_) ?_
  · rintro consumed product next passes ⟨digits, rfl, described⟩
    exact ⟨some digits, rfl, described⟩
  · rintro (lacks | impossible)
    · exact ⟨none, rfl, lacks.symm, rfl, rfl, rfl⟩
    · exact impossible.elim

theorem takesOne_exponentMark :
    TakesOne laps resolve (.literalChoice tracked (tokens "eE") : Rule ν)
      Number.isExponentMark := by
  have spelled : TakesOne laps resolve (.literalChoice tracked (tokens "eE") : Rule ν) _ :=
    takesOne_literalChoice
      (by simp [text, CodePoint.carriageReturn, CodePoint.lineFeed, CodePoint.ofChar])
  refine spelled.congr ?_
  intro point
  rw [Bool.eq_iff_iff]
  simp [text, Number.isExponentMark]

/-- The sign of an exponent. -/
theorem reads_exponentSign (cursor : Cursor) :
    cursor.Reads
      (fun consumed product next => consumed = (scanExponentSign cursor.rest).text ∧
        Spells product consumed ∧ next.depth = cursor.depth)
      False noFailure
      ((Rule.optional (.choice [char '+', char '-']) .none : Rule ν).evaluate laps resolve
        cursor.state).reply := by
  have plus : TakesOne laps resolve (char '+' : Rule ν) _ :=
    takesOne_char (by decide) (by decide)
  have minus : TakesOne laps resolve (char '-' : Rule ν) _ :=
    takesOne_char (by decide) (by decide)
  refine Cursor.Reads.optional
    ((plus.choice_cons (minus.choice_cons .choice_nil) cursor).weakenMatch ?_) ?_
  · rintro consumed product next passes ⟨point, same, rfl, rfl, depth⟩
    refine ⟨?_, spells_point point, depth⟩
    simp only [Bool.or_false, Bool.or_eq_true, beq_iff_eq] at same
    rw [scanExponentSign, passes.rest]
    obtain rfl | rfl := same
    · rfl
    · rfl
  · intro lacks
    have noPlus : cursor.rest.head? ≠ some (CodePoint.ofChar '+') :=
      fun ahead => absurd (lacks _ ahead) (by decide)
    have noMinus : cursor.rest.head? ≠ some (CodePoint.ofChar '-') :=
      fun ahead => absurd (lacks _ ahead) (by decide)
    rw [scanExponentSign, if_neg noPlus, if_neg noMinus]
    exact ⟨rfl, rfl, rfl⟩

/-- How an exponent begins. -/
def exponentStart (capital : Bool) (sign : ExponentSign) : Text :=
  CodePoint.ofChar (if capital then 'E' else 'e') :: sign.text

/-- An exponent mark is one of two letters. -/
theorem exists_capital {mark : CodePoint} (isMark : Number.isExponentMark mark) :
    ∃ capital : Bool, mark = CodePoint.ofChar (if capital then 'E' else 'e') := by
  simp only [Number.isExponentMark, Bool.or_eq_true, decide_eq_true_eq] at isMark
  obtain rfl | rfl := isMark
  · exact ⟨false, rfl⟩
  · exact ⟨true, rfl⟩

/-- An exponent mark, an optional sign and the digits behind them. -/
theorem reads_exponentialPart {digits : Rule ν} {onDecline : Prop}
    (readsDigits : ReadsDigits laps resolve onDecline digits) (enough : cursor.rest.length < laps) :
    cursor.Reads
      (fun consumed product next => ∃ exponent : Exponent, consumed = exponent.text ∧
        consumed = scanExponent cursor.rest ∧ Spells product consumed ∧
        product.same .none = false ∧ next.depth = cursor.depth)
      (scanExponent cursor.rest = [] ∨ onDecline)
      (fun consumed next error => error.code = .expectationFailed ∧
        (∃ capital sign, consumed = exponentStart capital sign) ∧
        consumed = scanExponent cursor.rest ∧ next.depth = cursor.depth)
      ((Rule.sequence [.literalChoice tracked (tokens "eE"),
        .optional (.choice [char '+', char '-']) .none, digits]).evaluate laps resolve
          cursor.state).reply := by
  refine Cursor.Reads.sequence ?_
  refine Cursor.Reads.parts_cons ((takesOne_exponentMark cursor).neverFails.weakenDecline ?_) ?_
  · intro lacks
    left
    cases ahead : cursor.rest with
    | nil => rfl
    | cons point others =>
        have refused := lacks point (by rw [ahead]; rfl)
        rw [scanExponent, if_neg (by simp [refused])]
  · rintro _ _ first passes ⟨mark, isMark, rfl, rfl, depth⟩
    have shorter := passes.length
    refine Cursor.Reads.parts_cons (reads_exponentSign first).neverFails.neverDeclines ?_
    rintro _ signProduct second signPasses ⟨rfl, signSpells, signDepth⟩
    have evenShorter := signPasses.length
    have scanned : scanExponent cursor.rest = mark :: ((scanExponentSign first.rest).text ++
        second.rest.takeWhile CodePoint.isDigit) := by
      have behind := congrArg (List.drop (scanExponentSign first.rest).text.length)
        signPasses.rest
      rw [List.drop_left] at behind
      rw [passes.rest, List.singleton_append, scanExponent, if_pos isMark, behind]
    obtain ⟨capital, rfl⟩ := exists_capital isMark
    rw [scanned]
    refine Cursor.Reads.parts_cons
      (((readsDigits second (by omega)).weakenDecline .inr).weakenFail ?_) ?_
    · rintro consumed next error ⟨code, rfl, lacks, missingDepth⟩
      rw [lacks]
      exact ⟨code, ⟨capital, scanExponentSign first.rest, by simp [exponentStart]⟩, by simp,
        by rw [missingDepth, signDepth, depth]⟩
    · rintro _ product third _ ⟨digits, rfl, taken, spells, furtherDepth⟩
      refine .parts_nil ⟨⟨capital, scanExponentSign first.rest, digits⟩, ?_, ?_, ?_, rfl, ?_⟩
      · simp [Exponent.text]
      · simp [taken]
      · exact .cons (spells_point _) (.cons signSpells (.cons spells spells_nil))
      · rw [furtherDepth, signDepth, depth]

/-- The exponent, if its mark is ahead. -/
theorem reads_exponent (enough : cursor.rest.length < laps) :
    cursor.Reads
      (fun consumed product next => ∃ exponent : Option Exponent,
        consumed = NumberLiteral.exponentText exponent ∧ consumed = scanExponent cursor.rest ∧
        Spells product consumed ∧ product.same .none = consumed.isEmpty ∧
        next.depth = cursor.depth)
      False
      (fun consumed next error => error.code = .expectationFailed ∧
        (∃ capital sign, consumed = exponentStart capital sign) ∧
        consumed = scanExponent cursor.rest ∧ next.depth = cursor.depth)
      ((Rule.optional exponentialPart .none : Rule ν).evaluate laps resolve
        cursor.state).reply := by
  refine Cursor.Reads.optional
    ((reads_exponentialPart (readsDigits_mandatory _) enough).weakenMatch ?_) ?_
  · rintro consumed product next passes ⟨exponent, rfl, described⟩
    exact ⟨some exponent, rfl, described⟩
  · rintro (lacks | impossible)
    · exact ⟨none, rfl, lacks.symm, rfl, rfl, rfl⟩
    · exact impossible.elim

end Descent.Document
