import Descent.Proofs.Document.Lexeme

/-!
# Reading escapes

An escape in a string is a backslash with a letter, or with `u` and the four digits of a code unit.
Behind a high surrogate an escaped low surrogate is looked for and consumed with it. Behind the
backslash everything is mandatory, and what has been consumed when a part is missing is the
beginning of some escape.
-/

namespace Descent.Document

variable {ν : Type} {laps : Nat} {resolve : ν → Behaviour} {cursor : Cursor}

/-! ## Marks -/

/-- The quotes around a string. -/
theorem takesOne_quote :
    TakesOne laps resolve (char '"' : Rule ν) (· == CodePoint.ofChar '"') :=
  takesOne_char (by decide) (by decide)

/-- The backslash in front of an escape. -/
theorem takesOne_backslash :
    TakesOne laps resolve (char '\\' : Rule ν) (· == CodePoint.ofChar '\\') :=
  takesOne_char (by decide) (by decide)

/-- The letter of the escapes by number. -/
theorem takesOne_u : TakesOne laps resolve (char 'u' : Rule ν) (· == CodePoint.ofChar 'u') :=
  takesOne_char (by decide) (by decide)

/-! ## Hexadecimal digits -/

/-- A single character stands in a text if it is one of its characters. -/
theorem holds_singleton (point : CodePoint) (points : Text) :
    Text.holds [point] points = points.contains point := by
  induction points with
  | nil => rfl
  | cons first others inductionHypothesis =>
      rw [Text.holds, inductionHypothesis, List.contains_cons]
      simp [List.isPrefixOf]

/-- The digits of a code unit are those with a value. -/
theorem contains_hexDigits (point : CodePoint) :
    hexDigits.contains point = point.hexValue?.isSome := by
  rw [Bool.eq_iff_iff, CodePoint.hexValue?]
  simp only [hexDigits, text, String.reduceToList, List.map_cons, List.map_nil, CodePoint.ofChar,
    Char.reduceToNat, Fin.reduceFinMk, List.contains_eq_mem, List.mem_cons, List.not_mem_nil,
    or_false, Fin.ext_iff, CodePoint.isDigit, CodePoint.isBetween, Bool.and_eq_true,
    decide_eq_true_eq]
  split
  · simp only [Option.isSome_some, iff_true]
    omega
  · split
    · simp only [Option.isSome_some, iff_true]
      omega
    · split
      · simp only [Option.isSome_some, iff_true]
        omega
      · simp only [Option.isSome_none, Bool.false_eq_true, iff_false]
        omega

theorem takesOne_hexDigit :
    TakesOne laps resolve (hexDigit : Rule ν) fun point => point.hexValue?.isSome := by
  refine takesOne_trackColumn ?_ ?_
  · intro point
    rw [← contains_hexDigits, ← holds_singleton]
    rfl
  · intro point spelled
    constructor
    · rintro rfl
      exact absurd spelled (by decide)
    · rintro rfl
      exact absurd spelled (by decide)

/-! ## Code units -/

/-- Digits of a code unit that stop before their count is reached. -/
structure LacksHexDigit (count : Nat) (points consumed : Text) : Prop where
  fewer : consumed.length < count
  areHex : ∀ digit ∈ consumed, digit.hexValue?.isSome
  stops : ∃ behind, points = consumed ++ behind ∧
    ∀ point, behind.head? = some point → point.hexValue?.isSome = false

/-- A number of hexadecimal digits, each of them mandatory. -/
theorem reads_hexDigits (expectation : Text) (count : Nat) (cursor : Cursor) :
    cursor.Reads
      (fun consumed products next => consumed.length = count ∧
        (∀ digit ∈ consumed, digit.hexValue?.isSome) ∧ products = consumed.map .ofCodePoint ∧
        next.depth = cursor.depth)
      False
      (fun consumed _ error => error.code = .expectationFailed ∧
        LacksHexDigit count cursor.rest consumed)
      (Behaviour.collect ((Rule.failpoint hexDigit (.expecting expectation) : Rule ν).evaluate laps
        resolve) count cursor.state).reply := by
  induction count generalizing cursor with
  | zero => exact .here ⟨rfl, by simp, rfl, rfl⟩
  | succ count inductionHypothesis =>
      refine ((takesOne_hexDigit.mandatory expectation cursor).weakenFail ?_).branch ?_ False.elim
      · rintro _ next error ⟨code, rfl, lacks⟩
        exact ⟨code, by simp, by simp, cursor.rest, rfl, lacks⟩
      rintro _ _ next passes ⟨digit, isHex, rfl, rfl, depth⟩
      rw [passes.not_samePosition (by simp)]
      refine Cursor.Reads.map ((inductionHypothesis next).mono ?_ id ?_)
      · rintro consumed _ last _ ⟨counted, areHex, rfl, lastDepth⟩
        refine ⟨by simp [counted], ?_, rfl, by rw [lastDepth, depth]⟩
        simpa using ⟨isHex, areHex⟩
      · rintro consumed last error ⟨code, fewer, areHex, behind, rest, stops⟩
        refine ⟨code, by simpa using fewer, by simpa using ⟨isHex, areHex⟩, behind, ?_, stops⟩
        rw [passes.rest, rest, List.append_assoc]

/-- Digits that all have a value spell a number. -/
theorem hexNumber_of_areHex {digits : Text} (present : digits ≠ [])
    (areHex : ∀ digit ∈ digits, digit.hexValue?.isSome) :
    hexNumber digits = .ok (.int (digits.foldl
      (fun number digit => number * 16 + digit.hexValue?.getD 0) 0 : Nat)) := by
  have values : digits.mapM CodePoint.hexValue? =
      some (digits.map fun digit => digit.hexValue?.getD 0) := by
    clear present
    induction digits with
    | nil => rfl
    | cons digit others inductionHypothesis =>
        obtain ⟨value, spelled⟩ := Option.isSome_iff_exists.mp (areHex digit (by simp))
        rw [List.mapM_cons, inductionHypothesis fun other mem => areHex other (by simp [mem]),
          List.map_cons, spelled]
        rfl
  obtain ⟨digit, others, rfl⟩ := List.exists_cons_of_ne_nil present
  simp only [hexNumber, values, List.foldl_map]

/-- The number of four digits. -/
theorem reads_unitOf {digits : Rule ν} {onDecline : Prop}
    {onFail : Text → Cursor → ParseError → Prop}
    (reads : cursor.Reads
      (fun consumed product next => consumed.length = 4 ∧
        (∀ digit ∈ consumed, digit.hexValue?.isSome) ∧
        product = .tuple (consumed.map .ofCodePoint) ∧ next.depth = cursor.depth)
      onDecline onFail (digits.evaluate laps resolve cursor.state).reply) :
    cursor.Reads
      (fun consumed product next => ∃ unit : CodeUnit, consumed = unit.digits ∧
        product = .int unit.number ∧ next.depth = cursor.depth)
      onDecline onFail
      ((Rule.semantics digits fun digits => match digits.joined? with
        | some digits => ⟨hexNumber digits, []⟩
        | none => .fault .typeMismatch).evaluate laps resolve cursor.state).reply := by
  refine reads.semantics ?_
  rintro consumed _ next ⟨counted, areHex, rfl, depth⟩
  refine ⟨_, ?_, ⟨consumed, counted, areHex⟩, rfl, rfl, depth⟩
  simp only [(spells_run consumed).joined?]
  exact hexNumber_of_areHex (by rintro rfl; cases counted) areHex

/-- Four hexadecimal digits. -/
theorem reads_hexQuad (cursor : Cursor) :
    cursor.Reads
      (fun consumed product next => ∃ unit : CodeUnit, consumed = unit.digits ∧
        product = .int unit.number ∧ next.depth = cursor.depth)
      False
      (fun consumed _ error => error.code = .expectationFailed ∧
        LacksHexDigit 4 cursor.rest consumed)
      ((hexQuad : Rule ν).evaluate laps resolve cursor.state).reply := by
  refine reads_unitOf ((reads_hexDigits _ 4 cursor).neverDeclines.andThen ?_)
  rintro consumed _ next passes ⟨counted, areHex, rfl, depth⟩
  rw [if_neg (by simp [counted])]
  refine .here ?_
  simpa using ⟨counted, areHex, depth⟩

/-- Digits that stop too early begin some code unit. -/
theorem LacksHexDigit.exists_unit {points consumed : Text}
    (lacks : LacksHexDigit 4 points consumed) : ∃ unit : CodeUnit, consumed <+: unit.digits := by
  have fewer := lacks.fewer
  refine ⟨⟨consumed ++ List.replicate (4 - consumed.length) (CodePoint.ofChar '0'), ?_, ?_⟩,
    List.prefix_append _ _⟩
  · rw [List.length_append, List.length_replicate]
    omega
  · intro digit mem
    rcases List.mem_append.mp mem with inside | added
    · exact lacks.areHex digit inside
    · rw [List.eq_of_mem_replicate added]
      decide

/-- Four digits that are ahead. -/
theorem takes_hexQuad {unit : CodeUnit} {points : Text}
    (ahead : cursor.rest = unit.digits ++ points) :
    cursor.Reads
      (fun consumed product next => consumed = unit.digits ∧ product = .int unit.number ∧
        next.rest = points ∧ next.depth = cursor.depth)
      False noFailure ((hexQuad : Rule ν).evaluate laps resolve cursor.state).reply := by
  refine (reads_hexQuad cursor).mono ?_ id ?_
  · rintro _ _ next passes ⟨other, rfl, rfl, depth⟩
    have texts := passes.rest.symm.trans ahead
    obtain ⟨digits, rest⟩ := List.append_inj texts
      (by rw [other.length_digits, unit.length_digits])
    have same : other = unit := by
      cases other
      cases unit
      cases digits
      rfl
    exact ⟨digits, by rw [same], rest, depth⟩
  · rintro consumed next error ⟨-, fewer, -, behind, rest, stops⟩
    -- The digit at which the reading stops is one of the unit's own.
    have texts := rest.symm.trans ahead
    have inside := fewer
    rw [← unit.length_digits] at inside
    have found : behind.head? = some (unit.digits[consumed.length]) := by
      have atStop := congrArg (fun points : Text => points[consumed.length]?) texts
      simp only [List.getElem?_append_right (Nat.le_refl _), Nat.sub_self,
        List.getElem?_append_left inside, List.getElem?_eq_getElem inside] at atStop
      rw [List.head?_eq_getElem?, atStop]
    have refused := stops _ found
    rw [unit.areHex _ (List.getElem_mem inside)] at refused
    cases refused

/-- A rule for the digits of a code unit, mandatory or not. -/
def ReadsUnit (laps : Nat) (resolve : ν → Behaviour) (onDecline : Prop) (rule : Rule ν) : Prop :=
  ∀ cursor : Cursor,
    cursor.Reads
      (fun consumed product next => ∃ unit : CodeUnit, consumed = unit.digits ∧
        product = .int unit.number ∧ next.depth = cursor.depth)
      onDecline
      (fun consumed _ error => error.code = .expectationFailed ∧
        ∃ unit : CodeUnit, consumed <+: unit.digits)
      (rule.evaluate laps resolve cursor.state).reply

theorem readsUnit_hexQuad : ReadsUnit laps resolve False (hexQuad : Rule ν) := by
  intro cursor
  refine (reads_hexQuad cursor).weakenFail ?_
  rintro consumed next error ⟨code, lacks⟩
  exact ⟨code, lacks.exists_unit⟩

/-- Characters in a row that are accepted, up to a number of them. -/
theorem TakesOne.upTo {rule : Rule ν} {accepts : CodePoint → Bool}
    (takes : TakesOne laps resolve rule accepts) (limit : Nat) (cursor : Cursor) :
    cursor.Reads
      (fun consumed products next => consumed.length ≤ limit ∧
        (∀ point ∈ consumed, accepts point) ∧ products = consumed.map .ofCodePoint ∧
        next.depth = cursor.depth)
      False noFailure
      (Behaviour.collect (rule.evaluate laps resolve) limit cursor.state).reply := by
  induction limit generalizing cursor with
  | zero => exact .here ⟨Nat.le_refl 0, by simp, rfl, rfl⟩
  | succ limit inductionHypothesis =>
      refine (takes cursor).branch ?_ (fun _ => .here ⟨by simp, by simp, rfl, rfl⟩)
      rintro _ _ next passes ⟨point, accepted, rfl, rfl, depth⟩
      rw [passes.not_samePosition (by simp)]
      refine Cursor.Reads.map ((inductionHypothesis next).weakenMatch ?_)
      rintro consumed _ last _ ⟨counted, areAccepted, rfl, lastDepth⟩
      refine ⟨by simpa using counted, ?_, rfl, by rw [lastDepth, depth]⟩
      simpa using ⟨accepted, areAccepted⟩

/-- Digits of a code unit that may be missing. -/
theorem readsUnit_hexDigits :
    ReadsUnit laps resolve True (.semantics (.exactly 4 hexDigit) fun digits =>
      match digits.joined? with
      | some digits => ⟨hexNumber digits, []⟩
      | none => .fault .typeMismatch : Rule ν) := by
  intro cursor
  have digits : cursor.Reads
      (fun consumed product next => consumed.length = 4 ∧
        (∀ digit ∈ consumed, digit.hexValue?.isSome) ∧
        product = .tuple (consumed.map .ofCodePoint) ∧ next.depth = cursor.depth)
      True noFailure
      ((Rule.exactly 4 hexDigit : Rule ν).evaluate laps resolve cursor.state).reply := by
    refine (takesOne_hexDigit.upTo 4 cursor).neverDeclines.andThen ?_
    rintro consumed _ next passes ⟨counted, areHex, rfl, depth⟩
    rw [List.length_map]
    split
    · exact .declined trivial
    · refine .here ?_
      simpa using ⟨by omega, areHex, depth⟩
  exact (reads_unitOf digits).neverFails

/-- Backslash, `u` and four digits. -/
theorem reads_escapedUnit {digits : Rule ν} {onDecline : Prop}
    (reads : ReadsUnit laps resolve onDecline digits) (cursor : Cursor) :
    cursor.Reads
      (fun consumed product next => ∃ unit : CodeUnit,
        consumed = (StringItem.coded unit).text ∧ product = .int unit.number ∧
        next.depth = cursor.depth)
      True
      (fun consumed _ error => error.code = .expectationFailed ∧
        ∃ unit : CodeUnit, consumed <+: (StringItem.coded unit).text)
      ((Rule.semantics (.sequence [char '\\', char 'u', digits]) (Rule.itemAt 2)).evaluate laps
        resolve cursor.state).reply := by
  have parts : cursor.Reads
      (fun consumed product next => ∃ unit : CodeUnit, ∃ first second,
        consumed = (StringItem.coded unit).text ∧
        product = .tuple [first, second, .int unit.number] ∧ next.depth = cursor.depth)
      True
      (fun consumed _ error => error.code = .expectationFailed ∧
        ∃ unit : CodeUnit, consumed <+: (StringItem.coded unit).text)
      ((Rule.sequence [char '\\', char 'u', digits] : Rule ν).evaluate laps resolve
        cursor.state).reply := by
    refine Cursor.Reads.sequence ?_
    refine Cursor.Reads.parts_cons (takesOne_backslash cursor).neverFails.mayDecline ?_
    rintro _ first second _ ⟨point, same, rfl, rfl, depth⟩
    rw [beq_iff_eq] at same
    subst same
    refine Cursor.Reads.parts_cons (takesOne_u second).neverFails.mayDecline ?_
    rintro _ _ third _ ⟨point, same, rfl, rfl, letterDepth⟩
    rw [beq_iff_eq] at same
    subst same
    refine Cursor.Reads.parts_cons ((reads third).mayDecline.weakenFail ?_) ?_
    · rintro consumed next error ⟨code, unit, viable⟩
      exact ⟨code, unit, by simpa [StringItem.text] using viable⟩
    · rintro _ _ fourth _ ⟨unit, rfl, rfl, unitDepth⟩
      refine .parts_nil ⟨unit, _, _, by simp [StringItem.text], rfl, ?_⟩
      rw [unitDepth, letterDepth, depth]
  refine parts.semantics ?_
  rintro consumed _ next ⟨unit, first, second, rfl, rfl, depth⟩
  exact ⟨_, rfl, unit, rfl, rfl, depth⟩

/-- The reading of a code unit that is ahead. -/
theorem takes_escapedUnit {unit : CodeUnit} {points : Text}
    (ahead : cursor.rest = (StringItem.coded unit).text ++ points) :
    cursor.Reads
      (fun consumed product next => consumed = (StringItem.coded unit).text ∧
        product = .int unit.number ∧ next.depth = cursor.depth)
      False noFailure ((escapedUnit : Rule ν).evaluate laps resolve cursor.state).reply := by
  have parts : cursor.Reads
      (fun consumed product next => ∃ first second, consumed = (StringItem.coded unit).text ∧
        product = .tuple [first, second, .int unit.number] ∧ next.depth = cursor.depth)
      False noFailure
      ((Rule.sequence [char '\\', char 'u', hexQuad] : Rule ν).evaluate laps resolve
        cursor.state).reply := by
    refine Cursor.Reads.sequence ?_
    refine Cursor.Reads.parts_cons (takesOne_backslash.takes ahead (by simp)) ?_
    rintro _ _ second _ ⟨rfl, rfl, secondAhead, depth⟩
    refine Cursor.Reads.parts_cons (takesOne_u.takes secondAhead (by simp)) ?_
    rintro _ _ third _ ⟨rfl, rfl, thirdAhead, letterDepth⟩
    refine Cursor.Reads.parts_cons (takes_hexQuad thirdAhead) ?_
    rintro _ _ fourth _ ⟨rfl, rfl, -, unitDepth⟩
    refine .parts_nil ⟨_, _, by simp [StringItem.text], rfl, ?_⟩
    rw [unitDepth, letterDepth, depth]
  refine parts.semantics ?_
  rintro consumed _ next ⟨first, second, rfl, rfl, depth⟩
  exact ⟨_, rfl, rfl, rfl, depth⟩

/-- Where no backslash with `u` behind it is ahead, there is no code unit. -/
theorem declines_escapedUnit
    (absent : ¬ [CodePoint.ofChar '\\', CodePoint.ofChar 'u'] <+: cursor.rest) :
    cursor.Reads (fun _ _ _ => False) True noFailure
      ((escapedUnit : Rule ν).evaluate laps resolve cursor.state).reply := by
  have parts : cursor.Reads (fun _ _ _ => False) True noFailure
      ((Rule.sequence [char '\\', char 'u', hexQuad] : Rule ν).evaluate laps resolve
        cursor.state).reply := by
    refine Cursor.Reads.sequence ?_
    refine Cursor.Reads.parts_cons (takesOne_backslash cursor).mayDecline ?_
    rintro _ _ second passes ⟨point, same, rfl, rfl, -⟩
    refine Cursor.Reads.parts_cons (takesOne_u second).mayDecline ?_
    rintro _ _ third furtherPasses ⟨other, sameLetter, rfl, rfl, -⟩
    rw [beq_iff_eq] at same sameLetter
    refine absurd ⟨third.rest, ?_⟩ absent
    rw [passes.rest, furtherPasses.rest, same, sameLetter]
    rfl
  exact parts.semantics_unmatched

/-! ## Escapes by number -/

/-- The number of a surrogate pair is that of a code point. -/
theorem joinSurrogates_lt {high low : Nat} (isHigh : CodePoint.isHighSurrogate high)
    (isLow : CodePoint.isLowSurrogate low) :
    CodePoint.joinSurrogates high low < 0x110000 := by
  rw [CodePoint.isHighSurrogate, Bool.and_eq_true, decide_eq_true_eq, decide_eq_true_eq] at isHigh
  rw [CodePoint.isLowSurrogate, Bool.and_eq_true, decide_eq_true_eq, decide_eq_true_eq] at isLow
  have bound : ∀ {first second : Nat}, first < 0x400 → second < 0x400 →
      0x10000 + first * 0x400 + second < 0x110000 := by omega
  exact bound (Nat.sub_lt_left_of_lt_add isHigh.1 isHigh.2)
    (Nat.sub_lt_left_of_lt_add isLow.1 isLow.2)

/-- A number inside the code space has a character. -/
theorem finishWith_character {number : Nat} (inside : number < 0x110000) :
    (finishWith (character number) : Steps ν) = .finish (.ofCodePoint ⟨number, inside⟩) := by
  rw [character, CodePoint.ofNat?, dif_pos inside]
  rfl

/-- A rule for an escaped low surrogate. -/
def ReadsLowSurrogate (laps : Nat) (resolve : ν → Behaviour) (rule : Rule ν) : Prop :=
  ∀ cursor : Cursor,
    cursor.Reads
      (fun consumed product next => ∃ unit : CodeUnit, CodePoint.isLowSurrogate unit.number ∧
        consumed = (StringItem.coded unit).text ∧ product = .int unit.number ∧
        next.depth = cursor.depth)
      True
      (fun consumed _ error => error.code = .expectationFailed ∧
        ∃ unit : CodeUnit, consumed <+: (StringItem.coded unit).text)
      (rule.evaluate laps resolve cursor.state).reply

theorem readsLowSurrogate_of {digits : Rule ν} {onDecline : Prop}
    (reads : ReadsUnit laps resolve onDecline digits) :
    ReadsLowSurrogate laps resolve (.accepting
      (.semantics (.sequence [char '\\', char 'u', digits]) (Rule.itemAt 2)) isLowSurrogate) := by
  intro cursor
  refine ((reads_escapedUnit reads cursor).accepting fun _ _ _ _ _ => trivial).weakenMatch ?_
  rintro _ _ next _ ⟨⟨unit, rfl, rfl, depth⟩, isLow⟩
  exact ⟨unit, isLow, rfl, rfl, depth⟩

/-- A code unit that is no high surrogate stands for itself. -/
theorem unitSteps_of_not_high {unit : CodeUnit}
    (notHigh : CodePoint.isHighSurrogate unit.number = false) :
    (unitSteps (.int unit.number) : Steps ν) = .finish (.ofCodePoint unit.point) := by
  rw [unitSteps, if_neg (by simp [notHigh])]
  exact finishWith_character _

/-- Behind a high surrogate a low one is looked for; it joins it. -/
theorem unitSteps_of_high {unit : CodeUnit} (isHigh : CodePoint.isHighSurrogate unit.number) :
    ∃ following : Value → Steps ν,
      unitSteps (.int unit.number) = .apply (.optional lowSurrogate .none) following ∧
      following .none = .finish (.ofCodePoint unit.point) ∧
      ∀ (low : CodeUnit) (isLow : CodePoint.isLowSurrogate low.number),
        following (.int low.number) =
          .finish (.ofCodePoint ⟨_, joinSurrogates_lt isHigh isLow⟩) := by
  rw [unitSteps, if_pos (by simpa using isHigh)]
  exact ⟨_, rfl, finishWith_character _, fun low isLow => finishWith_character _⟩

/-- Steps for what follows the digits of an escape: nothing, or an escaped low surrogate. -/
def ReadsPartner (laps : Nat) (resolve : ν → Behaviour) (steps : Steps ν) : Prop :=
  ∀ cursor : Cursor,
    cursor.Reads
      (fun consumed product next => (∃ items, consumed = StringItem.texts items) ∧
        (∃ point, product = .ofCodePoint point) ∧ next.depth = cursor.depth)
      False
      (fun consumed _ error => error.code = .expectationFailed ∧
        ∃ items, consumed <+: StringItem.texts items)
      (steps.evaluate laps resolve cursor.state).reply

theorem readsPartner_finish (point : CodePoint) :
    ReadsPartner laps resolve (.finish (.ofCodePoint point) : Steps ν) :=
  fun _ => .finish ⟨⟨[], rfl⟩, ⟨point, rfl⟩, rfl⟩

/-- A low surrogate is looked for, and steps follow that end with a character in any case. -/
theorem readsPartner_optional {low : Rule ν} {following : Value → Steps ν}
    (reads : ReadsLowSurrogate laps resolve low)
    (alone : ∃ point, following .none = .finish (.ofCodePoint point))
    (joined : ∀ unit : CodeUnit, CodePoint.isLowSurrogate unit.number →
      ∃ point, following (.int unit.number) = .finish (.ofCodePoint point)) :
    ReadsPartner laps resolve (.apply (.optional low .none) following) := by
  intro cursor
  have lookahead : cursor.Reads
      (fun consumed product next => (∃ items, consumed = StringItem.texts items) ∧
        (∃ point, following product = .finish (.ofCodePoint point)) ∧
        next.depth = cursor.depth)
      False
      (fun consumed _ error => error.code = .expectationFailed ∧
        ∃ items, consumed <+: StringItem.texts items)
      ((Rule.optional low .none : Rule ν).evaluate laps resolve cursor.state).reply := by
    refine Cursor.Reads.optional ((reads cursor).mono ?_ id ?_) fun _ => ⟨⟨[], rfl⟩, alone, rfl⟩
    · rintro _ _ next _ ⟨unit, isLow, rfl, rfl, depth⟩
      exact ⟨⟨[.coded unit], by simp [StringItem.texts]⟩, joined unit isLow, depth⟩
    · rintro consumed next error ⟨code, unit, viable⟩
      exact ⟨code, [.coded unit], by simpa [StringItem.texts] using viable⟩
  refine lookahead.neverDeclines.apply ?_
  rintro consumed product next _ ⟨spelled, ⟨point, finished⟩, depth⟩
  rw [finished]
  exact .finish ⟨by simpa using spelled, ⟨point, rfl⟩, depth⟩

theorem readsPartner_unitSteps (unit : CodeUnit) :
    ReadsPartner laps resolve (unitSteps (.int unit.number) : Steps ν) := by
  by_cases isHigh : CodePoint.isHighSurrogate unit.number
  · obtain ⟨following, steps, alone, joined⟩ : ∃ following : Value → Steps ν, _ :=
      unitSteps_of_high isHigh
    rw [steps]
    exact readsPartner_optional (readsLowSurrogate_of readsUnit_hexQuad) ⟨_, alone⟩
      fun low isLow => ⟨_, joined low isLow⟩
  · rw [unitSteps_of_not_high (by simpa using isHigh)]
    exact readsPartner_finish _

/-- A rule for what stands behind the backslash of an escape. -/
def ReadsEscaped (laps : Nat) (resolve : ν → Behaviour) (onDecline : Prop) (rule : Rule ν) : Prop :=
  ∀ cursor : Cursor,
    cursor.Reads
      (fun consumed product next =>
        (∃ items, CodePoint.ofChar '\\' :: consumed = StringItem.texts items) ∧
        (∃ point, product = .ofCodePoint point) ∧ next.depth = cursor.depth)
      onDecline
      (fun consumed _ error => error.code = .expectationFailed ∧
        ∃ items, CodePoint.ofChar '\\' :: consumed <+: StringItem.texts items)
      (rule.evaluate laps resolve cursor.state).reply

/-- An escape by number. -/
theorem readsEscaped_unit {digits : Rule ν} {following : Value → Steps ν} {onDecline : Prop}
    (reads : ReadsUnit laps resolve onDecline digits)
    (readsFollowing : ∀ unit : CodeUnit, ReadsPartner laps resolve (following (.int unit.number))) :
    ReadsEscaped laps resolve True
      (.derivation (.apply (char 'u') fun _ => .apply digits following) []) := by
  intro cursor
  refine Cursor.Reads.derivation
    (Cursor.Reads.apply (takesOne_u cursor).neverFails.mayDecline ?_)
  rintro _ _ first _ ⟨point, same, rfl, rfl, depth⟩
  rw [beq_iff_eq] at same
  subst same
  refine Cursor.Reads.apply ((reads first).mayDecline.weakenFail ?_) ?_
  · rintro consumed next error ⟨code, unit, viable⟩
    exact ⟨code, [.coded unit], by simpa [StringItem.texts, StringItem.text] using viable⟩
  · rintro _ _ second _ ⟨unit, rfl, rfl, unitDepth⟩
    refine (readsFollowing unit second).mono ?_ False.elim ?_
    · rintro _ product third _ ⟨⟨items, rfl⟩, isPoint, lowDepth⟩
      refine ⟨⟨.coded unit :: items, ?_⟩, isPoint, by rw [lowDepth, unitDepth, depth]⟩
      simp [StringItem.texts, StringItem.text]
    · rintro _ next error ⟨code, items, viable⟩
      refine ⟨code, .coded unit :: items, ?_⟩
      simpa [StringItem.texts, StringItem.text, List.prefix_append_right_inj] using viable

/-! ## Escapes by letter -/

/-- The escapes that the rules know are those of the phrases. -/
theorem mem_shortEscapes_iff {entry : Char × Char} :
    entry ∈ shortEscapes ↔ ∃ escape : ShortEscape, entry = (escape.letter, escape.character) := by
  simp only [shortEscapes, List.mem_cons, List.not_mem_nil, or_false]
  constructor
  · rintro (same | same | same | same | same | same | same | same)
    · exact ⟨.quote, same⟩
    · exact ⟨.backslash, same⟩
    · exact ⟨.slash, same⟩
    · exact ⟨.backspace, same⟩
    · exact ⟨.formFeed, same⟩
    · exact ⟨.lineFeed, same⟩
    · exact ⟨.carriageReturn, same⟩
    · exact ⟨.tab, same⟩
  · rintro ⟨escape, rfl⟩
    cases escape <;> simp [ShortEscape.letter, ShortEscape.character]

/-- What the letter of an escape stands for. -/
theorem shortEscapeValue_of_mem {escape : Char × Char} (known : escape ∈ shortEscapes) :
    shortEscapeValue (token escape.1) = .ok (token escape.2) := by
  simp only [shortEscapes, List.mem_cons, List.not_mem_nil, or_false] at known
  rcases known with rfl | rfl | rfl | rfl | rfl | rfl | rfl | rfl <;> rfl

/-- The letters of the escapes. -/
def escapeLetters : Text := shortEscapes.map fun escape => CodePoint.ofChar escape.1

/-- A letter that stands for a character. -/
theorem takesOne_escapeLetter :
    TakesOne laps resolve
      (.literalChoice tracked (shortEscapes.map fun escape => token escape.1) : Rule ν)
      fun point => escapeLetters.contains point := by
  have spelled : (shortEscapes.map fun escape => token escape.1) =
      escapeLetters.map .ofCodePoint := by
    rw [escapeLetters, List.map_map]
    rfl
  rw [spelled]
  exact takesOne_literalChoice
    (by simp [escapeLetters, shortEscapes, CodePoint.carriageReturn, CodePoint.lineFeed,
      CodePoint.ofChar])

/-- An escape by letter, behind its backslash. -/
theorem reads_shortEscape (cursor : Cursor) :
    cursor.Reads
      (fun consumed product next => ∃ escape : ShortEscape,
        consumed = [CodePoint.ofChar escape.letter] ∧ product = token escape.character ∧
        next.depth = cursor.depth)
      (∀ point, cursor.rest.head? = some point → escapeLetters.contains point = false)
      noFailure ((shortEscape : Rule ν).evaluate laps resolve cursor.state).reply := by
  refine (takesOne_escapeLetter cursor).semantics ?_
  rintro _ _ next ⟨point, isLetter, rfl, rfl, depth⟩
  rw [List.contains_iff_mem, escapeLetters, List.mem_map] at isLetter
  obtain ⟨entry, known, rfl⟩ := isLetter
  obtain ⟨escape, rfl⟩ := mem_shortEscapes_iff.mp known
  exact ⟨_, shortEscapeValue_of_mem known, escape, rfl, rfl, depth⟩

theorem readsEscaped_short : ReadsEscaped laps resolve True (shortEscape : Rule ν) := by
  intro cursor
  refine (reads_shortEscape cursor).neverFails.mayDecline.weakenMatch ?_
  rintro _ _ next _ ⟨escape, rfl, rfl, depth⟩
  refine ⟨⟨[.short escape], ?_⟩, ⟨_, rfl⟩, depth⟩
  simp [StringItem.texts, StringItem.text]

/-- By number or by letter. -/
theorem ReadsEscaped.choice {byNumber byLetter : Rule ν}
    (first : ReadsEscaped laps resolve True byNumber)
    (second : ReadsEscaped laps resolve True byLetter) :
    ReadsEscaped laps resolve True (.choice [byNumber, byLetter]) := fun cursor =>
  (first cursor).choice_cons fun _ => (second cursor).choice_cons fun _ => .choice_nil trivial

theorem ReadsEscaped.mandatory {rule : Rule ν} {onDecline : Prop}
    (reads : ReadsEscaped laps resolve onDecline rule) (expectation : Text) :
    ReadsEscaped laps resolve False (.failpoint rule (.expecting expectation)) := by
  intro cursor
  refine (reads cursor).failpoint ?_
  intro _ error code
  refine ⟨code, [.short .slash], ?_⟩
  simp [StringItem.texts, StringItem.text]

/-! ## Items of strings -/

/-- A rule for items in the contents of a string. -/
def ReadsItems (laps : Nat) (resolve : ν → Behaviour) (rule : Rule ν) : Prop :=
  ∀ cursor : Cursor,
    cursor.Reads
      (fun consumed product next => consumed ≠ [] ∧
        (∃ items, consumed = StringItem.texts items) ∧ (∃ point, product = .ofCodePoint point) ∧
        next.depth = cursor.depth)
      True
      (fun consumed _ error => error.code = .expectationFailed ∧
        ∃ items, consumed <+: StringItem.texts items)
      (rule.evaluate laps resolve cursor.state).reply

/-- A backslash and what follows it. -/
theorem ReadsEscaped.items {rule : Rule ν} {onDecline : Prop}
    (reads : ReadsEscaped laps resolve onDecline rule) :
    ReadsItems laps resolve (.derivation (.apply (char '\\') fun _ => .apply rule .finish) []) := by
  intro cursor
  refine Cursor.Reads.derivation
    (Cursor.Reads.apply (takesOne_backslash cursor).neverFails.mayDecline ?_)
  rintro _ _ first _ ⟨point, same, rfl, rfl, depth⟩
  rw [beq_iff_eq] at same
  subst same
  refine Cursor.Reads.apply (reads first).mayDecline ?_
  rintro consumed product next _ ⟨⟨items, spelled⟩, isPoint, furtherDepth⟩
  refine .finish ⟨by simp, ⟨items, ?_⟩, isPoint, by rw [furtherDepth, depth]⟩
  simpa using spelled

theorem readsItems_escape : ReadsItems laps resolve (escape : Rule ν) :=
  (((readsEscaped_unit readsUnit_hexQuad readsPartner_unitSteps).choice
    readsEscaped_short).mandatory _).items

end Descent.Document
