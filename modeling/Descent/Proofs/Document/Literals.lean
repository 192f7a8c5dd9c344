import Descent.Proofs.Document.Number.Completeness
import Descent.Proofs.Document.String.Completeness

/-!
# What literals are read as

The rules for strings and for numbers, described completely: at every place in every text, with any
counters in the context, the reply is a function of what lies ahead. Soundness and completeness of
the rules meet here. A literal has no line break in it, so the state behind it is known as well.

For a number the reply depends on the run of characters that its parts take from the front of the
text, whether that run is a literal or breaks off.
-/

namespace Descent.Document

variable {ν : Type} {laps : Nat} {resolve : ν → Behaviour} {cursor : Cursor}

/-! ## Moving along a line -/

/-- No character of the text belongs to a line break. -/
def Unbroken (points : Text) : Prop :=
  ∀ point ∈ points, point ≠ CodePoint.carriageReturn ∧ point ≠ CodePoint.lineFeed

/-- An empty text has no line break. -/
theorem unbroken_nil : Unbroken [] := List.forall_mem_nil _

/-- Neither has a text behind a character of no line break … -/
theorem Unbroken.cons {point : CodePoint} {rest : Text} (unbroken : Unbroken rest)
    (noBreak : point ≠ CodePoint.carriageReturn ∧ point ≠ CodePoint.lineFeed) :
    Unbroken (point :: rest) :=
  List.forall_mem_cons.mpr ⟨noBreak, unbroken⟩

/-- … nor have two such texts in a row. -/
theorem Unbroken.append {first second : Text} (unbroken : Unbroken first)
    (unbrokenToo : Unbroken second) : Unbroken (first ++ second) := fun point held =>
  (List.mem_append.mp held).elim (unbroken point) (unbrokenToo point)

/-- A text without line breaks moves the column on. -/
theorem track_of_unbroken {points : Text} (unbroken : Unbroken points) (line column : Int) :
    track points (line, column) = (line, column + points.length) := by
  induction points generalizing column with
  | nil => simp [track]
  | cons point rest inductionHypothesis =>
      obtain ⟨noReturn, noFeed⟩ := unbroken point List.mem_cons_self
      have step : trackPoint point rest.head? (line, column) = (line, column + 1) := by
        simp [trackPoint, noReturn, noFeed]
      rw [track, step, inductionHypothesis fun other held =>
        unbroken other (List.mem_cons_of_mem point held), List.length_cons]
      simp only [Prod.mk.injEq, true_and]
      omega

/-- The cursor behind a text without line breaks. -/
def Cursor.along (cursor : Cursor) (consumed rest : Text) : Cursor :=
  ⟨cursor.before ++ consumed, rest, cursor.line, cursor.column + consumed.length, cursor.depth⟩

/-- Moving along a text without line breaks. -/
theorem Cursor.passes_along {consumed rest : Text} (ahead : cursor.rest = consumed ++ rest)
    (unbroken : Unbroken consumed) : cursor.Passes consumed (cursor.along consumed rest) where
  before := rfl
  rest := ahead
  place := (track_of_unbroken unbroken _ _).symm
  uncut := fun cut => absurd rfl (unbroken _ (List.mem_of_getLast? cut)).1

/-- Moving over a text without line breaks changes the column alone. -/
theorem Cursor.Passes.eq_along {next : Cursor} {consumed rest : Text}
    (passes : cursor.Passes consumed next) (ahead : cursor.rest = consumed ++ rest)
    (unbroken : Unbroken consumed) (deep : next.depth = cursor.depth) :
    next = cursor.along consumed rest := by
  have before := passes.before
  have behind := passes.rest_eq ahead
  have place := passes.place
  rw [track_of_unbroken unbroken, Prod.mk.injEq] at place
  obtain ⟨line, column⟩ := place
  cases next
  subst before behind line column deep
  rfl

/-! ## Strings -/

/-- An item has no line break in its spelling. -/
theorem unbroken_item (item : StringItem) : Unbroken item.text := by
  intro point held
  rw [← not_or]
  intro isBreak
  -- A line break is neither plain nor a digit nor one of the letters.
  have neither : point.isPlain = false ∧ point.hexValue?.isSome = false := by
    rcases isBreak with rfl | rfl
    · decide
    · decide
  cases item with
  | plain other isPlain =>
      rw [← List.mem_singleton.mp held, neither.1] at isPlain
      cases isPlain
  | short escape =>
      rcases isBreak with rfl | rfl <;> cases escape <;> exact absurd held (by decide)
  | coded unit =>
      rw [StringItem.text, List.mem_cons, List.mem_cons] at held
      rcases held with rfl | rfl | isDigit
      · exact absurd isBreak (by decide)
      · exact absurd isBreak (by decide)
      · have isHex := unit.areHex point isDigit
        rw [neither.2] at isHex
        cases isHex

/-- A string has no line break in its spelling. -/
theorem unbroken_quoted (items : List StringItem) : Unbroken (StringItem.quoted items) := by
  have quote : Unbroken [CodePoint.ofChar '"'] := unbroken_nil.cons (by decide)
  refine quote.append (Unbroken.append ?_ quote)
  intro point held
  obtain ⟨item, -, inItem⟩ := List.mem_flatMap.mp held
  exact unbroken_item item point inItem

/-- The string rule matches where the spelling of a string is ahead, and nowhere else. It stops
right behind the closing quote, and its product is what the items stand for. -/
theorem string_matched_iff (cursor : Cursor) (enough : cursor.rest.length < laps) (product : Value)
    (final : State) :
    ((string : Rule ν).evaluate laps resolve cursor.state).reply = .matched product final ↔
      ∃ items behind, cursor.rest = StringItem.quoted items ++ behind ∧
        product = .str (StringItem.decode items) ∧
        final = (cursor.along (StringItem.quoted items) behind).state := by
  have takes : ∀ {items behind}, cursor.rest = StringItem.quoted items ++ behind →
      ((string : Rule ν).evaluate laps resolve cursor.state).reply =
        .matched (.str (StringItem.decode items))
          (cursor.along (StringItem.quoted items) behind).state := by
    intro items behind ahead
    obtain ⟨_, _, next, passes, ⟨rfl, rfl, deep⟩, replies⟩ :=
      (takes_string ahead enough).exists_matched
    rw [replies, passes.eq_along ahead (unbroken_quoted items) deep]
  constructor
  · intro matched
    have reads : cursor.Reads (fun consumed _ _ => ∃ items, consumed = StringItem.quoted items)
        True (fun _ _ _ => True) ((string : Rule ν).evaluate laps resolve cursor.state).reply :=
      (reads_string readsItems_escape (readsQuote_char.mandatory _)
        enough).mayDecline.mayFail.weakenMatch fun _ _ _ _ holds => holds.1
    rw [matched] at reads
    cases reads with
    | @matched _ _ next passes holds =>
        obtain ⟨items, rfl⟩ := holds
        rw [takes passes.rest] at matched
        obtain ⟨product, final⟩ := Reply.matched.inj matched
        exact ⟨items, next.rest, passes.rest, product.symm, final.symm⟩
  · rintro ⟨items, behind, ahead, rfl, rfl⟩
    exact takes ahead

/-- Of two escaped high surrogates and an escaped low one the last two are one character, and a raw
low surrogate behind them stands for itself. -/
theorem string_matched_iff_surrogates :
    let spelled : Text := text "\"\\uD83D\\ud83d\\uDe00" ++ [0xDE00, CodePoint.ofChar '"']
    ((string : Rule Unit).evaluate 30 (fun _ _ => .declined)
      (Cursor.state ⟨text "[", spelled ++ text ",1]", 1, 2, 1⟩)).reply =
      .matched (.str [0xD83D, 0x1F600, 0xDE00])
        (Cursor.state ⟨text "[" ++ spelled, text ",1]", 1, 23, 1⟩) := by
  let unit (digits : String) (counted : (text digits).length = 4)
    (areHex : (text digits).all fun digit => digit.hexValue?.isSome) : StringItem :=
    .coded ⟨text digits, counted, List.all_eq_true.mp areHex⟩
  refine (string_matched_iff ⟨text "[", _, 1, 2, 1⟩ (by decide) _ _).mpr
    ⟨[unit "D83D" (by decide) (by decide), unit "d83d" (by decide) (by decide),
      unit "De00" (by decide) (by decide), .plain 0xDE00 (by decide)], text ",1]", ?_, ?_, ?_⟩
  · decide
  · exact congrArg Value.str (by decide +kernel)
  · rfl

/-! ## Numbers -/

/-- An optional minus and a digit are ahead. -/
def BeginsNumber (points : Text) : Prop :=
  ∃ digit others, digit.isDigit ∧
    (points = digit :: others ∨ points = CodePoint.ofChar '-' :: digit :: others)

/-- Digits are taken exactly where one is ahead. -/
theorem scanIntegral_ne_nil_iff {points : Text} :
    scanIntegral points ≠ [] ↔ ∃ digit others, digit.isDigit ∧ points = digit :: others := by
  constructor
  · intro taken
    cases points with
    | nil => exact absurd rfl taken
    | cons point others =>
        refine ⟨point, others, Classical.byContradiction fun noDigit => taken ?_, rfl⟩
        rw [scanIntegral, if_neg, List.takeWhile_cons_of_neg noDigit]
        intro zero
        rw [Option.some.inj zero] at noDigit
        exact noDigit (by decide)
  · rintro ⟨digit, others, isDigit, rfl⟩
    rw [scanIntegral]
    split
    · exact List.cons_ne_nil _ _
    · rw [List.takeWhile_cons_of_pos isDigit]
      exact List.cons_ne_nil _ _

/-- A number begins where the run has digits before the point. -/
theorem beginsNumber_iff (points : Text) :
    BeginsNumber points ↔ (NumberRun.scan points).integral ≠ [] := by
  have unsigned : (NumberRun.scan points).integral =
    scanIntegral (points.drop (scanSign points).length) := rfl
  rw [unsigned, scanIntegral_ne_nil_iff]
  by_cases minus : points.head? = some (CodePoint.ofChar '-')
  · obtain ⟨rest, rfl⟩ := List.head?_eq_some_iff.mp minus
    rw [scanSign, if_pos minus]
    constructor
    · rintro ⟨digit, others, isDigit, spelled | spelled⟩
      · rw [← (List.cons.inj spelled).1] at isDigit
        exact absurd isDigit (by decide)
      · exact ⟨digit, others, isDigit, (List.cons.inj spelled).2⟩
    · rintro ⟨digit, others, isDigit, spelled⟩
      exact ⟨digit, others, isDigit, .inr (congrArg _ spelled)⟩
  · rw [scanSign, if_neg minus]
    constructor
    · rintro ⟨digit, others, isDigit, rfl | rfl⟩
      · exact ⟨digit, others, isDigit, rfl⟩
      · exact absurd rfl minus
    · rintro ⟨digit, others, isDigit, spelled⟩
      exact ⟨digit, others, isDigit, .inl spelled⟩

/-! ## The run has no line break in it -/

/-- Digits belong to no line break. -/
theorem unbroken_digits (points : Text) : Unbroken (points.takeWhile CodePoint.isDigit) := by
  intro point held
  have isDigit : point.isDigit := List.all_eq_true.mp List.all_takeWhile point held
  constructor
  · rintro rfl
    exact absurd isDigit (by decide)
  · rintro rfl
    exact absurd isDigit (by decide)

/-- Nor does the sign of an exponent. -/
theorem unbroken_exponentSign (sign : ExponentSign) : Unbroken sign.text := by
  cases sign with
  | absent => exact unbroken_nil
  | plus => exact unbroken_nil.cons (by decide)
  | minus => exact unbroken_nil.cons (by decide)

/-- Nor does anything that the parts of a number take. -/
theorem NumberRun.unbroken_scan (points : Text) : Unbroken (scan points).text := by
  have sign : ∀ points, Unbroken (scanSign points) := by
    intro points
    rw [scanSign]
    split
    · exact unbroken_nil.cons (by decide)
    · exact unbroken_nil
  have integral : ∀ points, Unbroken (scanIntegral points) := by
    intro points
    rw [scanIntegral]
    split
    · exact unbroken_nil.cons (by decide)
    · exact unbroken_digits points
  have fraction : ∀ points, Unbroken (scanFraction points) := by
    intro points
    rw [scanFraction]
    split
    · exact (unbroken_digits _).cons (by decide)
    · exact unbroken_nil
  have exponent : ∀ points, Unbroken (scanExponent points) := by
    intro points
    cases points with
    | nil => exact unbroken_nil
    | cons mark rest =>
        rw [scanExponent]
        split
        · next isMark =>
            obtain ⟨capital, rfl⟩ := exists_capital isMark
            refine ((unbroken_exponentSign _).append (unbroken_digits _)).cons ?_
            cases capital <;> decide
        · exact unbroken_nil
  exact (((sign _).append (integral _)).append (fraction _)).append (exponent _)

/-- Where a run breaks off, it has no line break either. -/
theorem NumberRun.unbroken_brokenOff {points consumed : Text}
    (broken : (scan points).brokenOff? = some consumed) : Unbroken consumed := by
  have within : consumed <+: (scan points).text := by
    unfold brokenOff? at broken
    split at broken
    · cases broken
      exact List.prefix_append _ _
    · split at broken
      · cases broken
        exact List.prefix_rfl
      · cases broken
  exact fun point held => unbroken_scan points point (within.subset held)

/-! ## The reply -/

/-- The run is a whole number with more digits than are allowed. -/
def NumberRun.Exceeds (run : NumberRun) (limits : Limits) : Prop :=
  run.isWhole ∧ 0 < limits.maxDigits ∧ limits.maxDigits < run.integral.length

instance (run : NumberRun) (limits : Limits) : Decidable (run.Exceeds limits) :=
  inferInstanceAs (Decidable (_ ∧ _ ∧ _))

/-- The run of a literal is too long exactly if the literal is not admitted. -/
theorem NumberRun.exceeds_ofLiteral_iff {literal : NumberLiteral} {limits : Limits} :
    (ofLiteral literal).Exceeds limits ↔ ¬ limits.Admits literal := by
  rw [Exceeds, isWhole_ofLiteral, Limits.Admits]
  simp [ofLiteral]

/-- The replies of the number rule in front of a run. -/
inductive NumberReply (limits : Limits) (cursor : Cursor) (run : NumberRun) :
    Reply Value → Prop where
  | absent (lacks : run.integral = []) : NumberReply limits cursor run .declined
  | broken {consumed behind : Text} {error : ParseError} (present : run.integral ≠ [])
      (broken : run.brokenOff? = some consumed) (code : error.code = .expectationFailed)
      (ahead : cursor.rest = consumed ++ behind)
      (place : error.state = (cursor.along consumed behind).state) :
      NumberReply limits cursor run (.failed error)
  | tooLong {error : ParseError} (present : run.integral ≠ []) (whole : run.brokenOff? = none)
      (exceeds : run.Exceeds limits) (code : error.code = .numberTooLarge)
      (place : error.state = cursor.state) : NumberReply limits cursor run (.failed error)
  | read {behind : Text} (present : run.integral ≠ []) (whole : run.brokenOff? = none)
      (within : ¬ run.Exceeds limits) (ahead : cursor.rest = run.text ++ behind) :
      NumberReply limits cursor run
        (.matched (scalar run.value) (cursor.along run.text behind).state)

/-- Behind the parts of a literal the steps get its number, or refuse it for its digits. -/
theorem numberReply_steps {limits : Limits} {next : Cursor} {literal : NumberLiteral}
    {parts : Value} (passes : cursor.Passes literal.text next) (depth : next.depth = cursor.depth)
    (unbroken : Unbroken literal.text) (isParts : PartsOf literal parts) :
    NumberReply limits cursor (.ofLiteral literal)
      ((numberSteps limits cursor.state parts : Steps ν).evaluate laps resolve
        next.state).reply := by
  have present := literal.integral.property.1
  have whole := NumberRun.brokenOff?_ofLiteral literal
  by_cases admits : limits.Admits literal
  · have within : ¬ (NumberRun.ofLiteral literal).Exceeds limits := fun exceeds =>
      NumberRun.exceeds_ofLiteral_iff.mp exceeds admits
    rw [isParts.steps_of_admits admits, passes.eq_along passes.rest unbroken depth,
      ← NumberRun.value_ofLiteral]
    exact .read present whole within passes.rest
  · obtain ⟨following, steps⟩ := isParts.steps_of_not_admits admits cursor.state
    obtain ⟨error, worded, place, code⟩ := exists_tooManyDigits
      literal.integral.val.length limits.maxDigits cursor next.state
    rw [steps, reply_escalate worded]
    exact .tooLong present whole (NumberRun.exceeds_ofLiteral_iff.mpr admits) code place

/-- The number rule replies in one of these ways. -/
theorem numberReply_number (limits : Limits) (enough : cursor.rest.length < laps) :
    NumberReply limits cursor (.scan cursor.rest)
      ((number limits : Rule ν).evaluate laps resolve cursor.state).reply := by
  show NumberReply limits cursor (.scan cursor.rest)
    (((numberParts : Rule ν).evaluate laps resolve cursor.state).branch
      (fun parts here => (numberSteps limits cursor.state parts).evaluate laps resolve here)
      fun _ => .declined).reply
  have unbroken := NumberRun.unbroken_scan cursor.rest
  have reads : cursor.Reads _ _ _
      ((numberParts : Rule ν).evaluate laps resolve cursor.state).reply := reads_numberRun enough
  generalize found : ((numberParts : Rule ν).evaluate laps resolve cursor.state).reply = described
    at reads
  cases reads with
  | matched passes holds =>
      obtain ⟨literal, scanned, rfl, isParts, depth⟩ := holds
      rw [Run.branch_of_matched found]
      rw [scanned] at unbroken ⊢
      exact numberReply_steps passes depth unbroken isParts
  | declined lacks =>
      rw [Run.branch_of_declined found]
      exact .absent lacks
  | @failed consumed error next passes place holds =>
      obtain ⟨code, present, broken, depth⟩ := holds
      rw [Run.branch_of_failed found]
      refine .broken present broken code passes.rest ?_
      rw [place, passes.eq_along passes.rest (NumberRun.unbroken_brokenOff broken) depth]
      rfl
  | raised _ holds => cases holds.1

/-- What the number rule replies is decided by the run of characters ahead. It declines exactly if
no optional minus with a digit behind it is ahead. Otherwise it fails where a digit is missing
behind a point or an exponent sign; it fails at its start if the run is a whole number with more
digits than are allowed; and else it consumes the run and gets the number that the run spells. -/
theorem number_reply (limits : Limits) (cursor : Cursor) (enough : cursor.rest.length < laps) :
    let run := NumberRun.scan cursor.rest
    let reply := ((number limits : Rule ν).evaluate laps resolve cursor.state).reply
    (reply = .declined ↔ ¬ BeginsNumber cursor.rest) ∧
    (BeginsNumber cursor.rest →
      (∀ consumed, run.brokenOff? = some consumed → ∃ error behind, reply = .failed error ∧
        error.code = .expectationFailed ∧ cursor.rest = consumed ++ behind ∧
        error.state = (cursor.along consumed behind).state) ∧
      (run.brokenOff? = none → run.Exceeds limits →
        ∃ error, reply = .failed error ∧ error.code = .numberTooLarge ∧
          error.state = cursor.state) ∧
      (run.brokenOff? = none → ¬ run.Exceeds limits →
        ∃ behind, cursor.rest = run.text ++ behind ∧
          reply = .matched (scalar run.value) (cursor.along run.text behind).state)) := by
  intro run reply
  have replies : NumberReply limits cursor run reply := numberReply_number limits enough
  have begins : BeginsNumber cursor.rest ↔ run.integral ≠ [] := beginsNumber_iff cursor.rest
  clear_value run reply
  cases replies with
  | absent lacks => simp [begins, lacks]
  | broken present broken code ahead place =>
      refine ⟨by simp [begins, present], fun _ => ⟨?_, by simp [broken], by simp [broken]⟩⟩
      intro other same
      cases broken.symm.trans same
      exact ⟨_, _, rfl, code, ahead, place⟩
  | tooLong present whole exceeds code place =>
      refine ⟨by simp [begins, present], fun _ => ⟨by simp [whole], ?_, by simp [exceeds]⟩⟩
      intro _ _
      exact ⟨_, rfl, code, place⟩
  | read present whole within ahead =>
      refine ⟨by simp [begins, present], fun _ => ⟨by simp [whole], by simp [within], ?_⟩⟩
      intro _ _
      exact ⟨_, ahead, rfl⟩

/-- With a limit of two digits: a minus does not count, and an exponent without digits is missed
behind its sign, however many digits there are. -/
theorem number_reply_limited :
    ((number ⟨0, 2⟩ : Rule Unit).evaluate 10 (fun _ _ => .declined)
        (Cursor.state ⟨text "[", text "-12]", 1, 2, 1⟩)).reply =
      .matched (scalar (.int (-12))) (Cursor.state ⟨text "[-12", text "]", 1, 5, 1⟩) ∧
    ∃ error, ((number ⟨0, 2⟩ : Rule Unit).evaluate 10 (fun _ _ => .declined)
        (Cursor.state ⟨text "[", text "1234.5e-]", 1, 2, 1⟩)).reply = .failed error ∧
      error.code = .expectationFailed ∧
      error.state = Cursor.state ⟨text "[1234.5e-", text "]", 1, 10, 1⟩ := by
  constructor
  · have begins : BeginsNumber (text "-12]") := ⟨CodePoint.ofChar '1', text "2]", by decide⟩
    have replies := (@number_reply Unit 10 (fun _ _ => .declined) ⟨0, 2⟩
      ⟨text "[", text "-12]", 1, 2, 1⟩ (by decide)).2 begins
    obtain ⟨behind, ahead, replied⟩ := replies.2.2 (by decide) (by decide)
    cases List.append_cancel_left (ahead.symm.trans (by decide : _ = text "-12" ++ text "]"))
    exact replied
  · have begins : BeginsNumber (text "1234.5e-]") :=
      ⟨CodePoint.ofChar '1', text "234.5e-]", by decide⟩
    have replies := (@number_reply Unit 10 (fun _ _ => .declined) ⟨0, 2⟩
      ⟨text "[", text "1234.5e-]", 1, 2, 1⟩ (by decide)).2 begins
    obtain ⟨error, behind, replied, code, ahead, place⟩ := replies.1 (text "1234.5e-") (by decide)
    cases List.append_cancel_left (ahead.symm.trans (by decide : _ = text "1234.5e-" ++ text "]"))
    exact ⟨error, replied, code, place⟩

end Descent.Document
