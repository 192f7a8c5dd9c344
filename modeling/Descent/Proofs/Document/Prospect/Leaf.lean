import Descent.Proofs.Document.Literals
import Descent.Proofs.Document.Prospect
import Descent.Proofs.Document.Value.Container

/-!
# Following strings, numbers and words

A literal is followed from its first character to what comes behind it. A number may end before a
character that does not go on with it, so what is open behind a number depends on what is ahead; a
string and a word say themselves where they end.

Where a literal breaks off, the place is stuck. Where no value begins, a minus or the letters of a
word may have to be passed before that shows.
-/

namespace Descent.Document

section Texts

variable {before ahead consumed behind : Text} {rest : List Pending}

/-! ## Numbers -/

/-- Digits are gone on with as far as they go, and one of them has to be there. -/
theorem Awaits.digits (awaits : Awaits before ahead (Pending.digits ++ rest))
    (whole : ahead = ahead.takeWhile CodePoint.isDigit ++ behind) :
    (ahead.takeWhile CodePoint.isDigit = [] → Stuck before ahead) ∧
      (ahead.takeWhile CodePoint.isDigit ≠ [] →
        Awaits (before ++ ahead.takeWhile CodePoint.isDigit) behind rest) := by
  cases ahead with
  | nil => exact ⟨fun _ => awaits.stuck (by simp), fun present => absurd rfl present⟩
  | cons digit others =>
      cases isDigit : digit.isDigit with
      | false =>
          rw [List.takeWhile_cons_of_neg (by simp [isDigit])]
          refine ⟨fun _ => awaits.stuck ?_, fun present => absurd rfl present⟩
          rintro _ ⟨⟩
          exact advance_of_lacks rfl (step_one_of_not isDigit)
      | true =>
          rw [List.takeWhile_cons_of_pos isDigit] at whole ⊢
          refine ⟨fun absent => absurd absent (List.cons_ne_nil _ _), fun _ => ?_⟩
          have first : Awaits (before ++ [digit]) others (.many CodePoint.isDigit :: rest) :=
            awaits.pass rfl
              (follow_singleton.trans (advance_of_step (step_one isDigit)))
          simpa using first.run (List.cons.inj whole).2

/-- The digits before the point. -/
theorem Offers.integral (offers : Offers before ahead (.integral :: rest))
    (whole : ahead = scanIntegral ahead ++ behind) (present : scanIntegral ahead ≠ []) :
    Awaits (before ++ scanIntegral ahead) behind rest := by
  obtain ⟨digit, others, isDigit, rfl⟩ := scanIntegral_ne_nil_iff.mp present
  by_cases zero : digit = CodePoint.ofChar '0'
  · subst zero
    exact offers.pass whole present rfl
  · have taken : scanIntegral (digit :: others) =
        digit :: others.takeWhile CodePoint.isDigit := by
      rw [scanIntegral, if_neg (by simpa using zero), List.takeWhile_cons_of_pos isDigit]
    have steps : Pending.integral.step digit = some [.many CodePoint.isDigit] := by
      rw [Pending.step, Pending.afterDigit?, if_neg zero, if_pos isDigit]
    rw [taken] at whole ⊢
    have first : Awaits (before ++ [digit]) others (.many CodePoint.isDigit :: rest) :=
      offers.pass rfl (List.cons_ne_nil _ _) (follow_singleton.trans (advance_of_step steps))
    simpa using first.run (List.cons.inj whole).2

/-- The sign and the digits before the point. -/
theorem Offers.whole {unsigned : Text} (offers : Offers before ahead (.value :: rest))
    (signed : ahead = scanSign ahead ++ unsigned)
    (whole : unsigned = scanIntegral unsigned ++ behind) (present : scanIntegral unsigned ≠ []) :
    Awaits (before ++ (scanSign ahead ++ scanIntegral unsigned)) behind
      (.fraction :: .exponent :: rest) := by
  rw [← List.append_assoc]
  refine Offers.integral ?_ whole present
  by_cases minus : ahead.head? = some (CodePoint.ofChar '-')
  · rw [scanSign, if_pos minus] at signed ⊢
    exact (offers.pass signed (List.cons_ne_nil _ _) rfl).offers
  · rw [scanSign, if_neg minus] at signed ⊢
    rw [← show ahead = unsigned from signed, List.append_nil]
    refine offers.restrict fun point next head steps => ?_
    -- Without a minus a value that begins with a digit is one that begins with its digits.
    have unsigned : point ≠ CodePoint.ofChar '-' := fun same => minus (by rw [head, same])
    cases begins : Pending.integral.step point with
    | none =>
        rw [advance_of_lacks rfl begins] at steps
        cases steps
    | some parts =>
        have step : Pending.value.step point = some (parts ++ [.fraction, .exponent]) := by
          have begun : Pending.afterDigit? point = some parts := begins
          show Pending.afterStart? point = _
          rw [Pending.afterStart?, Pending.afterNumberStart?, if_neg unsigned, begun]
          rfl
        rw [advance_of_step begins] at steps
        rw [advance_of_step step, ← steps, List.append_assoc]
        rfl

/-- A point and its digits, of which none may be there. -/
theorem Awaits.fraction (awaits : Awaits before ahead (.fraction :: rest))
    (whole : ahead = scanFraction ahead ++ behind) :
    (scanFraction ahead = [CodePoint.ofChar '.'] → Stuck (before ++ scanFraction ahead) behind) ∧
      (scanFraction ahead ≠ [CodePoint.ofChar '.'] →
        Awaits (before ++ scanFraction ahead) behind rest) := by
  by_cases dot : ahead.head? = some (CodePoint.ofChar '.')
  · obtain ⟨others, rfl⟩ := List.head?_eq_some_iff.mp dot
    have taken : scanFraction (CodePoint.ofChar '.' :: others) =
        CodePoint.ofChar '.' :: others.takeWhile CodePoint.isDigit := if_pos dot
    rw [taken] at whole ⊢
    have behindDigits := (List.cons.inj whole).2
    have first : Awaits (before ++ [CodePoint.ofChar '.']) others (Pending.digits ++ rest) :=
      awaits.pass rfl rfl
    obtain ⟨lacks, has⟩ := first.digits behindDigits
    constructor
    · intro alone
      have none := (List.cons.inj alone).2
      rw [none] at behindDigits ⊢
      rw [← show others = behind from behindDigits]
      exact lacks none
    · intro some
      simpa using has fun none => some (by rw [none])
  · have none : scanFraction ahead = [] := if_neg dot
    rw [none] at whole ⊢
    rw [← show ahead = behind from whole, List.append_nil]
    refine ⟨fun alone => absurd alone.symm (List.cons_ne_nil _ _), fun _ => awaits.skip rfl ?_⟩
    intro point head
    exact if_neg fun same => dot (by rw [head, same])

/-- The sign of an exponent. -/
theorem Awaits.sign (awaits : Awaits before ahead (.sign :: rest)) :
    Awaits (before ++ (scanExponentSign ahead).text)
      (ahead.drop (scanExponentSign ahead).text.length) rest := by
  unfold scanExponentSign
  split
  · next plus =>
      obtain ⟨others, rfl⟩ := List.head?_eq_some_iff.mp plus
      exact awaits.pass rfl rfl
  · next noPlus =>
      split
      · next minus =>
          obtain ⟨others, rfl⟩ := List.head?_eq_some_iff.mp minus
          exact awaits.pass rfl rfl
      · next noMinus =>
          rw [ExponentSign.text, List.append_nil]
          refine awaits.skip rfl fun point head => if_neg ?_
          rw [head, Option.some.injEq] at noPlus noMinus
          simp [noPlus, noMinus]

/-- The sign of an exponent is no digit. -/
theorem any_isDigit_sign (sign : ExponentSign) : sign.text.any CodePoint.isDigit = false := by
  cases sign with
  | absent => decide
  | plus => decide
  | minus => decide

/-- An exponent mark, a sign that may be missing, and digits. -/
theorem Awaits.exponent (awaits : Awaits before ahead (.exponent :: rest))
    (whole : ahead = scanExponent ahead ++ behind) :
    (scanExponent ahead ≠ [] ∧ ¬ (scanExponent ahead).any CodePoint.isDigit →
        Stuck (before ++ scanExponent ahead) behind) ∧
      (¬ (scanExponent ahead ≠ [] ∧ ¬ (scanExponent ahead).any CodePoint.isDigit) →
        Awaits (before ++ scanExponent ahead) behind rest) := by
  by_cases isMark : ∃ point others, ahead = point :: others ∧ Number.isExponentMark point
  · obtain ⟨point, others, rfl, isMark⟩ := isMark
    let sign := (scanExponentSign others).text
    let unsigned := others.drop sign.length
    have taken : scanExponent (point :: others) =
        point :: (sign ++ unsigned.takeWhile CodePoint.isDigit) := if_pos isMark
    have noMark : point.isDigit = false := by
      obtain ⟨capital, rfl⟩ := exists_capital isMark
      cases capital <;> decide
    have signed : Awaits (before ++ [point] ++ sign) unsigned (Pending.digits ++ rest) :=
      (awaits.pass rfl (follow_singleton.trans (advance_of_step (if_pos isMark)))).sign
    rw [taken] at whole ⊢
    have behindDigits : unsigned = unsigned.takeWhile CodePoint.isDigit ++ behind :=
      NumberRun.drop_taken ((List.cons.inj whole).2.trans (List.append_assoc _ _ _))
    obtain ⟨lacks, has⟩ := signed.digits behindDigits
    have areDigits : ∀ digit ∈ unsigned.takeWhile CodePoint.isDigit, digit.isDigit :=
      List.all_eq_true.mp List.all_takeWhile
    generalize unsigned.takeWhile CodePoint.isDigit = digits at *
    cases digits with
    | nil =>
        rw [show unsigned = behind from behindDigits] at lacks
        refine ⟨fun _ => by simpa using lacks rfl, fun whole => absurd ⟨?_, ?_⟩ whole⟩
        · exact List.cons_ne_nil _ _
        · simp [noMark, sign, any_isDigit_sign]
    | cons digit digits =>
        refine ⟨fun broken => absurd ?_ broken.2, fun _ => ?_⟩
        · simp [areDigits digit List.mem_cons_self]
        · simpa using has (List.cons_ne_nil _ _)
  · have none : scanExponent ahead = [] := by
      cases ahead with
      | nil => rfl
      | cons point others => exact if_neg fun marked => isMark ⟨point, others, rfl, marked⟩
    rw [none] at whole ⊢
    rw [← show ahead = behind from whole, List.append_nil]
    refine ⟨fun broken => absurd rfl broken.1, fun _ => awaits.skip rfl ?_⟩
    intro point head
    obtain ⟨others, rfl⟩ := List.head?_eq_some_iff.mp head
    exact if_neg fun marked => isMark ⟨point, others, rfl, marked⟩

/-- A number up to its exponent. -/
theorem Offers.significand {run : NumberRun} (offers : Offers before ahead (.value :: rest))
    (scanned : run = NumberRun.scan ahead) (present : run.integral ≠ [])
    (parts : ahead = run.sign ++ run.integral ++ run.fraction ++ behind) :
    run.exponent = scanExponent behind ∧
      (run.fraction = [CodePoint.ofChar '.'] →
        Stuck (before ++ (run.sign ++ run.integral ++ run.fraction)) behind) ∧
      (run.fraction ≠ [CodePoint.ofChar '.'] →
        Awaits (before ++ (run.sign ++ run.integral ++ run.fraction)) behind
          (.exponent :: rest)) := by
  have sign : run.sign = scanSign ahead := by
    rw [scanned]
    rfl
  have signed : ahead = scanSign ahead ++ (run.integral ++ (run.fraction ++ behind)) := by
    rw [← sign]
    simpa using parts
  have integral := NumberRun.scan_integral signed
  rw [← scanned] at integral
  have whole : run.integral ++ (run.fraction ++ behind) =
      scanIntegral (run.integral ++ (run.fraction ++ behind)) ++ (run.fraction ++ behind) := by
    rw [← integral]
  have fraction := NumberRun.scan_fraction signed whole
  rw [← scanned] at fraction
  have fractional : run.fraction ++ behind =
      scanFraction (run.fraction ++ behind) ++ behind := by
    rw [← fraction]
  have exponent := NumberRun.scan_exponent signed whole fractional
  rw [← scanned] at exponent
  have follows := (offers.whole signed whole (integral ▸ present)).fraction fractional
  rw [← integral, ← fraction, ← sign, List.append_assoc before] at follows
  exact ⟨exponent, follows⟩

/-- A number: the run ahead is passed, or a digit is missing where it breaks off. -/
theorem Offers.number {run : NumberRun} (offers : Offers before ahead (.value :: rest))
    (scanned : run = NumberRun.scan ahead) (present : run.integral ≠ []) :
    (∀ {consumed}, run.brokenOff? = some consumed → ahead = consumed ++ behind →
      Stuck (before ++ consumed) behind) ∧
    (run.brokenOff? = none → ahead = run.text ++ behind →
      Awaits (before ++ run.text) behind rest) := by
  -- Behind a fraction that does not break off the exponent decides.
  have exponent : run.fraction ≠ [CodePoint.ofChar '.'] → ahead = run.text ++ behind →
      (run.exponent ≠ [] ∧ ¬ run.exponent.any CodePoint.isDigit →
        Stuck (before ++ run.text) behind) ∧
      (¬ (run.exponent ≠ [] ∧ ¬ run.exponent.any CodePoint.isDigit) →
        Awaits (before ++ run.text) behind rest) := by
    intro complete parts
    obtain ⟨scannedExponent, -, follows⟩ := offers.significand scanned present
      (parts.trans (List.append_assoc _ _ _))
    have ended := (follows complete).exponent (by rw [← scannedExponent])
    rw [← scannedExponent, List.append_assoc before] at ended
    exact ended
  unfold NumberRun.brokenOff?
  split
  · next alone =>
      refine ⟨?_, fun none => absurd none (Option.some_ne_none _)⟩
      rintro _ ⟨⟩ parts
      exact (offers.significand scanned present parts).2.1 alone
  · next complete =>
      split
      · next lacks =>
          refine ⟨?_, fun none => absurd none (Option.some_ne_none _)⟩
          rintro _ ⟨⟩ parts
          exact (exponent complete parts).1 lacks
      · next has =>
          exact ⟨fun some => absurd some.symm (Option.some_ne_none _),
            fun _ parts => (exponent complete parts).2 has⟩

/-! ## Words and values -/

/-- The letters of a text, up to the first one that is another. -/
theorem exists_wrong_letter (rest : List Pending) {letters : Text} (lacks : ¬ letters <+: ahead) :
    ∃ skipped behind, ahead = skipped ++ behind ∧ skipped <+: letters ∧
      ∀ wrong, behind.head? = some wrong →
        follow (Pending.marks letters ++ rest) (skipped ++ [wrong]) = none := by
  induction letters generalizing ahead with
  | nil => exact absurd List.nil_prefix lacks
  | cons letter letters inductionHypothesis =>
      by_cases same : ahead.head? = some letter
      · obtain ⟨others, rfl⟩ := List.head?_eq_some_iff.mp same
        obtain ⟨skipped, behind, rfl, begins, fails⟩ :=
          inductionHypothesis fun found => lacks (List.cons_prefix_cons.mpr ⟨rfl, found⟩)
        refine ⟨letter :: skipped, behind, rfl, List.cons_prefix_cons.mpr ⟨rfl, begins⟩, ?_⟩
        intro wrong head
        rw [List.cons_append, follow_cons, Pending.marks, List.map_cons, List.cons_append,
          advance_of_step step_mark]
        exact fails wrong head
      · refine ⟨[], ahead, rfl, List.nil_prefix, fun wrong head => follow_singleton.trans ?_⟩
        refine advance_of_lacks rfl (step_mark_of_ne ?_)
        rintro rfl
        exact same head

/-- No value begins here: neither its first character nor, for a number or a word, the ones behind
it are ahead. -/
structure ValueAbsent (ahead : Text) : Prop where
  quote : ahead.head? ≠ some (CodePoint.ofChar '"')
  number : ¬ BeginsNumber ahead
  word : ∀ keyword : Keyword, ¬ keyword.text <+: ahead
  array : ahead.head? ≠ some (CodePoint.ofChar '[')
  object : ahead.head? ≠ some (CodePoint.ofChar '\x7b')

/-- A number goes on with digits only. -/
theorem afterDigit?_eq_none {point : CodePoint} (noDigit : point.isDigit = false) :
    Pending.afterDigit? point = none := by
  rw [Pending.afterDigit?, if_neg, if_neg (by simp [noDigit])]
  rintro rfl
  exact absurd noDigit (by decide)

/-- A word is a value. -/
theorem follow_keyword (rest : List Pending) (keyword : Keyword) :
    ∃ letter letters, keyword.text = letter :: letters ∧
      advance (.value :: rest) letter = some (Pending.marks letters ++ rest) := by
  cases keyword with
  | no => exact ⟨_, _, rfl, rfl⟩
  | yes => exact ⟨_, _, rfl, rfl⟩
  | null => exact ⟨_, _, rfl, rfl⟩

/-- Where no value is ahead, there is no way on behind a minus or the letters of a word. -/
theorem Awaits.stuck_of_absent (awaits : Awaits before ahead (.value :: rest))
    (absent : ValueAbsent ahead) : Stuck before ahead := by
  by_cases minus : ahead.head? = some (CodePoint.ofChar '-')
  · obtain ⟨others, rfl⟩ := List.head?_eq_some_iff.mp minus
    refine awaits.stuck_behind rfl (.inr (.inl rfl)) fun wrong head => ?_
    have noDigit : wrong.isDigit = false := by
      obtain ⟨behind, rfl⟩ := List.head?_eq_some_iff.mp head
      exact Bool.eq_false_iff.mpr fun isDigit =>
        absent.number ⟨wrong, behind, isDigit, .inr rfl⟩
    exact follow_singleton.trans (advance_of_lacks rfl (afterDigit?_eq_none noDigit))
  by_cases first : ∃ keyword : Keyword, ahead.head? = keyword.text.head?
  · obtain ⟨keyword, head⟩ := first
    obtain ⟨letter, letters, spelled, steps⟩ := follow_keyword rest keyword
    rw [spelled] at head
    obtain ⟨others, rfl⟩ := List.head?_eq_some_iff.mp head
    have lacks : ¬ letters <+: others := fun found =>
      absent.word keyword (by rw [spelled]; exact List.cons_prefix_cons.mpr ⟨rfl, found⟩)
    obtain ⟨skipped, behind, rfl, begins, fails⟩ := exists_wrong_letter rest lacks
    refine awaits.stuck_behind (List.cons_append).symm (.inr (.inr ⟨keyword, ?_⟩)) ?_
    · rw [spelled]
      exact List.cons_prefix_cons.mpr ⟨rfl, begins⟩
    · intro wrong head
      rw [List.cons_append, follow_cons, steps]
      exact fails wrong head
  · refine awaits.stuck fun wrong head => advance_of_lacks rfl ?_
    obtain ⟨noQuote, noNumber, -, noArray, noObject⟩ := absent
    obtain ⟨others, rfl⟩ := List.head?_eq_some_iff.mp head
    have noDigit : wrong.isDigit = false := Bool.eq_false_iff.mpr fun isDigit =>
      noNumber ⟨wrong, others, isDigit, .inl rfl⟩
    have noLetter : ∀ keyword : Keyword, keyword.text.head? ≠ some wrong := fun keyword same =>
      first ⟨keyword, same.symm⟩
    simp only [List.head?_cons, ne_eq, Option.some.injEq] at minus noQuote noArray noObject
    show Pending.afterStart? wrong = none
    simp [Pending.afterStart?, Pending.afterNumberStart?, Pending.afterLetter?, minus,
      afterDigit?_eq_none noDigit, noLetter, noQuote, noArray, noObject]

end Texts

variable {ν : Type} {laps : Nat} {resolve : ν → Behaviour} {cursor : Cursor} {rest : List Pending}

/-! ## Strings -/

/-- Four hexadecimal digits. -/
theorem reads_hexQuad_awaits (awaits : cursor.Awaits (List.replicate 4 .hexDigit ++ rest)) :
    cursor.Reads
      (fun _ product next => (∃ unit : CodeUnit, product = .int unit.number) ∧ next.Awaits rest)
      False Misses ((hexQuad : Rule ν).evaluate laps resolve cursor.state).reply := by
  refine (reads_hexQuad cursor).located.mono ?_ id ?_
  · rintro _ _ next passes ⟨unit, rfl, rfl, -⟩
    have follows : follow (_ ++ rest) unit.digits = some rest := follow_ones unit.areHex 0
    rw [unit.length_digits] at follows
    exact ⟨⟨unit, rfl⟩, awaits.move passes follows⟩
  · rintro consumed next error ⟨passes, -, fewer, areHex, behind, ahead, stops⟩ -
    obtain ⟨missing, counted⟩ : ∃ missing, 4 = consumed.length + (missing + 1) :=
      ⟨3 - consumed.length, by omega⟩
    rw [counted] at awaits
    have reached := awaits.move passes (follow_ones areHex (missing + 1))
    refine reached.stuck fun wrong head => advance_of_lacks rfl (step_one_of_not (stops wrong ?_))
    rwa [← passes.rest_eq ahead]

/-- An escaped low surrogate. The digits are mandatory once their letter has been seen. -/
theorem reads_lowSurrogate_awaits (awaits : cursor.Awaits (.contents :: rest)) :
    cursor.Reads (fun _ _ next => next.Awaits (.contents :: rest)) True Misses
      ((lowSurrogate : Rule ν).evaluate laps resolve cursor.state).reply := by
  have parts : cursor.Reads
      (fun _ product next => (∃ first second third, product = .tuple [first, second, third]) ∧
        next.Awaits (.contents :: rest))
      True Misses
      ((Rule.sequence [char '\\', char 'u', hexQuad] : Rule ν).evaluate laps resolve
        cursor.state).reply := by
    refine Cursor.Reads.sequence ?_
    refine Cursor.Reads.parts_cons
      (reads_char_awaits (by decide) awaits.offers rfl).neverFails.mayDecline ?_
    rintro _ first backslash - ⟨escaped, -⟩
    refine Cursor.Reads.parts_cons
      (reads_char_awaits (by decide) escaped.offers rfl).neverFails.mayDecline ?_
    rintro _ second letter - ⟨digits, -⟩
    refine Cursor.Reads.parts_cons (reads_hexQuad_awaits digits).neverDeclines ?_
    rintro _ third quad - ⟨-, reached⟩
    exact .parts_nil ⟨⟨first, second, third, rfl⟩, reached⟩
  have unit : cursor.Reads (fun _ _ next => next.Awaits (.contents :: rest)) True Misses
      ((escapedUnit : Rule ν).evaluate laps resolve cursor.state).reply := by
    refine parts.semantics ?_
    rintro _ _ next ⟨⟨first, second, third, rfl⟩, reached⟩
    exact ⟨third, rfl, reached⟩
  exact (unit.accepting fun _ _ _ _ _ => trivial).weakenMatch (fun _ _ _ _ => And.left)

/-- What follows the digits of an escape. -/
theorem reads_unitSteps_awaits (unit : CodeUnit) (awaits : cursor.Awaits (.contents :: rest)) :
    cursor.Reads (fun _ _ next => next.Awaits (.contents :: rest)) False Misses
      ((unitSteps (.int unit.number) : Steps ν).evaluate laps resolve cursor.state).reply := by
  by_cases isHigh : CodePoint.isHighSurrogate unit.number
  · obtain ⟨following, steps, alone, joined⟩ : ∃ following : Value → Steps ν, _ :=
      unitSteps_of_high isHigh
    have lookahead : cursor.Reads
        (fun _ product next => next.Awaits (.contents :: rest) ∧
          ∃ result, following product = .finish result)
        False Misses
        ((Rule.optional lowSurrogate .none : Rule ν).evaluate laps resolve cursor.state).reply := by
      have reads := (reads_lowSurrogate_awaits awaits).and
        (readsLowSurrogate_of readsUnit_hexQuad cursor : cursor.Reads _ _ _
          ((lowSurrogate : Rule ν).evaluate laps resolve cursor.state).reply)
      refine Cursor.Reads.optional (reads.weakenMatch ?_)
        fun _ => ⟨awaits, _, alone⟩
      rintro _ _ next _ ⟨reached, low, isLow, -, rfl, -⟩
      exact ⟨reached, _, joined low isLow⟩
    rw [steps]
    refine lookahead.neverDeclines.apply ?_
    rintro _ product next - ⟨reached, result, finished⟩
    rw [finished]
    exact .finish reached
  · rw [unitSteps_of_not_high (by simpa using isHigh)]
    exact .finish awaits

/-- A backslash and what has to follow it. -/
theorem reads_escape_awaits (awaits : cursor.Awaits (.contents :: rest)) :
    cursor.Reads (fun _ _ next => next.Awaits (.contents :: rest))
      (cursor.rest.head? ≠ some (CodePoint.ofChar '\\')) Misses
      ((escape : Rule ν).evaluate laps resolve cursor.state).reply := by
  refine Cursor.Reads.derivation
    (Cursor.Reads.apply (reads_char_awaits (by decide) awaits.offers rfl).neverFails ?_)
  rintro _ _ first - ⟨escaped, -⟩
  have byNumber : first.Reads (fun _ _ next => next.Awaits (.contents :: rest))
      (first.rest.head? ≠ some (CodePoint.ofChar 'u')) Misses
      ((unicodeEscape : Rule ν).evaluate laps resolve first.state).reply := by
    refine Cursor.Reads.derivation
      (Cursor.Reads.apply (reads_char_awaits (by decide) escaped.offers rfl).neverFails ?_)
    rintro _ _ letter - ⟨digits, -⟩
    refine Cursor.Reads.apply (reads_hexQuad_awaits digits).neverDeclines ?_
    rintro _ _ quad - ⟨⟨unit, rfl⟩, reached⟩
    exact (reads_unitSteps_awaits unit reached).neverDeclines
  have byLetter : first.Reads (fun _ _ next => next.Awaits (.contents :: rest))
      (∀ point, first.rest.head? = some point → escapeLetters.contains point = false) Misses
      ((shortEscape : Rule ν).evaluate laps resolve first.state).reply := by
    refine (reads_shortEscape first).neverFails.weakenMatch ?_
    rintro _ _ next passes ⟨letter, rfl, -⟩
    refine escaped.move passes ?_
    cases letter <;> rfl
  have either : first.Reads (fun _ _ next => next.Awaits (.contents :: rest))
      (Stuck first.before first.rest) Misses
      ((Rule.choice [unicodeEscape, shortEscape] : Rule ν).evaluate laps resolve
        first.state).reply := by
    refine byNumber.choice_cons fun noNumber => byLetter.choice_cons fun noLetter => .choice_nil ?_
    refine escaped.stuck fun wrong head => advance_of_lacks rfl ?_
    rw [head, ne_eq, Option.some.injEq] at noNumber
    exact (if_neg noNumber).trans (if_neg (Bool.eq_false_iff.mp (noLetter wrong head)))
  refine (either.failpoint fun stuck _ _ _ => stuck).neverDeclines.apply ?_
  rintro _ product next - reached
  exact .finish reached

/-- No item of a string is ahead. -/
def ItemAbsent (ahead : Text) : Prop :=
  ∀ point, ahead.head? = some point → point ≠ CodePoint.ofChar '\\' ∧ point.isPlain = false

/-- One lap through the contents of a string. -/
theorem lap_contents_awaits (rest : List Pending) :
    Lap ((Rule.choice [escape, unescaped] : Rule ν).evaluate laps resolve)
      (fun cursor => cursor.Awaits (.contents :: rest))
      (fun _ consumed _ next => consumed ≠ [] ∧ next.Awaits (.contents :: rest))
      (fun cursor => ItemAbsent cursor.rest) (fun _ => Misses)
      (fun _ _ _ next => next.Awaits (.contents :: rest) ∧ ItemAbsent next.rest) where
  reads := by
    intro cursor awaits
    have reads := (reads_escape_awaits awaits).and
      (readsItems_escape cursor : cursor.Reads _ _ _
        ((escape : Rule ν).evaluate laps resolve cursor.state).reply)
    refine Cursor.Reads.choice_cons ((reads.weakenDecline And.left).weakenMatch ?_)
      fun noEscape => Cursor.Reads.choice_cons
        ((takesOne_unescaped cursor).neverFails.weakenMatch ?_) fun noPlain => .choice_nil ?_
    · rintro consumed _ next _ ⟨reached, present, -⟩
      exact ⟨present, reached⟩
    · rintro _ _ next passes ⟨point, isPlain, rfl, -⟩
      exact ⟨List.cons_ne_nil _ _, awaits.move passes
        (follow_singleton.trans (advance_of_step (step_contents isPlain)))⟩
    · intro point head
      rw [head, ne_eq, Option.some.injEq] at noEscape
      exact ⟨noEscape, noPlain point head⟩
  consumes := And.left
  reaches := fun _ _ holds => holds.2
  stops := fun reached lacks => ⟨reached, lacks⟩
  continues := fun _ _ _ holds => holds
  fails := fun _ holds => holds

/-- A string, where its first quote may come. -/
theorem reads_string_awaits
    (offers : cursor.Offers (.mark (CodePoint.ofChar '"') :: .contents :: rest))
    (enough : cursor.rest.length < laps) :
    cursor.Reads (fun _ _ next => next.Awaits rest ∧ next.depth = cursor.depth)
      (cursor.rest.head? ≠ some (CodePoint.ofChar '"')) Misses
      ((string : Rule ν).evaluate laps resolve cursor.state).reply := by
  have closes : ∀ {next : Cursor}, next.Awaits (.contents :: rest) → ItemAbsent next.rest →
      next.Reads (fun _ _ last => last.Awaits rest) (Stuck next.before next.rest) Misses
        ((char '"' : Rule ν).evaluate laps resolve next.state).reply := by
    intro next awaits absent
    refine ((reads_char_awaits (by decide) awaits.offers rfl).neverFails.weakenMatch
      (fun _ _ _ _ => And.left)).weakenDecline ?_
    intro noQuote
    refine awaits.stuck fun wrong head => advance_of_lacks rfl ?_
    rw [head, ne_eq, Option.some.injEq] at noQuote
    exact step_contents_of_not noQuote (absent wrong head).1 (absent wrong head).2
  have reads : cursor.Reads (fun _ _ next => next.Awaits rest)
      (cursor.rest.head? ≠ some (CodePoint.ofChar '"')) Misses
      ((string : Rule ν).evaluate laps resolve cursor.state).reply := by
    refine Cursor.Reads.derivation
      (Cursor.Reads.apply (reads_char_awaits (by decide) offers rfl).neverFails ?_)
    rintro _ _ first passes ⟨opened, -⟩
    have shorter := passes.length
    have enough : first.rest.length < laps := by omega
    refine Cursor.Reads.apply ((((lap_contents_awaits rest).zeroOrMore opened enough).and
        ((lap_contents readsItems_escape).zeroOrMore trivial enough)).weakenDecline
          (False.elim ∘ And.left)) ?_
    rintro _ _ second - ⟨⟨products, rfl, reached, absent⟩, _, same, -, ⟨points, rfl⟩, -⟩
    cases same
    refine Cursor.Reads.apply
      ((closes reached absent).failpoint fun stuck _ _ _ => stuck).neverDeclines ?_
    rintro _ _ third - closed
    simp only [(spells_run points).joined?]
    exact .finish closed
  -- The counters are those of the string rule as it is known already.
  have both := reads.and (reads_string readsItems_escape (readsQuote_char.mandatory _) enough)
  refine (both.weakenDecline And.left).weakenMatch ?_
  rintro _ _ next _ ⟨reached, -, -, depth⟩
  exact ⟨reached, depth⟩

/-! ## Numbers and words -/

/-- A number leads on to what is open behind a value. -/
theorem reads_number_awaits (limits : Limits) (offers : cursor.Offers (.value :: rest))
    (enough : cursor.rest.length < laps) :
    cursor.Reads (Reaches rest cursor.depth) (¬ BeginsNumber cursor.rest) Misses
      ((number limits : Rule ν).evaluate laps resolve cursor.state).reply := by
  have replies : NumberReply limits cursor (.scan cursor.rest)
      ((number limits : Rule ν).evaluate laps resolve cursor.state).reply :=
    numberReply_number limits enough
  generalize ((number limits : Rule ν).evaluate laps resolve cursor.state).reply = reply at replies
  cases replies with
  | absent lacks => exact .declined fun begins => (beginsNumber_iff _).mp begins lacks
  | broken present broken code ahead place =>
      refine .failed (Cursor.passes_along ahead (NumberRun.unbroken_brokenOff broken)) place ?_
      exact fun _ => (offers.number rfl present).1 broken ahead
  | tooLong present whole exceeds code place =>
      refine .failed (.refl cursor) place fun other => ?_
      rw [code] at other
      cases other
  | read present whole within ahead =>
      refine .matched (Cursor.passes_along ahead (NumberRun.unbroken_scan _)) ⟨by simp [scalar], ?_⟩
      exact ⟨(offers.number rfl present).2 whole ahead, rfl⟩

/-- A word leads on to what is open behind a value. -/
theorem reads_keyword_awaits (offers : cursor.Offers (.value :: rest)) :
    cursor.Reads (Reaches rest cursor.depth)
      (∀ keyword : Keyword, ¬ keyword.text <+: cursor.rest) Misses
      ((keyword : Rule ν).evaluate laps resolve cursor.state).reply := by
  refine (reads_keyword cursor).neverFails.weakenMatch ?_
  rintro _ _ next passes ⟨keyword, rfl, rfl, depth⟩
  refine ⟨by simp [scalar], offers.move passes ?_ ?_, depth⟩
  · cases keyword <;> exact List.cons_ne_nil _ _
  · cases keyword <;> rfl

end Descent.Document
