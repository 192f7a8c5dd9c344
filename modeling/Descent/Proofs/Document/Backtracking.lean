import Descent.Proofs.Budget
import Descent.Proofs.Commitment
import Descent.Proofs.Document.Acceptance

/-!
# Backtracking finds no further documents

Without its failpoints the document grammar backtracks: where a part is missing it tries a shorter
number, a shorter row of members or another alternative. None of that leads to a document which the
committed grammar rejects.

What the rules consume is described in the same way whether their parts are mandatory or not, so a
text that the backtracking grammar accepts is the text of a document within the limits. The
committed grammar reads every such text, and where it reads a text the two grammars agree.
-/

namespace Descent

variable {ν : Type}

namespace Grammar

/-- Where an evaluation with failpoints matches within some budget, no failpoint strikes within a
smaller one, and the evaluation without them replies the same. -/
theorem reply_withoutFailpoints_of_matched {grammar : Grammar ν} {budget larger : Budget}
    (le : budget ≤ larger) {rule : Rule ν} {state final : State} {product : Value}
    (matched : (grammar.evaluate larger rule state).reply = .matched product final) :
    (grammar.withoutFailpoints.evaluate budget rule.withoutFailpoints state).reply =
      (grammar.evaluate budget rule state).reply := by
  have agrees : ∀ {reply}, (grammar.evaluate budget rule state).reply = reply →
      reply ≠ .exhausted → reply = .matched product final := by
    rintro reply rfl finished
    rw [← grammar.evaluate_of_le le finished, matched]
  cases grammar.relaxes_evaluateWithin budget.laps budget.unfoldings rule (rfl : state = state) with
  | raised fault raised => cases agrees raised (by simp)
  | struck struck =>
      obtain ⟨error, failed⟩ := struck.failed
      cases agrees failed (by simp)
  | same same => exact same

end Grammar

namespace Document

variable {laps : Nat} {resolve : ν → Behaviour} {cursor : Cursor}

/-! ## Rules that commit to nothing -/

/-- Rules that are built for tokens have no failpoints, if none of them has. -/
theorem allWithoutFailpoints_map {build : Value → Rule ν}
    (free : ∀ value, (build value).withoutFailpoints = build value) (values : List Value) :
    Rule.allWithoutFailpoints (values.map build) = values.map build := by
  induction values with
  | nil => rfl
  | cons value others inductionHypothesis =>
      rw [List.map_cons, Rule.allWithoutFailpoints, free, inductionHypothesis]

@[simp] theorem withoutFailpoints_char (character : Char) :
    (char character : Rule ν).withoutFailpoints = char character := rfl

@[simp] theorem withoutFailpoints_literalChoice (values : List Value) :
    (Rule.literalChoice tracked values : Rule ν).withoutFailpoints =
      .literalChoice tracked values :=
  congrArg Rule.choice (allWithoutFailpoints_map (fun _ => rfl) values)

@[simp] theorem withoutFailpoints_digit : (digit : Rule ν).withoutFailpoints = digit := by
  simp [digit, nonzeroDigit]

@[simp] theorem withoutFailpoints_integralPart :
    (integralPart : Rule ν).withoutFailpoints = integralPart := by
  simp [integralPart, nonzeroDigit]

@[simp] theorem withoutFailpoints_word (characters : String) (value : Value) :
    (word characters value : Rule ν).withoutFailpoints = word characters value :=
  congrArg (fun subrules => Rule.constant (.sequence subrules) (scalar value))
    (allWithoutFailpoints_map (fun _ => rfl) _)

@[simp] theorem withoutFailpoints_keyword : (keyword : Rule ν).withoutFailpoints = keyword := by
  simp [keyword]

@[simp] theorem withoutFailpoints_lineBreak :
    (lineBreak : Rule ν).withoutFailpoints = lineBreak :=
  congrArg (fun both => Rule.trackLine
      (.choice [.sequence both, .literal (token '\n'), .literal (token '\r')]))
    (allWithoutFailpoints_map (fun _ => rfl) _)

@[simp] theorem withoutFailpoints_whitespace :
    (whitespace : Rule ν).withoutFailpoints = whitespace := by
  simp [whitespace, Rule.constant]

@[simp] theorem withoutFailpoints_spaced (character : Char) :
    (spaced character : Rule ν).withoutFailpoints = spaced character := by
  simp [spaced]

@[simp] theorem withoutFailpoints_separator (character : Char) :
    (separator character : Rule ν).withoutFailpoints = separator character := by
  simp [separator, Rule.constant]

@[simp] theorem withoutFailpoints_bracket (character : Char) (change : Int) :
    (bracket character change : Rule ν).withoutFailpoints = bracket character change := by
  simp [bracket, Rule.constant]

@[simp] theorem withoutFailpoints_shortEscape :
    (shortEscape : Rule ν).withoutFailpoints = shortEscape := by
  simp [shortEscape]

@[simp] theorem withoutFailpoints_unescaped :
    (unescaped : Rule ν).withoutFailpoints = unescaped := rfl

@[simp] theorem withoutFailpoints_finishWith (result : Except Fault Value) :
    (finishWith result : Steps ν).withoutFailpoints = finishWith result := by
  cases result <;> rfl

/-- The limit for the digits is kept. -/
@[simp] theorem withoutFailpoints_numberSteps (limits : Limits) (start : State) (parts : Value) :
    (numberSteps limits start parts : Steps ν).withoutFailpoints =
      numberSteps limits start parts := by
  unfold numberSteps
  split
  · dsimp only
    split <;> simp
  · rfl

/-- The limit for the nesting is kept. -/
@[simp] theorem withoutFailpoints_withinDepth (limits : Limits) (next : Steps ν) :
    (withinDepth limits next).withoutFailpoints = withinDepth limits next.withoutFailpoints := by
  refine congrArg Steps.getState (funext fun state => ?_)
  dsimp only
  split
  · split
    · rfl
    · rfl
    · split <;> rfl
  · rfl

/-- Members are relaxed part by part. -/
@[simp] theorem withoutFailpoints_members (first additional : Rule ν)
    (close : List Value → Steps ν) :
    (members first additional close).withoutFailpoints =
      members first.withoutFailpoints additional.withoutFailpoints
        fun items => (close items).withoutFailpoints := by
  refine congrArg (Steps.apply _) (funext fun product => ?_)
  cases product with
  | none => rfl
  | _ =>
      refine congrArg (Steps.apply _) (funext fun rest => ?_)
      cases rest <;> rfl

/-- A test of a product is no failpoint. -/
@[simp] theorem withoutFailpoints_accepting (subrule : Rule ν) (accepts : Value → Bool) :
    (Rule.accepting subrule accepts).withoutFailpoints =
      .accepting subrule.withoutFailpoints accepts := by
  refine congrArg (Rule.bind _) (funext fun product => ?_)
  dsimp only
  split <;> rfl

/-! ## Rules that backtrack -/

/-- A point or an exponent mark without digits behind it is left alone. -/
theorem withoutFailpoints_number (limits : Limits) :
    (number limits : Rule ν).withoutFailpoints =
      .derivation (.getState fun start => .apply
        (.sequence [.optional (char '-') .none, integralPart,
          .optional (.sequence [char '.', .oneOrMore digit]) .none,
          .optional (.sequence [.literalChoice tracked (tokens "eE"),
            .optional (.choice [char '+', char '-']) .none, .oneOrMore digit]) .none])
        fun product => numberSteps limits start product) [] := by
  simp [number, numberParts, fractionalPart, exponentialPart]

/-- A backslash that no escape follows is declined. -/
theorem withoutFailpoints_escape :
    (escape : Rule ν).withoutFailpoints =
      .derivation (.apply (char '\\') fun _ => .apply (.choice
        [.derivation (.apply (char 'u') fun _ => .apply hexQuad.withoutFailpoints fun product =>
          (unitSteps product).withoutFailpoints) [], shortEscape]) .finish) [] := by
  simp [escape, unicodeEscape]

/-- A string that is not closed is declined. -/
theorem withoutFailpoints_string :
    (string : Rule ν).withoutFailpoints =
      .derivation (.apply (char '"') fun _ =>
        .apply (.zeroOrMore (.choice [escape.withoutFailpoints, unescaped])) fun contents =>
          .apply (char '"') fun _ => match contents.joined? with
            | some points => .finish (.str points)
            | none => .fault .typeMismatch) [] := by
  simp only [string, Rule.withoutFailpoints, Rule.allWithoutFailpoints, Steps.withoutFailpoints,
    withoutFailpoints_char, withoutFailpoints_unescaped]
  congr
  funext _
  congr
  funext contents
  congr
  funext _
  cases contents.joined? <;> rfl

/-- Without a value behind a comma the items end in front of the comma. -/
theorem withoutFailpoints_array (limits : Limits) (self : Rule ν) :
    (array limits self).withoutFailpoints =
      .derivation (.apply (bracket '[' 1) fun _ => withinDepth limits (members
        self.withoutFailpoints
        (.derivation (.apply (separator ',') fun _ => .apply self.withoutFailpoints .finish) [])
        fun items => .apply (bracket ']' (-1)) fun _ =>
          .finish (.record .array [.tuple items]))) [] := by
  simp [array, additionalValue]

/-- An entry is declined where a part of it is missing. -/
theorem withoutFailpoints_entrySteps (key self : Rule ν) :
    (entrySteps key self).withoutFailpoints =
      .apply key.withoutFailpoints fun name => .apply (separator ':') fun _ =>
        .apply self.withoutFailpoints fun value => .finish (.tuple [name, value]) := by
  simp [entrySteps]

/-- Without an entry behind a comma the entries end in front of the comma. -/
theorem withoutFailpoints_object (limits : Limits) (self : Rule ν) :
    (object limits self).withoutFailpoints =
      .derivation (.apply (bracket '\x7b' 1) fun _ => withinDepth limits (members
        (.derivation (entrySteps string self).withoutFailpoints [])
        (.derivation (.apply (separator ',') fun _ =>
          (entrySteps string self).withoutFailpoints) [])
        fun entries => .apply (bracket '\x7d' (-1)) fun _ =>
          .finish (.record .object [.tuple entries]))) [] := by
  simp [object, entry, additionalEntry, withoutFailpoints_entrySteps]

/-! ## What backtracking consumes -/

/-- Four digits, if they are there. -/
theorem readsUnit_backtracking :
    ReadsUnit laps resolve True (hexQuad : Rule ν).withoutFailpoints :=
  readsUnit_hexDigits

/-- Behind a high surrogate an escape that is not complete is left alone. -/
theorem readsPartner_backtracking (unit : CodeUnit) :
    ReadsPartner laps resolve (unitSteps (.int unit.number) : Steps ν).withoutFailpoints := by
  by_cases isHigh : CodePoint.isHighSurrogate unit.number
  · obtain ⟨following, steps, alone, joined⟩ : ∃ following : Value → Steps ν, _ :=
      unitSteps_of_high isHigh
    have low : ReadsLowSurrogate laps resolve (lowSurrogate : Rule ν).withoutFailpoints := by
      rw [lowSurrogate, withoutFailpoints_accepting]
      exact readsLowSurrogate_of readsUnit_backtracking
    rw [steps]
    refine readsPartner_optional low ⟨unit.point, ?_⟩
      fun other isLow => ⟨⟨_, joinSurrogates_lt isHigh isLow⟩, ?_⟩
    · rw [alone]
      rfl
    · rw [joined other isLow]
      rfl
  · rw [unitSteps_of_not_high (by simpa using isHigh)]
    exact readsPartner_finish _

/-- Escapes that are complete. -/
theorem readsItems_backtracking :
    ReadsItems laps resolve (escape : Rule ν).withoutFailpoints := by
  rw [withoutFailpoints_escape]
  exact ((readsEscaped_unit readsUnit_backtracking readsPartner_backtracking).choice
    readsEscaped_short).items

/-- A string that is closed. -/
theorem readsText_string_backtracking (depth : Int) :
    ReadsText laps (fun points => ∃ items, points = StringItem.quoted items) noFailure depth True
      ((string : Rule ν).withoutFailpoints.evaluate laps resolve) := by
  rw [withoutFailpoints_string]
  exact readsText_quoted readsItems_backtracking readsQuote_char depth

/-- A number, up to where digits are missing behind a point or an exponent mark. -/
theorem readsText_number_backtracking (limits : Limits) (depth : Int) :
    ReadsValue laps limits depth True
      ((number limits : Rule ν).withoutFailpoints.evaluate laps resolve) := by
  rw [withoutFailpoints_number]
  exact readsText_number limits (readsFraction_of readsDigits_some)
    (readsExponent_of readsDigits_some) depth

section Containers

variable {limits : Limits} {depth : Int} {self : Rule ν}
  (readsNested : depth + 1 ≤ limits.maxDepth →
    ReadsValue laps limits (depth + 1) True (self.withoutFailpoints.evaluate laps resolve))

include readsNested

/-- An array, if the rule for its items reads one level deeper. -/
theorem readsText_array_backtracking :
    ReadsValue laps limits depth True
      ((array limits self).withoutFailpoints.evaluate laps resolve) := by
  rw [withoutFailpoints_array]
  exact readsText_items readsNested readsNested (readsMark_closing (by decide) depth)

/-- An object, if the rule for its values reads one level deeper. -/
theorem readsText_object_backtracking :
    ReadsValue laps limits depth True
      ((object limits self).withoutFailpoints.evaluate laps resolve) := by
  have readsEntry : depth + 1 ≤ limits.maxDepth →
      ReadsText laps (EntryText limits (depth + 1)) (EntryExceeds limits (depth + 1)) (depth + 1)
        True ((entrySteps string self).withoutFailpoints.evaluate laps resolve) := by
    intro within
    rw [withoutFailpoints_entrySteps]
    exact readsText_entry (readsText_string_backtracking _) (readsMark_separator (by decide) _)
      (readsNested within)
  rw [withoutFailpoints_object]
  exact readsText_entries readsEntry readsEntry (readsMark_closing (by decide) depth)

/-- A value that backtracks consumes a phrase, if the rule for nested values does so one level
deeper. -/
theorem readsText_value_backtracking :
    ReadsValue laps limits depth True
      ((value limits self).withoutFailpoints.evaluate laps resolve) := by
  have readsKeyword : ReadsValue laps limits depth True
      ((keyword : Rule ν).withoutFailpoints.evaluate laps resolve) := by
    rw [withoutFailpoints_keyword]
    exact readsText_keyword limits depth
  exact (readsText_stringValue limits (readsText_string_backtracking depth)).choice_cons <|
    (readsText_number_backtracking limits depth).choice_cons <|
      readsKeyword.choice_cons <|
        (readsText_array_backtracking readsNested).choice_cons <|
          (readsText_object_backtracking readsNested).choice_cons fun _ _ _ => .choice_nil trivial

end Containers

/-- The value rule of the backtracking grammar, unfolded as often as values can nest. -/
theorem readsText_unfolded_backtracking (limits : Limits) (laps : Nat) {unfoldings : Nat}
    {depth : Int} (enough : limits.maxDepth ≤ depth + unfoldings) :
    ReadsValue laps limits depth True
      ((grammar limits).withoutFailpoints.evaluateWithin laps unfoldings
        (value limits (.reference ())).withoutFailpoints) := by
  induction unfoldings generalizing depth with
  | zero =>
      refine readsText_value_backtracking fun within => ?_
      omega
  | succ unfoldings inductionHypothesis =>
      exact readsText_value_backtracking fun _ => inductionHypothesis (by omega)

/-- A whole document, read by backtracking. -/
theorem reads_document_backtracking {limits : Limits} {unfoldings : Nat}
    (unfolds : limits.maxDepth ≤ unfoldings) (deep : cursor.depth = 0)
    (enough : cursor.rest.length < laps) :
    cursor.Reads
      (fun consumed _ _ => DocumentText limits consumed) True
      (Stops (DocumentText limits) (DocumentExceeds limits))
      ((grammar limits).withoutFailpoints.evaluateWithin laps (unfoldings + 1)
        (document (.reference ())).withoutFailpoints cursor.state).reply := by
  have relaxed : (document (.reference ()) : Rule Unit).withoutFailpoints =
      document (.reference ()) := by
    simp [document]
  rw [relaxed]
  exact reads_around (readsText_unfolded_backtracking limits laps (by simpa using unfolds)) deep
    enough

/-! ## Documents -/

namespace Loader

/-- Applies the document grammar without its failpoints to a source. -/
def backtrackingReport (loader : Loader) (budget : Budget) (source : Text) : Report :=
  .of ((grammar loader.limits).withoutFailpoints.evaluate budget
    (document (.reference ())).withoutFailpoints) (initialState source)

variable {loader : Loader} {budget : Budget} {source : Text} {product : Value}

/-- A reply that is classified as a success is a match of the whole source. -/
theorem exists_matched_of_success {initial : State} {reply : Reply Value}
    (success : Outcome.classify initial reply = .ok (.success product)) :
    ∃ final, reply = .matched product final ∧ final.atEnd := by
  cases reply with
  | matched value final =>
      simp only [Outcome.classify, Except.ok.injEq] at success
      split at success
      · next atEnd =>
          cases success
          exact ⟨final, rfl, atEnd⟩
      · cases success
  | declined => cases success
  | failed error =>
      simp only [Outcome.classify] at success
      split at success <;> cases success
  | raised fault => cases success
  | exhausted => cases success

/-- A budget that is at least a given one and that no document within the limits exceeds. -/
def ampleBudget (loader : Loader) (budget : Budget) (source : Text) : Budget where
  unfoldings := max budget.unfoldings loader.limits.maxDepth.toNat + 1
  laps := max budget.laps source.length + 1

/-- An ample budget is no smaller than the given one. -/
theorem le_ampleBudget : budget ≤ loader.ampleBudget budget source :=
  ⟨Nat.le_succ_of_le (Nat.le_max_left _ _), Nat.le_succ_of_le (Nat.le_max_left _ _)⟩

/-- What the backtracking grammar accepts is the text of a document within the limits. -/
theorem exists_form_of_backtracking
    (accepted : (loader.backtrackingReport budget source).outcome = .ok (.success product)) :
    ∃ form : Form, form.text = source ∧
      loader.limits.Fits 0 form.phrase.nesting form.phrase.literals := by
  obtain ⟨final, replied, atEnd⟩ := exists_matched_of_success accepted
  have reads : (Cursor.start source).Reads
      (fun consumed _ _ => DocumentText loader.limits consumed) True
      (Stops (DocumentText loader.limits) (DocumentExceeds loader.limits))
      ((grammar loader.limits).withoutFailpoints.evaluate (loader.ampleBudget budget source)
        (document (.reference ())).withoutFailpoints (initialState source)).reply :=
    reads_document_backtracking (by omega) rfl (Nat.lt_succ_of_le (Nat.le_max_right _ _))
  rw [Grammar.evaluate_of_le le_ampleBudget (by rw [replied]; simp), replied] at reads
  exact exists_form_of_matched reads atEnd

/-- A document within the limits is matched by the committed grammar within an ample budget. -/
theorem exists_matched_ampleBudget {form : Form}
    (fits : loader.limits.Fits 0 form.phrase.nesting form.phrase.literals) :
    ∃ product final, ((grammar loader.limits).evaluate (loader.ampleBudget budget form.text)
      (document (.reference ())) (initialState form.text)).reply = .matched product final := by
  have takes : (Cursor.start form.text).Reads
      (fun _ product next => product = form.phrase.node.toValue ∧ next.rest = []) False noFailure
      ((grammar loader.limits).evaluate (loader.ampleBudget budget form.text)
        (document (.reference ())) (initialState form.text)).reply :=
    takes_document (by omega) fits rfl rfl (Nat.lt_succ_of_le (Nat.le_max_right _ _))
  obtain ⟨_, product, next, -, -, replied⟩ := takes.exists_matched
  exact ⟨product, next.state, replied⟩

/-- An outcome, unless a nesting limit with too many digits was to be named. -/
def Settles (loader : Loader) (judged : Except Stop Outcome) : Prop :=
  (∃ outcome, judged = .ok outcome) ∨
    loader.limits.depthIsWritable = false ∧ judged = .error (.fault .longNumeral)

/-- A reading with a description comes to an outcome. -/
theorem settles_of_reads {reply : Reply Value}
    (reads : (Cursor.start source).Reads (fun consumed _ _ => DocumentText loader.limits consumed)
      True (Stops (DocumentText loader.limits) (DocumentExceeds loader.limits)) reply) :
    loader.Settles (Outcome.classify (initialState source) reply) := by
  cases reads with
  | matched => exact .inl ⟨_, rfl⟩
  | declined => exact .inl ⟨_, rfl⟩
  | @failed _ error _ passes place _ =>
      have named : error.state.placeIsWritable = true := by rw [place, passes.placeIsWritable]
      exact .inl ⟨.escalated error, if_pos named⟩
  | raised _ stops => exact .inr ⟨stops.exceeds_of_unworded.1, rfl⟩

/-- The grammar with its failpoints and the grammar without them succeed on the same sources and
with the same products, whatever the limits and the budget are; and the standard budget is enough
for both of them to come to an outcome. -/
theorem report_success_iff_backtracking (loader : Loader) (source : Text) :
    (∀ budget product, (loader.report budget source).outcome = .ok (.success product) ↔
      (loader.backtrackingReport budget source).outcome = .ok (.success product)) ∧
    loader.Settles (loader.report (loader.standardBudget source) source).outcome ∧
    loader.Settles (loader.backtrackingReport (loader.standardBudget source) source).outcome := by
  refine ⟨fun budget product => ⟨?_, ?_⟩, settles_of_reads (loader.reads_reply source),
    settles_of_reads
      (reads_document_backtracking (by omega) rfl (Nat.lt_succ_self source.length))⟩
  · intro accepted
    obtain ⟨final, replied, -⟩ := exists_matched_of_success accepted
    have same := Grammar.reply_withoutFailpoints_of_matched ⟨Nat.le_refl _, Nat.le_refl _⟩ replied
    exact (congrArg (Outcome.classify (initialState source)) same).trans accepted
  · intro accepted
    obtain ⟨form, rfl, fits⟩ := exists_form_of_backtracking accepted
    obtain ⟨node, final, replied⟩ := exists_matched_ampleBudget fits
    have same := Grammar.reply_withoutFailpoints_of_matched le_ampleBudget replied
    exact (congrArg (Outcome.classify (initialState form.text)) same).symm.trans accepted

end Loader

end Document

end Descent
