import Descent.Proofs.Simulation
import Descent.Rule.Derived

/-!
# Places are relative

A rule that never asks for its state and words its errors by what it expects cannot see the tokens
that lie behind it: at an offset of a sequence it proceeds as it does at the beginning of what is
left from there. Products, contexts and remainders are equal, and all places differ by the offset.
The only text that shows the difference is the place in the message of a repetition that does not
move on.
-/

namespace Descent

/-! ## Token sequences from an offset on -/

namespace Tokens

variable {tokens : Tokens} {offset : Nat}

/-- A place inside a sequence is its own clamp. -/
theorem clampIndex_natCast {length index : Nat} (within : index ≤ length) :
    clampIndex length index = index := by
  unfold clampIndex
  rw [if_neg (Int.not_lt.mpr (Int.natCast_nonneg index)), Int.toNat_natCast]
  exact Nat.min_eq_left within

/-- The rest of a text … -/
theorem dropTo_text {points : Array CodePoint} (within : offset ≤ points.size) :
    (text points).dropTo offset = text (points.extract offset points.size) := by
  simp only [dropTo, slice, size, clampIndex_natCast within, clampIndex_natCast (Nat.le_refl _)]

/-- … and the rest of other tokens are cut out of them. -/
theorem dropTo_items {values : Array Value} (within : offset ≤ values.size) :
    (items values).dropTo offset = items (values.extract offset values.size) := by
  simp only [dropTo, slice, size, clampIndex_natCast within, clampIndex_natCast (Nat.le_refl _)]

/-- The rest is shorter by what was dropped … -/
theorem size_dropTo (within : offset ≤ tokens.size) :
    (tokens.dropTo offset).size = tokens.size - offset := by
  cases tokens with
  | text points => simp [dropTo_text within, size]
  | items values => simp [dropTo_items within, size]

/-- … and its tokens stand further behind in the whole. -/
theorem get?_dropTo (within : offset ≤ tokens.size) (index : Nat) :
    (tokens.dropTo offset).get? index = tokens.get? (offset + index) := by
  have extracted {α : Type} (values : Array α) :
      (values.extract offset values.size)[index]? = values[offset + index]? := by
    rw [Array.getElem?_extract]
    split
    · rfl
    · rw [Array.getElem?_eq_none (by omega)]
  cases tokens with
  | text points => simp [dropTo_text within, get?, extracted]
  | items values => simp [dropTo_items within, get?, extracted]

/-- The rest of a rest is a rest. -/
theorem dropTo_dropTo {index : Nat} (within : offset + index ≤ tokens.size) :
    (tokens.dropTo offset).dropTo index = tokens.dropTo (offset + index : Nat) := by
  have extracted {α : Type} (values : Array α) (first : offset ≤ values.size) :
      (values.extract offset values.size).extract index (values.extract offset values.size).size =
        values.extract (offset + index) values.size := by
    rw [Array.extract_extract, Array.size_extract]
    congr 1
    omega
  have left : index ≤ (tokens.dropTo offset).size := by
    rw [size_dropTo (by omega)]
    omega
  have first : offset ≤ tokens.size := by omega
  cases tokens with
  | text points =>
      rw [dropTo_text first] at left ⊢
      rw [dropTo_text left, dropTo_text within, extracted points first]
  | items values =>
      rw [dropTo_items first] at left ⊢
      rw [dropTo_items left, dropTo_items within, extracted values first]

end Tokens

/-! ## States and errors at an offset -/

/-- A state of a whole sequence, and the state at the same token of what is left from an offset on.
Neither lies outside its sequence. -/
structure State.Relocated (offset : Nat) (whole part : State) : Prop where
  tokens : part.tokens = whole.tokens.dropTo offset
  pos : whole.pos = part.pos + offset
  context : whole.context = part.context
  maxDigits : whole.maxDigits = part.maxDigits
  nonneg : 0 ≤ part.pos
  within : whole.pos ≤ whole.tokens.size

/-- The message of a repetition that does not move on from a place. -/
def stallMessage (place : Int) : Text := (Diagnostic.noProgress none (some place)).message

/-- Two errors that differ in nothing but their states, and in the place that the message of a
repetition names. -/
structure ParseError.SameUpTo (states : State → State → Prop) (whole part : ParseError) :
    Prop where
  state : states whole.state part.state
  code : whole.code = part.code
  expected : whole.expected = part.expected
  found : whole.found = part.found
  message : whole.code ≠ .noProgress → whole.message = part.message
  stalled : whole.code = .noProgress →
    whole.message = stallMessage whole.state.pos ∧ part.message = stallMessage part.state.pos

/-- What can be seen of two states at one token: places that differ by the offset, equal contexts
and equal remainders. -/
structure State.ShowsAlike (offset : Nat) (whole part : State) : Prop where
  pos : whole.pos = part.pos + offset
  context : whole.context = part.context
  remainder : whole.remainder = part.remainder

namespace State.Relocated

variable {offset : Nat} {whole part : State}

/-- The offset lies inside the whole sequence. -/
theorem offset_le (related : Relocated offset whole part) : offset ≤ whole.tokens.size := by
  have pos := related.pos
  have nonneg := related.nonneg
  have within := related.within
  omega

/-- The part is shorter by the offset. -/
theorem size (related : Relocated offset whole part) :
    part.tokens.size = whole.tokens.size - offset := by
  rw [related.tokens, Tokens.size_dropTo related.offset_le]

/-- The place in the whole is no less than the offset, so it is not negative. -/
theorem whole_nonneg (related : Relocated offset whole part) : 0 ≤ whole.pos := by
  have pos := related.pos
  have nonneg := related.nonneg
  omega

/-- Both end at the same token. -/
theorem atEnd (related : Relocated offset whole part) : whole.atEnd = part.atEnd := by
  have size := related.size
  have offsetLe := related.offset_le
  have pos := related.pos
  unfold State.atEnd
  rw [decide_eq_decide]
  omega

/-- Both states read the same token. -/
theorem fetch (related : Relocated offset whole part) :
    whole.tokens.fetch whole.pos = part.tokens.fetch part.pos := by
  have nonneg := related.nonneg
  have place : whole.pos.toNat = offset + part.pos.toNat := by
    have pos := related.pos
    omega
  unfold Tokens.fetch
  rw [if_neg (Int.not_lt.mpr related.whole_nonneg), if_neg (Int.not_lt.mpr nonneg),
    if_neg (Int.not_lt.mpr related.whole_nonneg), if_neg (Int.not_lt.mpr nonneg), place,
    related.tokens, Tokens.get?_dropTo related.offset_le]

/-- Moving on keeps two states at one token. -/
theorem forward (related : Relocated offset whole part) (count : Nat) :
    Relocated offset (whole.forward count) (part.forward count) where
  tokens := related.tokens
  pos := by
    have size := related.size
    have offsetLe := related.offset_le
    have pos := related.pos
    simp only [State.forward]
    omega
  context := related.context
  maxDigits := related.maxDigits
  nonneg := by
    have nonneg := related.nonneg
    simp only [State.forward]
    omega
  within := by
    simp only [State.forward]
    omega

/-- Relocated states may take on the same context. -/
theorem withContext (related : Relocated offset whole part) (context : Value) :
    Relocated offset (whole.withContext context) (part.withContext context) :=
  ⟨related.tokens, related.pos, rfl, related.maxDigits, related.nonneg, related.within⟩

/-- What is left is the same sequence on both sides. -/
theorem dropTo (related : Relocated offset whole part) :
    whole.tokens.dropTo whole.pos = part.tokens.dropTo part.pos := by
  obtain ⟨index, indexEq⟩ := Int.eq_ofNat_of_zero_le related.nonneg
  have pos : whole.pos = ((offset + index : Nat) : Int) := by
    have pos := related.pos
    omega
  have within := related.within
  rw [related.tokens, indexEq, pos]
  exact (Tokens.dropTo_dropTo (by omega)).symm

/-- The next token is the same on both sides. -/
theorem next? (related : Relocated offset whole part) : whole.next? = part.next? := by
  rw [State.next?, State.next?, related.dropTo]

/-- Both places can be named in messages. -/
theorem writes (related : Relocated offset whole part) :
    whole.writes whole.pos = true ∧ part.writes part.pos = true := by
  have size := related.size
  have pos := related.pos
  have within := related.within
  have offsetLe := related.offset_le
  exact ⟨writes_of_within related.whole_nonneg (by omega),
    writes_of_within related.nonneg (by omega)⟩

/-- Relocated states show the same tokens, at places that differ by the offset. -/
theorem showsAlike (related : Relocated offset whole part) : ShowsAlike offset whole part where
  pos := related.pos
  context := related.context
  remainder := congrArg Tokens.toValue related.dropTo

end State.Relocated

/-- Errors at one token that show no place but that of a stalled repetition. -/
abbrev ParseError.Relocated (offset : Nat) : ParseError → ParseError → Prop :=
  ParseError.SameUpTo (State.Relocated offset)

/-- A behaviour that proceeds alike at an offset and at the beginning of what is left from there. -/
abbrev Behaviour.Relative (offset : Nat) (behaviour : Behaviour) : Prop :=
  Behaviour.Alike (State.Relocated offset) (ParseError.Relocated offset) behaviour behaviour

variable {offset : Nat}

/-- A terminal proceeds alike at an offset. -/
theorem Behaviour.relative_term (test : Value → Call Bool) :
    Behaviour.Relative offset (Behaviour.term test) := by
  intro whole part related
  unfold Behaviour.term State.current
  rw [related.atEnd]
  split
  · exact .declined
  · simp only [related.fetch]
    split
    · exact .raised _
    · apply Run.alike_branch (Call.alike_run .test _ related)
      · intro passes here there after
        cases passes with
        | true => exact .matched _ (after.forward 1)
        | false => exact .declined
      · exact .declined

/-- Evaluations at an offset and at the beginning of what is left from there. -/
abbrev Pairing.relocation (offset : Nat) : Pairing :=
  .alike (State.Relocated offset) (ParseError.Relocated offset)

/-- The error that an expectation is missing is worded alike at an offset. -/
theorem ErrorAt.relocated_expecting (expectation : Text) :
    (Pairing.relocation offset).Errors (.expecting expectation) (.expecting expectation) := by
  intro whole part related origin
  obtain ⟨span, spanEq⟩ := State.exists_span related.whole_nonneg
  obtain ⟨span', spanEq'⟩ := State.exists_span related.nonneg
  have written : whole.foundIsWritable = part.foundIsWritable := by
    rw [State.foundIsWritable, State.foundIsWritable, related.next?, related.maxDigits]
  have found : whole.foundToken = part.foundToken := by
    rw [State.foundToken, State.foundToken, related.next?]
  simp only [Behaviour.fail, expecting_of_span spanEq, expecting_of_span spanEq', written, found]
  cases part.foundIsWritable with
  | true =>
      refine .failed ⟨related, rfl, rfl, rfl, fun _ => rfl, ?_⟩
      intro stalled
      cases stalled
  | false => exact .raised .longNumeral

/-- Repetitions agree on progress, and a stalled one names its own place. -/
theorem State.relocated_progressive :
    Progressive (State.Relocated offset) (ParseError.Relocated offset) where
  samePosition {here there next next'} before after := by
    have places : (next.pos == here.pos) = (next'.pos == there.pos) := by
      rw [before.pos, after.pos, Bool.eq_iff_iff, beq_iff_eq, beq_iff_eq]
      omega
    simp only [State.samePosition, places, before.context, after.context]
  stall {here there} related := by
    obtain ⟨span, spanEq⟩ := State.exists_span related.whole_nonneg
    obtain ⟨span', spanEq'⟩ := State.exists_span related.nonneg
    simp only [Behaviour.stall, Run.after, Behaviour.fail, Behaviour.stallError,
      ErrorAt.wording_of_span spanEq, ErrorAt.wording_of_span spanEq', related.writes, if_true]
    refine .failed ⟨related, rfl, rfl, rfl, ?_, fun _ => ⟨rfl, rfl⟩⟩
    intro moved
    exact absurd rfl moved

/-- Every step of an evaluation keeps states relocated. -/
theorem Pairing.relocation_closed : (Pairing.relocation offset).Closed :=
  Pairing.alike_closed State.relocated_progressive Behaviour.relative_term

/-! ## Rules that do not look at their place -/

variable {ν : Type}

mutual

/-- A rule that never asks for its state and words its errors by what it expects. -/
def Rule.Placeless : Rule ν → Prop
  | .term _ | .empty | .reference _ | .fault _ => True
  | .semantics subrule _ | .optional subrule _ | .zeroOrMore subrule | .oneOrMore subrule
  | .exactly _ subrule | .updating subrule _ | .watched _ subrule => subrule.Placeless
  | .exclude subrule subtrahends => subrule.Placeless ∧ Rule.AllPlaceless subtrahends
  | .sequence subrules | .choice subrules => Rule.AllPlaceless subrules
  | .bind subrule continuation =>
    subrule.Placeless ∧ ∀ product, (continuation product).Placeless
  | .derivation steps _ => steps.Placeless
  | .failpoint subrule error =>
    subrule.Placeless ∧ ∃ expectation, error = ErrorAt.expecting expectation
  | .escalate error => ∃ expectation, error = ErrorAt.expecting expectation

/-- Rules none of which looks at its place. -/
def Rule.AllPlaceless : List (Rule ν) → Prop
  | [] => True
  | rule :: rest => rule.Placeless ∧ Rule.AllPlaceless rest

/-- A derivation that never asks for its state, whatever its rules produce. -/
def Steps.Placeless : Steps ν → Prop
  | .finish _ | .fault _ => True
  | .apply rule next => rule.Placeless ∧ ∀ product, (next product).Placeless
  | .getState _ => False
  | .remark _ next => next.Placeless

end

variable {resolve : ν → Behaviour}

mutual

/-- A rule that does not look at its place proceeds alike at an offset. -/
theorem Rule.relative (laps : Nat) (named : ∀ name, Behaviour.Relative offset (resolve name)) :
    ∀ (rule : Rule ν), rule.Placeless → Behaviour.Relative offset (rule.evaluate laps resolve)
  | .term test, _ => Pairing.relocation_closed.term test
  | .empty, _ => Pairing.relocation_closed.empty
  | .semantics subrule transform, placeless =>
    Pairing.relocation_closed.semantics (Rule.relative laps named subrule placeless) transform
  | .exclude subrule subtrahends, placeless =>
    Pairing.relocation_closed.exclude (Rule.relative laps named subrule placeless.1)
      (Rule.allRelative laps named subtrahends placeless.2)
  | .sequence subrules, placeless =>
    Pairing.relocation_closed.sequence (Rule.allRelative laps named subrules placeless)
  | .choice subrules, placeless =>
    Pairing.relocation_closed.choice (Rule.allRelative laps named subrules placeless)
  | .optional subrule default, placeless =>
    Pairing.relocation_closed.optional (Rule.relative laps named subrule placeless) default
  | .zeroOrMore subrule, placeless =>
    Pairing.relocation_closed.zeroOrMore (Rule.relative laps named subrule placeless)
  | .oneOrMore subrule, placeless =>
    Pairing.relocation_closed.oneOrMore (Rule.relative laps named subrule placeless)
  | .exactly count subrule, placeless =>
    Pairing.relocation_closed.exactly (Rule.relative laps named subrule placeless) count
  | .reference name, _ => Pairing.relocation_closed.reference (named name)
  | .bind subrule continuation, placeless =>
    Pairing.relocation_closed.bind (Rule.relative laps named subrule placeless.1) fun product =>
      Rule.relative laps named (continuation product) (placeless.2 product)
  | .derivation steps closing, placeless =>
    Pairing.relocation_closed.derivation (Steps.relative laps named steps placeless) closing
  | .failpoint subrule _, ⟨placeless, expectation, worded⟩ =>
    Pairing.relocation_closed.failpoint (Rule.relative laps named subrule placeless)
      (worded ▸ ErrorAt.relocated_expecting expectation)
  | .escalate _, ⟨expectation, worded⟩ =>
    Pairing.relocation_closed.escalate (worded ▸ ErrorAt.relocated_expecting expectation)
  | .updating subrule updaters, placeless => fun _ _ related =>
    Run.alike_branch (Rule.relative laps named subrule placeless related)
      (fun product _ _ => Behaviour.alike_update State.Relocated.context
        State.Relocated.withContext product updaters) .declined
  | .watched label subrule, placeless =>
    Pairing.relocation_closed.watched (Rule.relative laps named subrule placeless) label
  | .fault fault, _ => Pairing.relocation_closed.fault fault

/-- Rules that do not look at their place proceed alike at an offset. -/
theorem Rule.allRelative (laps : Nat) (named : ∀ name, Behaviour.Relative offset (resolve name)) :
    ∀ (rules : List (Rule ν)), Rule.AllPlaceless rules →
      List.Forall₂ (Pairing.relocation offset).Behaviours
        (Rule.evaluateAll laps resolve rules) (Rule.evaluateAll laps resolve rules)
  | [], _ => .nil
  | rule :: rest, placeless =>
    .cons (Rule.relative laps named rule placeless.1)
      (Rule.allRelative laps named rest placeless.2)

/-- A derivation that does not look at its place proceeds alike at an offset. -/
theorem Steps.relative (laps : Nat) (named : ∀ name, Behaviour.Relative offset (resolve name)) :
    ∀ (steps : Steps ν), steps.Placeless → Behaviour.Relative offset (steps.evaluate laps resolve)
  | .finish product, _ => Pairing.relocation_closed.finish product
  | .apply rule next, placeless =>
    Pairing.relocation_closed.apply (Rule.relative laps named rule placeless.1) fun product =>
      Steps.relative laps named (next product) (placeless.2 product)
  | .remark remark next, placeless =>
    Pairing.relocation_closed.remark remark (Steps.relative laps named next placeless)
  | .fault fault, _ => Pairing.relocation_closed.halt fault

end

namespace Grammar

variable {grammar : Grammar ν} (placeless : ∀ name rule, grammar name = some rule → rule.Placeless)

include placeless

/-- Unfolding names whose rules do not look at their place proceeds alike at an offset. -/
theorem relative_evaluateWithin (laps unfoldings : Nat) {root : Rule ν}
    (rootPlaceless : root.Placeless) :
    Behaviour.Relative offset (grammar.evaluateWithin laps unfoldings root) := by
  induction unfoldings generalizing root with
  | zero => exact Rule.relative laps (fun _ _ _ _ => .exhausted) root rootPlaceless
  | succ unfoldings inductionHypothesis =>
      refine Rule.relative laps ?_ root rootPlaceless
      intro name here there related
      cases defined : grammar name with
      | none => exact .raised .undefinedRule
      | some rule => exact inductionHypothesis (placeless name rule defined) related

/-- Evaluating a rule at an offset, and evaluating it at the beginning of what is left from there:
the replies are of one kind, with equal products, contexts, remainders, codes, expectations and
found tokens, with places that differ by the offset, and with equal messages but for the place
that a stalled repetition names. -/
theorem evaluate_suffix (budget : Budget) {root : Rule ν} (rootPlaceless : root.Placeless)
    (tokens : Tokens) {offset : Nat} (within : offset ≤ tokens.size) (context : Value)
    (maxDigits : Nat) :
    (grammar.evaluate budget root ⟨tokens, offset, context, maxDigits⟩).reply.Alike
      (State.ShowsAlike offset) (ParseError.SameUpTo (State.ShowsAlike offset))
      (grammar.evaluate budget root ⟨tokens.dropTo offset, 0, context, maxDigits⟩).reply := by
  have related : State.Relocated offset ⟨tokens, offset, context, maxDigits⟩
      ⟨tokens.dropTo offset, 0, context, maxDigits⟩ :=
    ⟨rfl, (Int.zero_add _).symm, rfl, rfl, Int.le_refl 0, Int.ofNat_le.mpr within⟩
  have alike := relative_evaluateWithin placeless budget.laps budget.unfoldings rootPlaceless
    related
  refine alike.mono State.Relocated.showsAlike ?_
  intro whole part errors
  exact ⟨errors.state.showsAlike, errors.code, errors.expected, errors.found, errors.message,
    errors.stalled⟩

end Grammar

/-- A rule that names itself, at an offset of two tokens: after `x` it wants `b` and finds `c`. -/
theorem evaluate_suffix_recursive :
    let element : Rule Unit := .choice
      [.sequence [.literal (.str (text "a")), .reference ()],
        .sequence [.literal (.str (text "x")),
          .failpoint (.literal (.str (text "b"))) (.expecting (text "b"))]]
    let grammar : Grammar Unit := fun _ => some element
    let tokens := Tokens.ofText (text "zzaxc")
    (∃ error, (grammar.evaluate ⟨3, 0⟩ element ⟨tokens, 2, .none, 0⟩).reply = .failed error ∧
        error.state.pos = 4) ∧
      (grammar.evaluate ⟨3, 0⟩ element ⟨tokens, 2, .none, 0⟩).reply.Alike
        (State.ShowsAlike 2) (ParseError.SameUpTo (State.ShowsAlike 2))
        (grammar.evaluate ⟨3, 0⟩ element ⟨tokens.dropTo 2, 0, .none, 0⟩).reply := by
  intro element grammar tokens
  have placeless : element.Placeless :=
    ⟨⟨trivial, trivial, trivial⟩, ⟨trivial, ⟨trivial, _, rfl⟩, trivial⟩, trivial⟩
  refine ⟨⟨_, rfl, rfl⟩, Grammar.evaluate_suffix ?_ ⟨3, 0⟩ placeless tokens (by decide) .none 0⟩
  intro name rule defined
  cases defined
  exact placeless

end Descent
