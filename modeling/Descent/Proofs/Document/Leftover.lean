import Descent.Proofs.Document.Literals
import Descent.Proofs.Document.NestingLimit
import Descent.Proofs.Document.WrongCharacter

/-!
# Input left behind a document

What is left over begins where the longest document ends. The part that was matched is the text of
a document with the node that is carried on, so this part alone is accepted with the same node.
Behind it only white space is open, of which none is ahead, so no document goes on with the next
character.

A number is the one phrase without an end of its own, and a match may end in front of what a number
can go on with, as in `01` or `1.5.3`. That phrases are read as their nodes says nothing there, so
the node of such a match is taken from what the number rule reads.
-/

namespace Descent.Document

variable {ν : Type} {laps : Nat} {resolve : ν → Behaviour} {cursor : Cursor}

/-! ## The node of a match -/

/-- Where a literal is ahead, the value rule takes some literal and no other kind of value, whatever
stands behind it. -/
theorem reads_value_literal {limits : Limits} {self : Rule ν} {literal : NumberLiteral}
    {points : Text} (ahead : cursor.rest = literal.text ++ points)
    (enough : cursor.rest.length < laps) :
    cursor.Reads
      (fun consumed product _ => ∃ taken : NumberLiteral, consumed = taken.text ∧
        product = scalar taken.value)
      False (fun _ _ _ => True)
      ((value limits self).evaluate laps resolve cursor.state).reply := by
  have noQuote : cursor.rest.head? ≠ some (CodePoint.ofChar '"') := by
    rw [ahead]
    exact literal.head?_ne_quote points
  have begins : BeginsNumber cursor.rest := by
    obtain ⟨digit, digits, run, isDigit⟩ := Digits.exists_head literal.integral
    rw [ahead, NumberLiteral.text, NumberLiteral.signText, run]
    cases literal.negative with
    | true => exact ⟨digit, _, isDigit, .inr rfl⟩
    | false => exact ⟨digit, _, isDigit, .inl rfl⟩
  have reads : cursor.Reads _ _ _
      ((number limits : Rule ν).evaluate laps resolve cursor.state).reply :=
    reads_number limits (readsFraction_of (readsDigits_mandatory _))
      (readsExponent_of (readsDigits_mandatory _)) enough
  refine (declines_stringValue noQuote).choice_skip (Cursor.Reads.choice_cons
    ((reads.mayFail.weakenMatch ?_).weakenDecline ?_) False.elim)
  · rintro consumed _ next - ⟨taken, rfl, -, rfl, -⟩
    exact ⟨taken, rfl, rfl⟩
  · exact (beginsNumber_iff cursor.rest).mp begins

/-- A value that is matched is a phrase, and the product is the node of the phrase. -/
theorem reads_value_node (limits : Limits) (laps : Nat) {unfoldings : Nat} {depth : Int}
    (unfolds : limits.maxDepth ≤ depth + unfoldings) (deep : cursor.depth = depth)
    (bare : skipBlanks cursor.rest = cursor.rest) (enough : cursor.rest.length < laps) :
    cursor.Reads
      (fun consumed product _ => ∃ phrase : Phrase, consumed = phrase.text ∧
        product = phrase.node.toValue)
      True (fun _ _ _ => True)
      ((grammar limits).evaluateWithin laps unfoldings (value limits (.reference ()))
        cursor.state).reply := by
  have reads := readsText_unfolded limits laps unfolds cursor deep enough
  generalize replied : ((grammar limits).evaluateWithin laps unfoldings
    (value limits (.reference ())) cursor.state).reply = reply at reads
  cases reads with
  | declined => exact .declined trivial
  | failed passes place => exact .failed passes place trivial
  | raised passes => exact .raised passes trivial
  | @matched _ product next passes holds =>
      obtain ⟨⟨phrase, fits, rfl⟩, -, -⟩ := holds
      have ahead : cursor.rest = phrase.text ++ next.rest := passes.rest
      by_cases ends : phrase.EndsBefore next.rest
      · have takes := takes_phrase limits laps phrase unfoldings depth unfolds fits cursor next.rest
          deep (by rw [← ahead, bare]) ends enough
        rw [replied] at takes
        obtain ⟨_, _, _, -, ⟨rfl, -⟩, same⟩ := takes.exists_matched
        exact .matched passes ⟨phrase, rfl, (Reply.matched.inj same).1⟩
      · -- Only a number may be followed by more of its kind.
        cases phrase with
        | number literal =>
            obtain ⟨resolve, unfolded⟩ :=
              exists_resolve limits laps unfoldings (value limits (.reference ()))
            rw [unfolded] at replied
            rw [← replied]
            refine (reads_value_literal ahead enough).neverDeclines.weakenMatch ?_
            rintro _ _ _ - ⟨taken, rfl, rfl⟩
            exact ⟨.number taken, rfl, rfl⟩
        | string | word | emptyArray | array | emptyObject | object => exact absurd trivial ends

/-- A match of the document rule is the text of a document, and the product is its node. -/
theorem reads_document_node {limits : Limits} {unfoldings : Nat}
    (unfolds : limits.maxDepth ≤ unfoldings) (deep : cursor.depth = 0)
    (enough : cursor.rest.length < laps) :
    cursor.Reads
      (fun consumed product _ => ∃ form : Form, consumed = form.text ∧
        product = form.phrase.node.toValue)
      True (fun _ _ _ => True)
      ((grammar limits).evaluateWithin laps (unfoldings + 1) (document (.reference ()))
        cursor.state).reply := by
  have parts : cursor.Reads
      (fun consumed product _ => ∃ (form : Form) (first third : Value), consumed = form.text ∧
        product = .tuple [first, form.phrase.node.toValue, third])
      True (fun _ _ _ => True)
      ((grammar limits).evaluateWithin laps (unfoldings + 1)
        (.sequence [whitespace, .reference (), whitespace]) cursor.state).reply := by
    refine Cursor.Reads.sequence ?_
    refine Cursor.Reads.parts_cons (reads_whitespace enough).neverFails.neverDeclines ?_
    rintro _ _ first passes ⟨⟨before, rfl⟩, ahead, firstDepth⟩
    have firstShorter := passes.length
    have value := reads_value_node limits laps (by simpa using unfolds) (firstDepth.trans deep)
      (by rw [ahead, skipBlanks_skipBlanks]) (show first.rest.length < laps by omega)
    refine Cursor.Reads.parts_cons value.mayDecline ?_
    rintro _ _ second secondPasses ⟨phrase, rfl, rfl⟩
    have secondShorter := secondPasses.length
    refine Cursor.Reads.parts_cons (reads_whitespace (by omega)).neverFails.neverDeclines ?_
    rintro _ _ third - ⟨⟨after, rfl⟩, -, -⟩
    exact .parts_nil ⟨⟨before, phrase, after⟩, _, _, by simp [Form.text], rfl⟩
  refine parts.semantics ?_
  rintro _ _ next ⟨form, first, third, rfl, rfl⟩
  exact ⟨_, rfl, form, rfl, rfl⟩

/-! ## Longer documents -/

/-- Where only white space is open and none is ahead, the text cannot be followed any further. -/
theorem Awaits.follow_eq_none_of_blanks {before ahead : Text} {wrong : CodePoint}
    (awaits : Awaits before ahead [.blanks]) (bare : skipBlanks ahead = ahead)
    (head : ahead.head? = some wrong) : follow atStart (before ++ [wrong]) = none := by
  obtain ⟨others, rfl⟩ := List.head?_eq_some_iff.mp head
  refine awaits.follow_eq_none ⟨others, rfl⟩ (List.cons_ne_nil _ _) ?_
  rw [follow_singleton, advance_blanks (isBlank_of_head bare head)]
  rfl

namespace Loader

variable {loader : Loader} {source : Text} {diagnostic : Diagnostic}

/-- A match is the text of a document within the limits, the product is its node, and behind it only
white space is open, of which none is ahead. -/
theorem reads_match (loader : Loader) (source : Text) :
    (Cursor.start source).Reads
      (fun consumed product next =>
        (∃ form : Form, loader.limits.Fits 0 form.phrase.nesting form.phrase.literals ∧
          consumed = form.text ∧ product = form.phrase.node.toValue) ∧
        next.Awaits [.blanks] ∧ skipBlanks next.rest = next.rest)
      True (Stops (DocumentText loader.limits) (DocumentExceeds loader.limits))
      (loader.reply source) := by
  have node : (Cursor.start source).Reads _ True (fun _ _ _ => True) (loader.reply source) :=
    reads_document_node (Int.self_le_toNat loader.limits.maxDepth) rfl (Nat.lt_succ_self _)
  have both := ((loader.reads_reply source).and node).and (loader.reads_prospect source)
  refine both.mayDecline.weakenMatch ?_
  rintro _ _ next - ⟨⟨⟨form, fits, rfl⟩, other, texts, rfl⟩, ended⟩
  exact ⟨⟨form, fits, rfl, by rw [Form.node_eq_of_text_eq texts]⟩, ended⟩

/-- A part of a source that is not too large is not too large. -/
theorem refusesSize_take (sized : loader.refusesSize source = false) (width : Nat) :
    loader.refusesSize (source.take width) = false := by
  simp only [refusesSize, Bool.and_eq_false_iff, decide_eq_false_iff_not, List.length_take]
    at sized ⊢
  omega

/-- Where only white space is open behind a part of a source and none is ahead, no text is accepted
that goes on with the next character of the source. -/
theorem parse_longer {consumed : Text} {next : Cursor}
    (passes : (Cursor.start source).Passes consumed next) (awaits : next.Awaits [.blanks])
    (bare : skipBlanks next.rest = next.rest) {wrong : CodePoint}
    (head : next.rest.head? = some wrong) (more : Text) (node : Node) :
    (loader.parse (consumed ++ wrong :: more)).result ≠ .ok node := by
  intro accepted
  have stops := awaits.follow_eq_none_of_blanks bare head
  have before : next.before = [] ++ consumed := passes.before
  rw [before, List.nil_append] at stops
  rw [List.append_cons] at accepted
  exact not_documentText_of_follow stops more (documentText_of_ok accepted)

/-- Input that is reported as left over is behind a match, and the report stands there. -/
theorem exists_match_of_reported (reported : (loader.parse source).diagnostic? = some diagnostic)
    (code : diagnostic.code = .leftoverInput) :
    ∃ consumed next, ∃ form : Form, (Cursor.start source).Passes consumed next ∧
      loader.limits.Fits 0 form.phrase.nesting form.phrase.literals ∧ consumed = form.text ∧
      loader.reply source = .matched form.phrase.node.toValue next.state ∧
      next.Awaits [.blanks] ∧ skipBlanks next.rest = next.rest ∧ next.rest ≠ [] ∧
      diagnostic.position = some next.state.pos := by
  have sized := sized_of_code_ne reported (by simp [code])
  obtain ⟨rejection, rejected, carried⟩ := Loaded.exists_rejection_of_diagnostic reported
  have reads := loader.reads_match source
  have judged := parse_result sized
  rw [rejected] at judged
  generalize loader.reply source = reply at reads judged
  cases reads with
  | @matched consumed product next passes holds =>
      obtain ⟨⟨form, fits, rfl, rfl⟩, awaits, bare⟩ := holds
      by_cases ended : next.rest = []
      · rw [Outcome.classify, if_pos (next.atEnd_iff.mpr ended)] at judged
        simp only [nodeOf, Outcome.unwrap, bind, Except.bind, Node.ofValue?_toValue] at judged
        cases judged
      · have inside : next.state.atEnd = false :=
          Bool.eq_false_iff.mpr fun atEnd => ended (next.atEnd_iff.mp atEnd)
        rw [Outcome.classify, inside] at judged
        have made := Outcome.exists_diagnostic_of_reject
          (Except.error.inj (unwrap_of_nodeOf judged.symm)) carried
        obtain ⟨span, -, rfl⟩ := State.exists_span_of_made (of_requireWritable made)
        exact ⟨_, next, form, passes, fits, rfl, rfl, awaits, bare, ended, rfl⟩
  | declined =>
      have made := Outcome.exists_diagnostic_of_reject
        (Except.error.inj (unwrap_of_nodeOf judged.symm)) carried
      obtain ⟨span, -, rfl⟩ := State.exists_span_of_made (of_requireWritable made)
      cases code
  | @failed _ error _ passes place stops =>
      have named : error.state.placeIsWritable = true := by rw [place, passes.placeIsWritable]
      rw [Outcome.classify, if_pos named] at judged
      have made := Outcome.exists_diagnostic_of_reject
        (Except.error.inj (unwrap_of_nodeOf judged.symm)) carried
      obtain ⟨span, -, rfl⟩ := State.exists_span_of_made made
      cases stops with
      | expectation other => cases other.symm.trans code
      | nesting other => cases other.symm.trans code
      | digits other => cases other.symm.trans code
  | raised => cases judged

/-- Input that is left over begins where the longest document ends. The report stands inside of the
source, the source up to there is accepted with the node that the outcome carries, and no longer
part of the source is accepted, the whole source included. -/
theorem leftover_longest (loader : Loader) (source : Text) (diagnostic : Diagnostic)
    (reported : (loader.parse source).diagnostic? = some diagnostic)
    (code : diagnostic.code = .leftoverInput) :
    ∃ (place : Nat) (node : Node) (final : State),
      diagnostic.position = some (place : Int) ∧ place < source.length ∧
      (loader.report (loader.standardBudget source) source).outcome =
        .ok (.leftover node.toValue final) ∧ final.pos = place ∧
      (loader.parse (source.take place)).result = .ok node ∧
      ∀ longer, place < longer → ∀ other,
        (loader.parse (source.take longer)).result ≠ .ok other := by
  have sized := sized_of_code_ne reported (by simp [code])
  obtain ⟨consumed, next, form, passes, fits, spelled, replied, awaits, bare, left, position⟩ :=
    exists_match_of_reported reported code
  have whole : source = consumed ++ next.rest := passes.rest
  have pos : next.state.pos = consumed.length :=
    congrArg (fun points => (List.length points : Int)) passes.before
  obtain ⟨wrong, rest, ahead⟩ := List.exists_cons_of_ne_nil left
  refine ⟨consumed.length, form.phrase.node, next.state, by rw [position, pos], ?_, ?_, pos, ?_, ?_⟩
  · rw [whole, ahead]
    simp
  · show Outcome.classify (initialState source) (loader.reply source) = _
    have inside : next.state.atEnd = false :=
      Bool.eq_false_iff.mpr fun atEnd => left (next.atEnd_iff.mp atEnd)
    rw [replied, Outcome.classify, inside]
    rfl
  · have part := refusesSize_take sized consumed.length
    rw [whole, List.take_left, spelled] at part ⊢
    exact parse_form part fits
  · intro longer beyond other
    obtain ⟨further, rfl⟩ := Nat.exists_eq_add_of_lt beyond
    rw [whole, Nat.add_assoc, List.take_length_add_append, ahead, List.take_succ_cons]
    exact parse_longer passes awaits bare (by rw [ahead]; rfl) _ other

end Loader

/-- A second point: the longest document ends in front of it, though the text goes on with what a
number may hold. -/
theorem leftover_longest_point :
    ∃ node, (Loader.parse ⟨0, ⟨1, 0⟩⟩ (text "1.5")).result = .ok node ∧
      ∀ longer, 3 < longer → ∀ other,
        (Loader.parse ⟨0, ⟨1, 0⟩⟩ ((text "1.5.3").take longer)).result ≠ .ok other := by
  have reported : (Loader.parse ⟨0, ⟨1, 0⟩⟩ (text "1.5.3")).diagnostic?.map
      (fun diagnostic => (diagnostic.code, diagnostic.position)) =
        some (.leftoverInput, some 3) := by
    decide +kernel
  obtain ⟨diagnostic, found, described⟩ := Option.map_eq_some_iff.mp reported
  obtain ⟨code, position⟩ := Prod.mk.inj described
  obtain ⟨place, node, -, stands, -, -, -, accepted, longest⟩ :=
    Loader.leftover_longest ⟨0, ⟨1, 0⟩⟩ (text "1.5.3") diagnostic found code
  have third : place = 3 := by
    have places := Option.some.inj (stands.symm.trans position)
    omega
  subst third
  exact ⟨node, accepted, longest⟩

end Descent.Document
