import Descent.Document.Loader
import Descent.Proofs.Document.Value.Completeness
import Descent.Proofs.Document.Value.Soundness

/-!
# What a loader accepts

A loader returns a node exactly for the texts of documents within its limits, and the node is that
of the document. Soundness says that an accepted text has a derivation, and completeness says which
node the loader returns for that derivation; the loader returns one node only, so a text that is
derived twice has one meaning.
-/

namespace Descent

/-! ## Nodes and their records -/

namespace Node

mutual

/-- A node is read back from its record. -/
theorem ofValue?_toValue : (node : Node) → ofValue? node.toValue = some node
  | .scalar value => rfl
  | .array items => by
      rw [toValue, ofValue?, ofValues?_toValues items]
      rfl
  | .object entries => by
      rw [toValue, ofValue?, entriesOfValues?_entriesToValues entries]
      rfl

/-- Nodes are read back from their records. -/
theorem ofValues?_toValues : (nodes : List Node) → ofValues? (toValues nodes) = some nodes
  | [] => rfl
  | node :: rest => by
      rw [toValues, ofValues?, ofValue?_toValue node, ofValues?_toValues rest]

/-- Entries are read back from their pairs. -/
theorem entriesOfValues?_entriesToValues : (entries : List (Text × Node)) →
    entriesOfValues? (entriesToValues entries) = some entries
  | [] => rfl
  | (key, node) :: rest => by
      rw [entriesToValues, entriesOfValues?, ofValue?_toValue node,
        entriesOfValues?_entriesToValues rest]

end

end Node

namespace Document

/-! ## Results of a loader -/

namespace Loader

/-- The reply of the document rule to a source. -/
def reply (loader : Loader) (source : Text) : Reply Value :=
  ((grammar loader.limits).evaluate (loader.standardBudget source) (document (.reference ()))
    (initialState source)).reply

/-- A source that is not too large is judged by the reply of the document rule. -/
theorem parse_result {loader : Loader} {source : Text} (sized : loader.refusesSize source = false) :
    (loader.parse source).result =
      match Outcome.classify (initialState source) (loader.reply source) with
      | .ok outcome => nodeOf outcome
      | .error .exhausted => rejectWhole loader.limits.depthIsWritable
          (.nestingDepthExceeded loader.limits.maxDepth none none)
      | .error stop => .error stop := by
  have outcome : (loader.report (loader.standardBudget source) source).outcome =
      Outcome.classify (initialState source) (loader.reply source) := rfl
  unfold parse parseWithin
  rw [if_neg (by simp [sized])]
  simp only [outcome]
  cases Outcome.classify (initialState source) (loader.reply source) with
  | ok outcome => rfl
  | error stop => cases stop <;> rfl

/-- The budget of a loader is enough: the document rule matches, declines or fails. -/
theorem reads_reply (loader : Loader) (source : Text) :
    (Cursor.start source).Reads
      (fun consumed _ _ => DocumentText loader.limits consumed) True
      (Stops (DocumentText loader.limits) (DocumentExceeds loader.limits))
      (loader.reply source) :=
  reads_document (by omega) rfl (Nat.lt_succ_self _)

/-- The place of an error can be named. -/
theorem placeIsWritable_of_failed {loader : Loader} {source : Text} {error : ParseError}
    (replied : loader.reply source = .failed error) : error.state.placeIsWritable = true := by
  have reads := loader.reads_reply source
  rw [replied] at reads
  cases reads with
  | failed passes place _ => rw [place, passes.placeIsWritable]

/-- The reply to the text of a document within the limits. -/
theorem takes_reply {loader : Loader} {form : Form}
    (fits : loader.limits.Fits 0 form.phrase.nesting form.phrase.literals) :
    (Cursor.start form.text).Reads
      (fun _ product next => product = form.phrase.node.toValue ∧ next.rest = [])
      False noFailure (loader.reply form.text) :=
  takes_document (by omega) fits rfl rfl (Nat.lt_succ_self _)

/-- A document within the limits is accepted, with its node. -/
theorem parse_form {loader : Loader} {form : Form} (sized : loader.refusesSize form.text = false)
    (fits : loader.limits.Fits 0 form.phrase.nesting form.phrase.literals) :
    (loader.parse form.text).result = .ok form.phrase.node := by
  obtain ⟨_, _, next, -, ⟨rfl, ended⟩, replies⟩ := (takes_reply fits).exists_matched
  have atEnd := next.atEnd_iff.mpr ended
  rw [parse_result sized, replies]
  simp only [Outcome.classify, atEnd, if_true, nodeOf, Outcome.unwrap, bind, Except.bind,
    Node.ofValue?_toValue]
  rfl

/-- A reading of the whole source is that of a document. -/
theorem exists_form_of_matched {limits : Limits} {source : Text} {product : Value} {final : State}
    {onDecline : Prop} {onFail : Text → Cursor → ParseError → Prop}
    (reads : (Cursor.start source).Reads (fun consumed _ _ => DocumentText limits consumed)
      onDecline onFail (.matched product final)) (atEnd : final.atEnd) :
    ∃ form : Form, form.text = source ∧
      limits.Fits 0 form.phrase.nesting form.phrase.literals := by
  cases reads with
  | @matched _ _ next passes holds =>
      obtain ⟨form, fits, rfl⟩ := holds
      have whole := passes.rest
      rw [next.atEnd_iff.mp atEnd, List.append_nil] at whole
      exact ⟨form, whole.symm, fits⟩

/-- What is accepted is the text of a document within the limits. -/
theorem exists_form {loader : Loader} {source : Text} {node : Node}
    (sized : loader.refusesSize source = false)
    (accepted : (loader.parse source).result = .ok node) :
    ∃ form : Form, form.text = source ∧
      loader.limits.Fits 0 form.phrase.nesting form.phrase.literals := by
  have reads := loader.reads_reply source
  rw [parse_result sized] at accepted
  generalize loader.reply source = reply at reads accepted
  cases reply with
  | matched product final =>
      by_cases atEnd : final.atEnd
      · exact exists_form_of_matched reads atEnd
      · simp only [Outcome.classify, atEnd, nodeOf, Outcome.unwrap, bind, Except.bind] at accepted
        cases accepted
  | declined => cases accepted
  | failed error =>
      cases named : error.state.placeIsWritable <;>
        simp [Outcome.classify, named, nodeOf, Outcome.unwrap, bind, Except.bind] at accepted
  | raised => cases accepted
  | exhausted =>
      cases written : loader.limits.depthIsWritable <;>
        simp [Outcome.classify, rejectWhole, written] at accepted

/-- A source that is accepted is not too long. -/
theorem refusesSize_of_ok {loader : Loader} {source : Text} {node : Node}
    (accepted : (loader.parse source).result = .ok node) : loader.refusesSize source = false := by
  refine Bool.eq_false_iff.mpr fun refused => ?_
  rw [parse, parseWithin, if_pos refused, rejectWhole] at accepted
  split at accepted <;> cases accepted

/-- A text that is accepted is a document within the limits. -/
theorem documentText_of_ok {loader : Loader} {source : Text} {node : Node}
    (accepted : (loader.parse source).result = .ok node) : DocumentText loader.limits source := by
  obtain ⟨form, rfl, fits⟩ := exists_form (refusesSize_of_ok accepted) accepted
  exact ⟨form, fits, rfl⟩

end Loader

/-- The limits at the outermost level. -/
theorem Limits.fits_iff {limits : Limits} {nesting : Nat} {literals : List NumberLiteral} :
    limits.Fits 0 nesting literals ↔
      nesting ≤ limits.maxDepth.toNat ∧ ∀ literal ∈ literals, limits.Admits literal := by
  constructor
  · rintro ⟨nests, admits⟩
    exact ⟨by omega, admits⟩
  · rintro ⟨nests, admits⟩
    exact ⟨by omega, admits⟩

/-- Two derivations of one text have one meaning. -/
theorem Form.node_eq_of_text_eq {first second : Form} (same : first.text = second.text) :
    first.phrase.node = second.phrase.node := by
  -- A loader that both derivations fit returns the node of either.
  let limits : Limits := ⟨max first.phrase.nesting second.phrase.nesting, 0⟩
  have fits : ∀ form : Form, form.phrase.nesting ≤ limits.maxDepth.toNat →
      limits.Fits 0 form.phrase.nesting form.phrase.literals := fun form nests =>
    Limits.fits_iff.mpr ⟨nests, fun _ _ _ positive => absurd positive (Nat.lt_irrefl 0)⟩
  have ofFirst : (Loader.parse ⟨0, limits⟩ first.text).result = .ok first.phrase.node :=
    Loader.parse_form rfl (fits first (by simp only [limits]; omega))
  have ofSecond : (Loader.parse ⟨0, limits⟩ second.text).result = .ok second.phrase.node :=
    Loader.parse_form rfl (fits second (by simp only [limits]; omega))
  rw [same, ofSecond] at ofFirst
  exact (Except.ok.inj ofFirst).symm

/-- A loader accepts a text, with a node, exactly if the text is that of a document with this node
in which no more containers are open at once than the nesting limit says and in which no whole
number has more digits than the digit limit says. No text is that of documents with different
nodes. -/
theorem Loader.parse_eq_ok_iff (loader : Loader) (source : Text)
    (sized : loader.refusesSize source = false) :
    (∀ node, (loader.parse source).result = .ok node ↔
      ∃ form : Form, form.text = source ∧ form.phrase.node = node ∧
        form.phrase.nesting ≤ loader.limits.maxDepth.toNat ∧
        ∀ literal ∈ form.phrase.literals, loader.limits.Admits literal) ∧
    ∀ first second : Form, first.text = source → second.text = source →
      first.phrase.node = second.phrase.node := by
  refine ⟨fun node => ⟨?_, ?_⟩, ?_⟩
  · intro accepted
    obtain ⟨form, rfl, fits⟩ := Loader.exists_form sized accepted
    rw [Loader.parse_form sized fits] at accepted
    exact ⟨form, rfl, Except.ok.inj accepted, Limits.fits_iff.mp fits⟩
  · rintro ⟨form, rfl, rfl, within⟩
    exact Loader.parse_form sized (Limits.fits_iff.mpr within)
  · intro first second ofFirst ofSecond
    exact Form.node_eq_of_text_eq (ofFirst.trans ofSecond.symm)

/-- An array of a number with as many digits as are allowed, nested as deeply as is allowed. -/
theorem parse_eq_ok_iff_array :
    Loader.refusesSize ⟨7, ⟨1, 2⟩⟩ (text "[ -12 ]") = false ∧
      (Loader.parse ⟨7, ⟨1, 2⟩⟩ (text "[ -12 ]")).result =
        .ok (.array [.scalar (.int (-12))]) := by
  have sized : Loader.refusesSize ⟨7, ⟨1, 2⟩⟩ (text "[ -12 ]") = false := by decide
  let space : Blanks := ⟨text " ", by simp [text, CodePoint.isBlank]⟩
  let nothing : Blanks := ⟨[], by simp⟩
  let literal : NumberLiteral :=
    { negative := true
      integral := ⟨text "12", by decide, by simp [text, CodePoint.isDigit]; decide⟩
      zeroAlone := by decide
      fraction := .none
      exponent := .none }
  refine ⟨sized, ((Loader.parse_eq_ok_iff ⟨7, ⟨1, 2⟩⟩ (text "[ -12 ]") sized).1 _).mpr ?_⟩
  let phrase : Phrase := .array ⟨nothing, space⟩ (.number literal) .nil ⟨space, nothing⟩
  refine ⟨⟨nothing, phrase, nothing⟩, rfl, rfl, by decide, ?_⟩
  intro other mem
  have only : other = literal := by simpa [phrase, Phrase.literals, ItemTail.literals] using mem
  rw [only]
  intro _ _
  decide

end Document

end Descent
