import Descent.Proofs.Document.Value.Container

/-!
# Values consume phrases

Whatever the value rule consumes is the text of a phrase within the limits, and where it fails on
an expectation, what it has consumed can be completed to such a text. The description is kept by
the rules for containers, given that the rule for the values inside them has it one level deeper;
unfolding the grammar often enough then gives it to the value rule itself.
-/

namespace Descent.Document

variable {ν : Type} {laps : Nat} {resolve : ν → Behaviour} {cursor : Cursor}

/-! ## Values -/

/-- Items between the brackets of an array. -/
theorem encloses_array {limits : Limits} {depth : Int} (within : depth + 1 ≤ limits.maxDepth) :
    Encloses '[' ']' (ValueText limits (depth + 1)) (ItemsText limits (depth + 1))
      (ValueText limits depth) (Exceeds limits (depth + 1)) (Exceeds limits depth) where
  none := ⟨.nil, .empty, rfl⟩
  further := by
    rintro comma _ _ ⟨item, fits, rfl⟩ ⟨tail, tailFits, rfl⟩
    exact ⟨.cons comma item tail, fits.join tailFits, by simp [ItemTail.text]⟩
  empty := fun opening closing => ⟨.emptyArray opening closing, .enclose within .empty, rfl⟩
  full := by
    rintro opening closing _ _ ⟨item, fits, rfl⟩ ⟨tail, tailFits, rfl⟩
    exact ⟨.array opening item tail closing, .enclose within (fits.join tailFits),
      by simp [Phrase.text]⟩
  leads := by
    rintro opening front inner next error isFront ⟨worded, descends, stops⟩
    exact ⟨worded, .item within opening isFront descends, stops⟩

/-- Entries between the brackets of an object. -/
theorem encloses_object {limits : Limits} {depth : Int} (within : depth + 1 ≤ limits.maxDepth) :
    Encloses '\x7b' '\x7d' (EntryText limits (depth + 1)) (EntriesText limits (depth + 1))
      (ValueText limits depth) (EntryExceeds limits (depth + 1)) (Exceeds limits depth) where
  none := ⟨.nil, .empty, rfl⟩
  further := by
    rintro comma _ _ ⟨key, colon, item, fits, rfl⟩ ⟨tail, tailFits, rfl⟩
    exact ⟨.cons comma key colon item tail, fits.join tailFits, by simp [EntryTail.text]⟩
  empty := fun opening closing => ⟨.emptyObject opening closing, .enclose within .empty, rfl⟩
  full := by
    rintro opening closing _ _ ⟨key, colon, item, fits, rfl⟩ ⟨tail, tailFits, rfl⟩
    exact ⟨.object opening key colon item tail closing, .enclose within (fits.join tailFits),
      by simp [Phrase.text]⟩
  leads := by
    rintro opening front _ next error isFront ⟨key, colon, inner, ⟨worded, descends, stops⟩, rfl⟩
    exact ⟨worded, .entry within opening isFront key colon descends, stops⟩

/-- A string as a part of a text. -/
theorem readsText_quoted {escape closing : Rule ν} {onDecline : Prop}
    (readsEscape : ReadsItems laps resolve escape)
    (readsClosing : ReadsQuote laps resolve onDecline closing) (depth : Int) :
    ReadsText laps (fun points => ∃ items, points = StringItem.quoted items) noFailure depth True
      ((Rule.derivation (.apply (char '"') fun _ =>
        .apply (.zeroOrMore (.choice [escape, unescaped])) fun contents =>
          .apply closing fun _ => match contents.joined? with
            | some points => .finish (.str points)
            | none => .fault .typeMismatch) [] : Rule ν).evaluate laps resolve) := by
  intro cursor deep enough
  refine (reads_string readsEscape readsClosing enough).mono ?_ (fun _ => trivial) ?_
  · rintro consumed _ next _ ⟨spelled, ⟨points, rfl⟩, nextDepth⟩
    exact ⟨spelled, by simp, nextDepth.trans deep⟩
  · rintro consumed next error ⟨code, items, missing, spelled⟩
    exact .expectation code ⟨missing, items, spelled⟩

/-- A string, where an escape or the last quote may be missed. -/
theorem readsText_string (depth : Int) :
    ReadsText laps (fun points => ∃ items, points = StringItem.quoted items) noFailure depth True
      ((string : Rule ν).evaluate laps resolve) :=
  readsText_quoted readsItems_escape (readsQuote_char.mandatory _) depth

/-- A key, a colon and a value. -/
theorem readsText_entry {limits : Limits} {depth : Int} {onDecline : Prop} {key colon item : Rule ν}
    (readsKey : ReadsText laps (fun points => ∃ items, points = StringItem.quoted items) noFailure
      depth onDecline (key.evaluate laps resolve))
    (readsColon : ReadsMark laps ':' depth depth onDecline (colon.evaluate laps resolve))
    (readsItem : ReadsText laps (ValueText limits depth) (Exceeds limits depth) depth onDecline
      (item.evaluate laps resolve)) :
    ReadsText laps (EntryText limits depth) (EntryExceeds limits depth) depth onDecline
      ((Steps.apply key fun name => .apply colon fun _ => .apply item fun value =>
        .finish (.tuple [name, value])).evaluate laps resolve) := by
  intro cursor deep enough
  refine Cursor.Reads.apply ((readsKey cursor deep enough).weakenFail ?_) ?_
  · intro consumed next error stops
    refine stops.within ?_ False.elim
    rintro missing ⟨items, spelled⟩
    exact ⟨Margin.none.around ':' ++ text "null", items, .none, .word .null, .empty,
      by simp [Phrase.text, Keyword.text, ← spelled]⟩
  · rintro _ name first passes ⟨⟨items, rfl⟩, -, firstDepth⟩
    have firstShorter := passes.length
    refine Cursor.Reads.apply ((readsColon first firstDepth (by omega)).weakenFail ?_) ?_
    · intro consumed next error stops
      refine stops.within ?_ False.elim
      rintro missing spelled
      exact ⟨text "null", items, .none, .word .null, .empty,
        by simp [Phrase.text, Keyword.text, ← spelled]⟩
    · rintro _ _ second secondPasses ⟨⟨colon, rfl⟩, secondDepth⟩
      have secondShorter := secondPasses.length
      refine Cursor.Reads.apply ((readsItem second secondDepth (by omega)).weakenFail ?_) ?_
      · intro consumed next error stops
        refine stops.within ?_ fun isDeep => ⟨items, colon, consumed, isDeep, by simp⟩
        rintro missing ⟨item, fits, spelled⟩
        exact ⟨[], items, colon, item, fits, by simp [← spelled]⟩
      · rintro _ _ third _ ⟨⟨item, fits, rfl⟩, -, thirdDepth⟩
        exact .finish ⟨⟨items, colon, item, fits, by simp⟩, by simp, thirdDepth⟩

/-- A choice between rules for texts of one language. -/
theorem ReadsText.choice_cons {language : Text → Prop} {deep : Text → Cursor → ParseError → Prop}
    {depth : Int} {rule : Rule ν} {others : List (Rule ν)}
    (reads : ReadsText laps language deep depth True (rule.evaluate laps resolve))
    (following : ReadsText laps language deep depth True
      ((Rule.choice others).evaluate laps resolve)) :
    ReadsText laps language deep depth True
      ((Rule.choice (rule :: others)).evaluate laps resolve) :=
  fun cursor deep enough =>
    (reads cursor deep enough).choice_cons fun _ => following cursor deep enough

/-- A behaviour that consumes a value at a depth. -/
abbrev ReadsValue (laps : Nat) (limits : Limits) (depth : Int) (onDecline : Prop)
    (body : Behaviour) : Prop :=
  ReadsText laps (ValueText limits depth) (Exceeds limits depth) depth onDecline body

/-- A string as a value. -/
theorem readsText_stringValue {rule : Rule ν} (limits : Limits) {depth : Int}
    (reads : ReadsText laps (fun points => ∃ items, points = StringItem.quoted items) noFailure
      depth True (rule.evaluate laps resolve)) :
    ReadsValue laps limits depth True
      ((Rule.semantics rule fun points => .pure (scalar points)).evaluate laps resolve) := by
  intro cursor deep enough
  refine Cursor.Reads.semantics ((reads cursor deep enough).weakenFail ?_) ?_
  · intro consumed next error stops
    refine stops.within ?_ False.elim
    rintro missing ⟨items, spelled⟩
    exact ⟨[], .string items, .empty, by simp [Phrase.text, ← spelled]⟩
  · rintro _ product next ⟨⟨items, rfl⟩, -, nextDepth⟩
    exact ⟨_, rfl, ⟨.string items, .empty, rfl⟩, by simp [scalar], nextDepth⟩

/-- A literal is allowed wherever its digits are. -/
theorem valueText_number {limits : Limits} {literal : NumberLiteral}
    (admits : limits.Admits literal) (depth : Int) : ValueText limits depth literal.text :=
  ⟨.number literal, ⟨by simp [Phrase.nesting], by simpa [Phrase.literals] using admits⟩, rfl⟩

/-- A number as a value. -/
theorem readsText_number {fraction exponent : Rule ν} (limits : Limits)
    (readsFraction : ReadsFraction laps resolve fraction)
    (readsExponent : ReadsExponent laps resolve exponent) (depth : Int) :
    ReadsValue laps limits depth True
      ((Rule.derivation (.getState fun start => .apply
        (.sequence [.optional (char '-') .none, integralPart, fraction, exponent]) fun product =>
          numberSteps limits start product) []).evaluate laps resolve) := by
  intro cursor deep enough
  refine (reads_number limits readsFraction readsExponent enough).mono ?_ (fun _ => trivial) ?_
  · rintro _ _ next _ ⟨literal, rfl, admits, rfl, nextDepth⟩
    exact ⟨valueText_number admits depth, by simp [scalar], nextDepth.trans deep⟩
  · rintro consumed next error (⟨code, literal, admits, missing, spelled⟩ | code)
    · exact .expectation code ⟨missing, spelled ▸ valueText_number admits depth⟩
    · exact .digits code

/-- A word as a value. -/
theorem readsText_keyword (limits : Limits) (depth : Int) :
    ReadsValue laps limits depth True ((keyword : Rule ν).evaluate laps resolve) := by
  intro cursor deep enough
  refine (reads_keyword cursor).neverFails.mayDecline.weakenMatch ?_
  rintro _ _ next _ ⟨keyword, rfl, rfl, nextDepth⟩
  exact ⟨⟨.word keyword, .empty, rfl⟩, by simp [scalar], nextDepth.trans deep⟩

section Containers

variable {limits : Limits} {depth : Int} {onDecline : Prop}

/-- Brackets around items. -/
theorem readsText_items {first item closing : Rule ν}
    (readsFirst : depth + 1 ≤ limits.maxDepth →
      ReadsValue laps limits (depth + 1) True (first.evaluate laps resolve))
    (readsItem : depth + 1 ≤ limits.maxDepth →
      ReadsValue laps limits (depth + 1) onDecline (item.evaluate laps resolve))
    (readsClosing : ReadsMark laps ']' (depth + 1) depth onDecline
      (closing.evaluate laps resolve)) :
    ReadsValue laps limits depth True
      ((Rule.derivation (.apply (bracket '[' 1) fun _ => withinDepth limits (members first
        (.derivation (.apply (separator ',') fun _ => .apply item .finish) []) fun items =>
          .apply closing fun _ => .finish (.record .array [.tuple items]))) []).evaluate laps
            resolve) := by
  rintro cursor rfl enough
  refine reads_container (by decide) ?_ encloses_array readsFirst
    (fun within => (readsItem within).apply) readsClosing enough
  intro beyond opening next error worded stops
  exact ⟨worded, .array beyond opening, stops⟩

/-- Brackets around entries. -/
theorem readsText_entries {first closing : Rule ν} {steps : Steps ν}
    (readsFirst : depth + 1 ≤ limits.maxDepth →
      ReadsText laps (EntryText limits (depth + 1)) (EntryExceeds limits (depth + 1)) (depth + 1)
        True (first.evaluate laps resolve))
    (readsEntry : depth + 1 ≤ limits.maxDepth →
      ReadsText laps (EntryText limits (depth + 1)) (EntryExceeds limits (depth + 1)) (depth + 1)
        onDecline (steps.evaluate laps resolve))
    (readsClosing : ReadsMark laps '\x7d' (depth + 1) depth onDecline
      (closing.evaluate laps resolve)) :
    ReadsValue laps limits depth True
      ((Rule.derivation (.apply (bracket '\x7b' 1) fun _ => withinDepth limits (members first
        (.derivation (.apply (separator ',') fun _ => steps) []) fun entries =>
          .apply closing fun _ => .finish (.record .object [.tuple entries]))) []).evaluate laps
            resolve) := by
  rintro cursor rfl enough
  refine reads_container (by decide) ?_ encloses_object readsFirst readsEntry readsClosing enough
  intro beyond opening next error worded stops
  exact ⟨worded, .object beyond opening, stops⟩

/-- An array, if the rule for its items reads one level deeper. -/
theorem readsText_array {self : Rule ν}
    (readsNested : depth + 1 ≤ limits.maxDepth →
      ReadsValue laps limits (depth + 1) True (self.evaluate laps resolve)) :
    ReadsValue laps limits depth True ((array limits self).evaluate laps resolve) :=
  readsText_items readsNested
    (fun within => (readsNested within).mandatory ⟨_, .word .null, .empty, rfl⟩ _)
    ((readsMark_closing (by decide) depth).mandatory _)

/-- An object, if the rule for its values reads one level deeper. -/
theorem readsText_object {self : Rule ν}
    (readsNested : depth + 1 ≤ limits.maxDepth →
      ReadsValue laps limits (depth + 1) True (self.evaluate laps resolve)) :
    ReadsValue laps limits depth True ((object limits self).evaluate laps resolve) := by
  have item := fun within => (readsNested within).mandatory ⟨_, .word .null, .empty, rfl⟩
  refine readsText_entries (fun within => ?_) (fun within => ?_)
    ((readsMark_closing (by decide) depth).mandatory _)
  · exact readsText_entry (readsText_string _)
      (((readsMark_separator (by decide) _).mandatory _).weaken False.elim)
      ((item within _).weaken False.elim)
  · exact readsText_entry ((readsText_string _).mandatory ⟨_, [], rfl⟩ _)
      ((readsMark_separator (by decide) _).mandatory _) (item within _)

end Containers

/-- A value consumes a phrase, if the rule for nested values does so one level deeper. -/
theorem readsText_value {limits : Limits} {depth : Int} {self : Rule ν}
    (readsNested : depth + 1 ≤ limits.maxDepth →
      ReadsValue laps limits (depth + 1) True (self.evaluate laps resolve)) :
    ReadsValue laps limits depth True ((value limits self).evaluate laps resolve) :=
  (readsText_stringValue limits (readsText_string depth)).choice_cons <|
    (readsText_number limits (readsFraction_of (readsDigits_mandatory _))
      (readsExponent_of (readsDigits_mandatory _)) depth).choice_cons <|
      (readsText_keyword limits depth).choice_cons <|
        (readsText_array readsNested).choice_cons <|
          (readsText_object readsNested).choice_cons fun _ _ _ => .choice_nil trivial

/-! ## Documents -/

/-- The value rule of the grammar, unfolded as often as values can nest. The unfoldings are never
used up, because the depth reaches its limit first. -/
theorem readsText_unfolded (limits : Limits) (laps : Nat) {unfoldings : Nat} {depth : Int}
    (enough : limits.maxDepth ≤ depth + unfoldings) :
    ReadsValue laps limits depth True
      ((grammar limits).evaluateWithin laps unfoldings (value limits (.reference ()))) := by
  induction unfoldings generalizing depth with
  | zero =>
      refine readsText_value fun within => ?_
      omega
  | succ unfoldings inductionHypothesis =>
      exact readsText_value fun _ => inductionHypothesis (by omega)

/-- The texts of documents within limits. -/
def DocumentText (limits : Limits) (points : Text) : Prop :=
  ∃ form : Form, limits.Fits 0 form.phrase.nesting form.phrase.literals ∧ points = form.text

/-- The failure of a container in a document. -/
def DocumentExceeds (limits : Limits) (consumed : Text) (next : Cursor) (error : ParseError) :
    Prop :=
  ∃ (before : Blanks) (inner : Text), Exceeds limits 0 inner next error ∧
    consumed = before.val ++ inner

/-- A failure whose error has no words is that of a container, and the limit cannot be written. -/
theorem Stops.exceeds_of_unworded {limits : Limits} {language : Text → Prop} {consumed : Text}
    {next : Cursor}
    (stops : Stops language (DocumentExceeds limits) consumed next next.unworded) :
    limits.depthIsWritable = false ∧ DocumentExceeds limits consumed next next.unworded := by
  cases stops with
  | expectation code _ => cases code
  | digits code => cases code
  | nesting _ exceeds =>
      obtain ⟨before, inner, deep, spelled⟩ := exceeds
      exact ⟨deep.isDeep.unwritten, before, inner, deep, spelled⟩

/-- A document is a value with white space around it. -/
theorem reads_around {limits : Limits} {self : Rule ν}
    (reads : ReadsValue laps limits 0 True (self.evaluate laps resolve)) (deep : cursor.depth = 0)
    (enough : cursor.rest.length < laps) :
    cursor.Reads
      (fun consumed _ _ => DocumentText limits consumed) True
      (Stops (DocumentText limits) (DocumentExceeds limits))
      ((document self).evaluate laps resolve cursor.state).reply := by
  have parts : cursor.Reads
      (fun consumed product _ => DocumentText limits consumed ∧
        ∃ first second third, product = .tuple [first, second, third])
      True (Stops (DocumentText limits) (DocumentExceeds limits))
      ((Rule.sequence [whitespace, self, whitespace]).evaluate laps resolve
        cursor.state).reply := by
    refine Cursor.Reads.sequence ?_
    refine Cursor.Reads.parts_cons (reads_whitespace enough).neverFails.neverDeclines ?_
    rintro _ _ first passes ⟨⟨before, rfl⟩, -, firstDepth⟩
    have firstShorter := passes.length
    refine Cursor.Reads.parts_cons
      ((reads first (firstDepth.trans deep) (by omega)).mayDecline.weakenFail ?_) ?_
    · intro consumed next error stops
      refine stops.within ?_ fun isDeep => ⟨before, consumed, isDeep, rfl⟩
      rintro missing ⟨phrase, fits, spelled⟩
      exact ⟨[], ⟨before, phrase, ⟨[], by simp⟩⟩, fits, by simp [Form.text, ← spelled]⟩
    · rintro _ _ second secondPasses ⟨⟨phrase, fits, rfl⟩, -, -⟩
      have secondShorter := secondPasses.length
      refine Cursor.Reads.parts_cons (reads_whitespace (by omega)).neverFails.neverDeclines ?_
      rintro _ _ third _ ⟨⟨after, rfl⟩, -, -⟩
      exact .parts_nil ⟨⟨⟨before, phrase, after⟩, fits, by simp [Form.text]⟩, _, _, _, rfl⟩
  refine parts.semantics ?_
  rintro consumed _ next ⟨isDocument, first, second, third, rfl⟩
  exact ⟨second, rfl, isDocument⟩

/-- A whole document. -/
theorem reads_document {limits : Limits} {unfoldings : Nat}
    (unfolds : limits.maxDepth ≤ unfoldings) (deep : cursor.depth = 0)
    (enough : cursor.rest.length < laps) :
    cursor.Reads
      (fun consumed _ _ => DocumentText limits consumed) True
      (Stops (DocumentText limits) (DocumentExceeds limits))
      ((grammar limits).evaluateWithin laps (unfoldings + 1) (document (.reference ()))
        cursor.state).reply :=
  reads_around (readsText_unfolded limits laps (by simpa using unfolds)) deep enough

end Descent.Document
