import Descent.Proofs.Document.Value.Members

/-!
# Phrases are read

A phrase within the limits that is ahead is read as its node. The proof follows the phrase: every
kind of phrase is read given that the rule for the values inside it reads the phrases inside it one
level deeper.
-/

namespace Descent.Document

variable {ν : Type} {laps : Nat} {resolve : ν → Behaviour} {cursor : Cursor}

/-! ## Phrases -/

/-- A number ends only where nothing that it could go on with is ahead. Every other phrase has an
end of its own. -/
def Phrase.EndsBefore (points : Text) : Phrase → Prop
  | .number _ => Detached points
  | _ => True

/-- Where no number can go on, every phrase ends. -/
theorem Phrase.endsBefore_of_detached {points : Text} (detached : Detached points) :
    ∀ phrase : Phrase, phrase.EndsBefore points
  | .number _ => detached
  | .string _ | .word _ | .emptyArray _ _ | .array _ _ _ _ | .emptyObject _ _
  | .object _ _ _ _ _ _ => trivial

/-- A behaviour that reads a phrase as its node wherever the phrase ends. -/
def TakesPhrase (laps : Nat) (depth : Int) (phrase : Phrase) (body : Behaviour) : Prop :=
  ∀ (cursor : Cursor) (points : Text), cursor.depth = depth →
    cursor.rest = skipBlanks (phrase.text ++ points) → phrase.EndsBefore points →
    cursor.rest.length < laps →
    Takes cursor phrase.node.toValue points depth (body cursor.state).reply

/-- What reads a phrase reads its text, as a member among others. -/
theorem TakesPhrase.takesText {depth : Int} {phrase : Phrase} {body : Behaviour}
    (takes : TakesPhrase laps depth phrase body) :
    TakesText laps depth phrase.text phrase.node.toValue body :=
  fun cursor points deep rest detached =>
    takes cursor points deep rest (phrase.endsBefore_of_detached detached)

/-- A key and a colon that are ahead, and the value that has to follow them. -/
theorem reads_entry {key self : Rule ν} {items : List StringItem} {colon : Margin} {points : Text}
    {onItem onMatch : Value → Cursor → Prop} {onFail : Cursor → ParseError → Prop}
    (takesKey : cursor.Reads
      (fun consumed product next => consumed = StringItem.quoted items ∧
        product = .str (StringItem.decode items) ∧ next.depth = cursor.depth)
      False noFailure (key.evaluate laps resolve cursor.state).reply)
    (ahead : cursor.rest = StringItem.quoted items ++ (colon.around ':' ++ points))
    (enough : cursor.rest.length < laps)
    (readsItem : ∀ inner : Cursor, inner.depth = cursor.depth → inner.rest = skipBlanks points →
      inner.rest.length < laps →
      inner.Reads (fun _ => onItem) False (fun _ => onFail)
        (self.evaluate laps resolve inner.state).reply)
    (joins : ∀ product next, onItem product next →
      onMatch (.tuple [.str (StringItem.decode items), product]) next) :
    cursor.Reads (fun _ => onMatch) False (fun _ => onFail)
      ((entrySteps key self).evaluate laps resolve cursor.state).reply := by
  refine Cursor.Reads.apply takesKey.neverFails ?_
  rintro _ _ first passes ⟨rfl, rfl, firstDepth⟩
  have firstShorter := passes.length
  have firstAhead := passes.rest_eq ahead
  refine Cursor.Reads.apply ((takes_crossing (reads_separator (by decide) (by omega)) (by decide)
    (by rw [firstAhead])).failpoint False.elim).neverFails ?_
  rintro _ _ second secondPasses ⟨-, rest, secondDepth⟩
  have secondShorter := secondPasses.length
  refine Cursor.Reads.apply ((readsItem second (by omega) rest (by omega)).failpoint False.elim) ?_
  intro _ product third _ holds
  exact .finish (joins product third holds)

/-- An entry, if its key and its value are read. -/
theorem takes_entry {key self : Rule ν} {items : List StringItem} {colon : Margin}
    {item : Phrase} {points : Text} (detached : Detached points)
    (takesItem : TakesPhrase laps cursor.depth item (self.evaluate laps resolve))
    (takesKey : cursor.Reads
      (fun consumed product next => consumed = StringItem.quoted items ∧
        product = .str (StringItem.decode items) ∧ next.depth = cursor.depth)
      False noFailure (key.evaluate laps resolve cursor.state).reply)
    (ahead : cursor.rest =
      StringItem.quoted items ++ (colon.around ':' ++ (item.text ++ points)))
    (enough : cursor.rest.length < laps) :
    Takes cursor (.tuple [.str (StringItem.decode items), item.node.toValue]) points cursor.depth
      ((entrySteps key self).evaluate laps resolve cursor.state).reply := by
  refine reads_entry takesKey ahead enough
    (fun inner deep rest shorter => takesItem.takesText inner points deep rest detached shorter) ?_
  rintro _ next ⟨rfl, behind⟩
  exact ⟨rfl, behind⟩

section Values

variable {limits : Limits} {self : Rule ν} {depth : Int}

/-- A string is read as its node … -/
theorem takesPhrase_string (items : List StringItem) :
    TakesPhrase laps depth (.string items) ((value limits self).evaluate laps resolve) := by
  rintro cursor points rfl ahead _ enough
  exact takes_value_string (ahead.trans (skipBlanks_cons (by decide) _)) enough

/-- … and so is a number within the limit for the digits … -/
theorem takesPhrase_number {literal : NumberLiteral} (admits : limits.Admits literal) :
    TakesPhrase laps depth (.number literal) ((value limits self).evaluate laps resolve) := by
  rintro cursor points rfl ahead detached enough
  refine takes_value_number admits detached (ahead.trans ?_) enough
  refine skipBlanks_of_head ?_
  intro point head
  obtain ⟨first, others, spelled, opens⟩ := literal.exists_head
  rw [Phrase.text, spelled] at head
  cases head
  cases isBlank : point.isBlank with
  | true =>
      have free := detached_of_isBlank isBlank
      rcases opens with rfl | isDigit
      · exact absurd isBlank (by decide)
      · exact absurd (free.1.symm.trans isDigit) (by decide)
  | false => rfl

/-- … and a word. -/
theorem takesPhrase_word (keyword : Keyword) :
    TakesPhrase laps depth (.word keyword) ((value limits self).evaluate laps resolve) := by
  rintro cursor points rfl ahead _ enough
  refine takes_value_word (ahead.trans ?_) enough
  refine skipBlanks_of_head ?_
  intro point head
  obtain ⟨first, others, spelled, -, -, -, -, visible⟩ := keyword.exists_head
  rw [Phrase.text, spelled] at head
  cases head
  exact visible

section Brackets

variable {onMatch : Text → Value → Cursor → Prop} {onFail : Text → Cursor → ParseError → Prop}
  {behind : Text}

/-- A value that is an array. -/
theorem reads_value_array (enough : cursor.rest.length < laps)
    (ahead : cursor.rest = CodePoint.ofChar '[' :: behind)
    (reads : cursor.Reads onMatch False onFail
      ((array limits self).evaluate laps resolve cursor.state).reply) :
    cursor.Reads onMatch False onFail
      ((value limits self).evaluate laps resolve cursor.state).reply :=
  choice_skip_leaves enough ahead (by decide) (Cursor.Reads.choice_cons reads False.elim)

/-- A value that is an object. -/
theorem reads_value_object (enough : cursor.rest.length < laps)
    (ahead : cursor.rest = CodePoint.ofChar '\x7b' :: behind)
    (reads : cursor.Reads onMatch False onFail
      ((object limits self).evaluate laps resolve cursor.state).reply) :
    cursor.Reads onMatch False onFail
      ((value limits self).evaluate laps resolve cursor.state).reply := by
  have noArray : (skipBlanks cursor.rest).head? ≠ some (CodePoint.ofChar '[') := by
    rw [ahead, skipBlanks_cons (by decide)]
    exact fun same => absurd (Option.some.inj same) (by decide)
  exact choice_skip_leaves enough ahead (by decide)
    ((declines_array enough noArray).choice_skip (Cursor.Reads.choice_cons reads False.elim))

end Brackets

/-- The members of an empty container: none, in front of the closing bracket. -/
theorem takes_members_closed {first additional : Rule ν} {close : List Value → Steps ν}
    {closer : Char} {closing : Margin} {product : Value} {points : Text} {outer : Int}
    (visible : (CodePoint.ofChar closer).isBlank = false) (deep : cursor.depth = depth)
    (enough : cursor.rest.length < laps)
    (ahead : cursor.rest = skipBlanks ([] ++ (closing.around closer ++ points)))
    (declines : ∀ (inner : Cursor) (behind : Text), inner.rest.length < laps →
      inner.rest = CodePoint.ofChar closer :: behind →
      inner.Reads (fun _ _ _ => False) True noFailure
        (first.evaluate laps resolve inner.state).reply)
    (closes : ∀ last : Cursor, last.Before laps depth (closing.around closer ++ points) →
      Takes last product points outer ((close []).evaluate laps resolve last.state).reply) :
    Takes cursor product points outer
      ((members first additional close).evaluate laps resolve cursor.state).reply := by
  rw [List.nil_append] at ahead
  refine takes_members_none ?_ (closes cursor ⟨deep, ?_, enough⟩)
  · exact declines cursor _ enough (ahead.trans (skipBlanks_around closing visible _))
  · rw [ahead, skipBlanks_skipBlanks]

/-- An array without items … -/
theorem takesPhrase_emptyArray (within : depth + 1 ≤ limits.maxDepth) (opening closing : Margin)
    (declines : ∀ (inner : Cursor) (behind : Text), inner.rest.length < laps →
      inner.rest = CodePoint.ofChar ']' :: behind →
      inner.Reads (fun _ _ _ => False) True noFailure
        (self.evaluate laps resolve inner.state).reply) :
    TakesPhrase laps depth (.emptyArray opening closing)
      ((value limits self).evaluate laps resolve) := by
  rintro cursor points rfl ahead _ enough
  rw [Phrase.text, List.append_assoc] at ahead
  have same : skipBlanks cursor.rest =
      skipBlanks (opening.around '[' ++ ([] ++ (closing.around ']' ++ points))) := by
    rw [ahead, skipBlanks_skipBlanks, List.nil_append]
  refine reads_value_array enough (ahead.trans (skipBlanks_around opening (by decide) _)) ?_
  refine takes_container (by decide) (by decide) within enough same ?_
  intro inner close deep innerEnough rest closes
  exact takes_members_closed (by decide) deep innerEnough rest declines closes

/-- … and an object without entries. -/
theorem takesPhrase_emptyObject (within : depth + 1 ≤ limits.maxDepth)
    (opening closing : Margin) :
    TakesPhrase laps depth (.emptyObject opening closing)
      ((value limits self).evaluate laps resolve) := by
  rintro cursor points rfl ahead _ enough
  rw [Phrase.text, List.append_assoc] at ahead
  have same : skipBlanks cursor.rest =
      skipBlanks (opening.around '\x7b' ++ ([] ++ (closing.around '\x7d' ++ points))) := by
    rw [ahead, skipBlanks_skipBlanks, List.nil_append]
  refine reads_value_object enough (ahead.trans (skipBlanks_around opening (by decide) _)) ?_
  refine takes_container (by decide) (by decide) within enough same ?_
  intro inner close deep innerEnough rest closes
  refine takes_members_closed (by decide) deep innerEnough rest ?_ closes
  intro last behind _ lastAhead
  refine Cursor.Reads.derivation (.apply_unmatched (declines_string ?_))
  rw [lastAhead]
  exact fun same => absurd (Option.some.inj same) (by decide)

/-- What closes a container is no comma and does not go on a number. -/
theorem closing_free (closing : Margin) {closer : Char}
    (visible : (CodePoint.ofChar closer).isBlank = false)
    (noComma : CodePoint.ofChar closer ≠ CodePoint.ofChar ',') (points : Text) :
    (skipBlanks (closing.around closer ++ points)).head? ≠ some (CodePoint.ofChar ',') := by
  rw [skipBlanks_around closing visible]
  exact fun same => noComma (Option.some.inj same)

/-- An array, if its items are read one level deeper. -/
theorem takesPhrase_array (within : depth + 1 ≤ limits.maxDepth) (opening closing : Margin)
    {first : Phrase} {others : ItemTail}
    (takesFirst : TakesPhrase laps (depth + 1) first (self.evaluate laps resolve))
    (row : ∀ expectation, Row laps (depth + 1)
      ((Steps.apply (.failpoint self (.expecting expectation)) .finish).evaluate laps resolve)
      others.text (Node.toValues others.nodes)) :
    TakesPhrase laps depth (.array opening first others closing)
      ((value limits self).evaluate laps resolve) := by
  rintro cursor points rfl ahead _ enough
  simp only [Phrase.text, List.append_assoc] at ahead
  have same : skipBlanks cursor.rest = skipBlanks (opening.around '[' ++
      ((first.text ++ others.text) ++ (closing.around ']' ++ points))) := by
    rw [ahead, skipBlanks_skipBlanks, List.append_assoc]
  refine reads_value_array enough (ahead.trans (skipBlanks_around opening (by decide) _)) ?_
  refine takes_container (by decide) (by decide) within enough same ?_
  intro inner close deep innerEnough rest closes
  have detached : Detached (closing.around ']' ++ points) := detached_around closing (by decide) _
  rw [List.append_assoc] at rest
  refine takes_members_some innerEnough
    (takesFirst.takesText inner _ deep rest ((row []).detached detached) innerEnough) ?_ ?_ closes
  · cases first <;> simp [Phrase.node, Node.toValue]
  · intro next before
    exact (row _).takes before detached (closing_free closing (by decide) (by decide) points)

/-- An object, if its values are read one level deeper. -/
theorem takesPhrase_object (within : depth + 1 ≤ limits.maxDepth) (opening closing : Margin)
    {key : List StringItem} {colon : Margin} {first : Phrase} {others : EntryTail}
    (takesFirst : TakesPhrase laps (depth + 1) first (self.evaluate laps resolve))
    (row : ∀ expectation, Row laps (depth + 1)
      ((entrySteps (.failpoint string (.expecting expectation)) self).evaluate laps resolve)
      others.text (Node.entriesToValues others.nodes)) :
    TakesPhrase laps depth (.object opening key colon first others closing)
      ((value limits self).evaluate laps resolve) := by
  rintro cursor points rfl ahead _ enough
  simp only [Phrase.text, List.append_assoc] at ahead
  have same : skipBlanks cursor.rest = skipBlanks (opening.around '\x7b' ++
      ((StringItem.quoted key ++ (colon.around ':' ++ (first.text ++ others.text))) ++
        (closing.around '\x7d' ++ points))) := by
    rw [ahead, skipBlanks_skipBlanks]
    simp only [List.append_assoc]
  refine reads_value_object enough (ahead.trans (skipBlanks_around opening (by decide) _)) ?_
  refine takes_container (by decide) (by decide) within enough same ?_
  intro inner close deep innerEnough rest closes
  have detached : Detached (closing.around '\x7d' ++ points) :=
    detached_around closing (by decide) _
  simp only [List.append_assoc] at rest
  have innerAhead := rest.trans (skipBlanks_cons (by decide) _)
  have entry : Takes inner (.tuple [.str (StringItem.decode key), first.node.toValue])
      (others.text ++ (closing.around '\x7d' ++ points)) inner.depth
      ((entry self).evaluate laps resolve inner.state).reply :=
    Cursor.Reads.derivation (takes_entry ((row []).detached detached) (deep ▸ takesFirst)
      (takes_string innerAhead innerEnough) innerAhead innerEnough)
  rw [deep] at entry
  refine takes_members_some innerEnough entry (by simp) ?_ closes
  intro next before
  exact (row _).takes before detached (closing_free closing (by decide) (by decide) points)

/-- A further item of an array. -/
theorem takesText_item {item : Phrase}
    (takesItem : TakesPhrase laps depth item (self.evaluate laps resolve)) (expectation : Text) :
    TakesText laps depth item.text item.node.toValue
      ((Steps.apply (.failpoint self (.expecting expectation)) .finish).evaluate laps resolve) := by
  intro inner points deep rest detached enough
  refine Cursor.Reads.apply ((takesItem.takesText inner points deep rest detached enough).failpoint
    False.elim) ?_
  rintro _ _ next _ ⟨rfl, described⟩
  exact .finish ⟨rfl, described⟩

/-- A further entry of an object. -/
theorem takesText_entry {colon : Margin} {key : List StringItem} {item : Phrase}
    (takesItem : TakesPhrase laps depth item (self.evaluate laps resolve)) (expectation : Text) :
    TakesText laps depth (StringItem.quoted key ++ (colon.around ':' ++ item.text))
      (.tuple [.str (StringItem.decode key), item.node.toValue])
      ((entrySteps (.failpoint string (.expecting expectation)) self).evaluate laps resolve) := by
  rintro inner points rfl rest detached enough
  simp only [List.append_assoc] at rest
  have ahead := rest.trans (skipBlanks_cons (by decide) _)
  exact takes_entry detached takesItem ((takes_string ahead enough).failpoint False.elim) ahead
    enough

end Values

/-! ## The grammar -/

/-- The value rule of the grammar, unfolded a number of times. -/
def unfolded (limits : Limits) (laps unfoldings : Nat) : Unit → Behaviour := fun _ =>
  (grammar limits).evaluateWithin laps unfoldings (value limits (.reference ()))

/-- However often it is unfolded, a rule is evaluated with some behaviour of the names. -/
theorem exists_resolve (limits : Limits) (laps unfoldings : Nat) (rule : Rule Unit) :
    ∃ resolve, (grammar limits).evaluateWithin laps unfoldings rule =
      rule.evaluate laps resolve := by
  cases unfoldings with
  | zero => exact ⟨_, rfl⟩
  | succ unfoldings => exact ⟨_, rfl⟩

/-- No value is in front of a closing bracket. -/
theorem declines_unfolded (limits : Limits) (unfoldings : Nat) {behind : Text}
    (enough : cursor.rest.length < laps) (ahead : cursor.rest = CodePoint.ofChar ']' :: behind) :
    cursor.Reads (fun _ _ _ => False) True noFailure
      ((Rule.reference ()).evaluate laps (unfolded limits laps unfoldings) cursor.state).reply := by
  show cursor.Reads _ _ _
    ((grammar limits).evaluateWithin laps unfoldings (value limits (.reference ()))
      cursor.state).reply
  obtain ⟨resolve, same⟩ := exists_resolve limits laps unfoldings (value limits (.reference ()))
  rw [same]
  exact declines_value enough ahead (by decide) (by decide) (by decide) (by decide)

mutual

/-- A phrase within the limits is read as its node. -/
theorem takes_phrase (limits : Limits) (laps : Nat) (phrase : Phrase) (unfoldings : Nat)
    (depth : Int) (unfolds : limits.maxDepth ≤ depth + unfoldings)
    (fits : limits.Fits depth phrase.nesting phrase.literals) :
    TakesPhrase laps depth phrase
      ((grammar limits).evaluateWithin laps unfoldings (value limits (.reference ()))) := by
  obtain ⟨resolve, same⟩ := exists_resolve limits laps unfoldings (value limits (.reference ()))
  match phrase with
  | .string items =>
      rw [same]
      exact takesPhrase_string items
  | .number literal =>
      rw [same]
      exact takesPhrase_number (fits.admits literal (by simp [Phrase.literals]))
  | .word keyword =>
      rw [same]
      exact takesPhrase_word keyword
  | .emptyArray opening closing =>
      have within := fits.nests (by simp [Phrase.nesting])
      simp only [Phrase.nesting] at within
      cases unfoldings with
      | zero => omega
      | succ unfoldings =>
          exact takesPhrase_emptyArray within opening closing fun inner behind enough ahead =>
            declines_unfolded limits unfoldings enough ahead
  | .array opening first others closing =>
      obtain ⟨within, inside⟩ := Limits.Fits.inside fits
      obtain ⟨fitsFirst, fitsOthers⟩ := inside.parts
      cases unfoldings with
      | zero => omega
      | succ unfoldings =>
          exact takesPhrase_array within opening closing
            (takes_phrase limits laps first unfoldings (depth + 1) (by omega) fitsFirst)
            (takes_items limits laps others unfoldings (depth + 1) (by omega) fitsOthers)
  | .emptyObject opening closing =>
      have within := fits.nests (by simp [Phrase.nesting])
      simp only [Phrase.nesting] at within
      rw [same]
      exact takesPhrase_emptyObject within opening closing
  | .object opening key colon first others closing =>
      obtain ⟨within, inside⟩ := Limits.Fits.inside fits
      obtain ⟨fitsFirst, fitsOthers⟩ := inside.parts
      cases unfoldings with
      | zero => omega
      | succ unfoldings =>
          exact takesPhrase_object within opening closing
            (takes_phrase limits laps first unfoldings (depth + 1) (by omega) fitsFirst)
            (takes_entries limits laps others unfoldings (depth + 1) (by omega) fitsOthers)

/-- Items behind the first one are read as their nodes. -/
theorem takes_items (limits : Limits) (laps : Nat) (tail : ItemTail) (unfoldings : Nat)
    (depth : Int) (unfolds : limits.maxDepth ≤ depth + unfoldings)
    (fits : limits.Fits depth tail.nesting tail.literals) (expectation : Text) :
    Row laps depth
      ((Steps.apply (.failpoint (.reference ()) (.expecting expectation)) .finish).evaluate laps
        (unfolded limits laps unfoldings)) tail.text (Node.toValues tail.nodes) := by
  match tail with
  | .nil => exact .nil
  | .cons comma item others =>
      obtain ⟨fitsItem, fitsOthers⟩ := Limits.Fits.parts fits
      have takesItem := takes_phrase limits laps item unfoldings depth unfolds fitsItem
      have row := takes_items limits laps others unfoldings depth unfolds fitsOthers expectation
      simpa [ItemTail.text, ItemTail.nodes, Node.toValues] using
        row.cons comma (takesText_item takesItem expectation)

/-- Entries behind the first one are read as their keys and nodes. -/
theorem takes_entries (limits : Limits) (laps : Nat) (tail : EntryTail) (unfoldings : Nat)
    (depth : Int) (unfolds : limits.maxDepth ≤ depth + unfoldings)
    (fits : limits.Fits depth tail.nesting tail.literals) (expectation : Text) :
    Row laps depth
      ((entrySteps (.failpoint string (.expecting expectation)) (.reference ())).evaluate laps
        (unfolded limits laps unfoldings)) tail.text (Node.entriesToValues tail.nodes) := by
  match tail with
  | .nil => exact .nil
  | .cons comma key colon item others =>
      obtain ⟨fitsItem, fitsOthers⟩ := Limits.Fits.parts fits
      have takesItem := takes_phrase limits laps item unfoldings depth unfolds fitsItem
      have row := takes_entries limits laps others unfoldings depth unfolds fitsOthers expectation
      simpa [EntryTail.text, EntryTail.nodes, Node.entriesToValues] using
        row.cons comma (takesText_entry takesItem expectation)

end

/-- A document within the limits that is ahead is read as its node, if its phrase ends there. -/
theorem takes_document_ahead {limits : Limits} {unfoldings : Nat} {form : Form} {points : Text}
    (unfolds : limits.maxDepth ≤ unfoldings)
    (fits : limits.Fits 0 form.phrase.nesting form.phrase.literals) (deep : cursor.depth = 0)
    (ahead : cursor.rest = form.text ++ points)
    (ends : form.phrase.EndsBefore (form.after.val ++ points))
    (enough : cursor.rest.length < laps) :
    cursor.Reads
      (fun _ product next => product = form.phrase.node.toValue ∧ next.rest = skipBlanks points)
      False noFailure
      ((grammar limits).evaluateWithin laps (unfoldings + 1) (document (.reference ()))
        cursor.state).reply := by
  have takes := takes_phrase limits laps form.phrase unfoldings 0 (by simpa using unfolds) fits
  have parts : cursor.Reads
      (fun _ product next => (∃ first third,
        product = .tuple [first, form.phrase.node.toValue, third]) ∧
        next.rest = skipBlanks points)
      False noFailure
      ((grammar limits).evaluateWithin laps (unfoldings + 1)
        (.sequence [whitespace, .reference (), whitespace]) cursor.state).reply := by
    refine Cursor.Reads.sequence ?_
    refine Cursor.Reads.parts_cons (reads_whitespace enough) ?_
    rintro _ _ first passes ⟨-, rest, firstDepth⟩
    have firstShorter := passes.length
    rw [ahead, Form.text, List.append_assoc, List.append_assoc, skipBlanks_append] at rest
    refine Cursor.Reads.parts_cons (takes first _ (firstDepth.trans deep) rest ends (by omega)) ?_
    rintro _ _ second secondPasses ⟨rfl, behind, -⟩
    have secondShorter := secondPasses.length
    refine Cursor.Reads.parts_cons (reads_whitespace (by omega)) ?_
    rintro _ _ third _ ⟨-, ended, -⟩
    exact .parts_nil ⟨⟨_, _, rfl⟩, by rw [ended, behind, skipBlanks_append]⟩
  refine parts.semantics ?_
  rintro _ _ next ⟨⟨first, third, rfl⟩, ended⟩
  exact ⟨_, rfl, rfl, ended⟩

/-- A whole document within the limits is read as its node, to its end. -/
theorem takes_document {limits : Limits} {unfoldings : Nat} {form : Form}
    (unfolds : limits.maxDepth ≤ unfoldings)
    (fits : limits.Fits 0 form.phrase.nesting form.phrase.literals) (deep : cursor.depth = 0)
    (ahead : cursor.rest = form.text) (enough : cursor.rest.length < laps) :
    cursor.Reads
      (fun _ product next => product = form.phrase.node.toValue ∧ next.rest = [])
      False noFailure
      ((grammar limits).evaluateWithin laps (unfoldings + 1) (document (.reference ()))
        cursor.state).reply := by
  have detached : Detached (form.after.val ++ []) := by
    intro point head
    rw [List.append_nil] at head
    exact detached_of_isBlank (form.after.property point (List.mem_of_head? head))
  rw [← List.append_nil form.text] at ahead
  exact takes_document_ahead unfolds fits deep ahead (form.phrase.endsBefore_of_detached detached)
    enough

end Descent.Document
