import Descent.Proofs.Document.Number.Completeness
import Descent.Proofs.Document.String.Completeness
import Descent.Proofs.Document.Value.Container

/-!
# Leaves are read

The alternatives of a value are told apart by the character that is ahead behind white space: those
in front of the right one decline. Strings, numbers and words are then read by their own rules.
-/

namespace Descent.Document

variable {ν : Type} {laps : Nat} {resolve : ν → Behaviour} {cursor : Cursor}

/-! ## What is ahead -/

/-- The reply is a match with the product, in front of the points up to white space. -/
def Takes {α : Type} (cursor : Cursor) (product : α) (points : Text) (depth : Int)
    (reply : Reply α) : Prop :=
  cursor.Reads
    (fun _ result next => result = product ∧ skipBlanks next.rest = skipBlanks points ∧
      next.depth = depth)
    False noFailure reply

/-- A structural character is in front once its white space is skipped. -/
theorem skipBlanks_around (margin : Margin) {character : Char}
    (visible : (CodePoint.ofChar character).isBlank = false) (points : Text) :
    skipBlanks (margin.around character ++ points) =
      CodePoint.ofChar character :: (margin.after.val ++ points) := by
  rw [Margin.around, List.append_assoc, skipBlanks_append]
  exact skipBlanks_cons visible _

/-- A number does not go on with white space. -/
theorem detached_of_isBlank {point : CodePoint} (isBlank : point.isBlank) :
    point.isDigit = false ∧ point ≠ CodePoint.ofChar '.' ∧
      Number.isExponentMark point = false := by
  simp only [CodePoint.isBlank, Bool.or_eq_true, decide_eq_true_eq] at isBlank
  rcases isBlank with ((rfl | rfl) | rfl) | rfl <;> decide

/-- A number does not go on with a structural character. -/
theorem detached_around (margin : Margin) {character : Char}
    (structural : (CodePoint.ofChar character).isDigit = false ∧
      CodePoint.ofChar character ≠ CodePoint.ofChar '.' ∧
      Number.isExponentMark (CodePoint.ofChar character) = false) (points : Text) :
    Detached (margin.around character ++ points) := by
  obtain ⟨⟨before, areBlank⟩, after⟩ := margin
  intro point head
  cases before with
  | nil =>
      cases head
      exact structural
  | cons blank others =>
      cases head
      exact detached_of_isBlank (areBlank point (by simp))

/-- A rule for a structural character that is ahead. -/
theorem takes_crossing {rule : Rule ν} {character : Char} {depth : Int} {margin : Margin}
    {points : Text}
    (reads : cursor.Reads
      (fun consumed _ next => cursor.Crosses character consumed next ∧ next.depth = depth)
      ((skipBlanks cursor.rest).head? ≠ some (CodePoint.ofChar character)) noFailure
      (rule.evaluate laps resolve cursor.state).reply)
    (visible : (CodePoint.ofChar character).isBlank = false)
    (ahead : skipBlanks cursor.rest = skipBlanks (margin.around character ++ points)) :
    cursor.Reads
      (fun consumed _ next => consumed ≠ [] ∧ next.rest = skipBlanks points ∧
        next.depth = depth)
      False noFailure (rule.evaluate laps resolve cursor.state).reply := by
  rw [skipBlanks_around margin visible] at ahead
  refine (reads.weakenMatch ?_).weakenDecline ?_
  · rintro consumed _ next _ ⟨⟨⟨around, rfl⟩, tail, found, rest⟩, deep⟩
    rw [ahead, List.cons.injEq] at found
    refine ⟨by simp [Margin.around], ?_, deep⟩
    rw [rest, ← found.2, skipBlanks_append]
  · intro absent
    exact absent (by rw [ahead]; rfl)

/-- A rule for a structural character that is not ahead. -/
theorem declines_crossing {rule : Rule ν} {character : Char} {depth : Int}
    (reads : cursor.Reads
      (fun consumed _ next => cursor.Crosses character consumed next ∧ next.depth = depth)
      ((skipBlanks cursor.rest).head? ≠ some (CodePoint.ofChar character)) noFailure
      (rule.evaluate laps resolve cursor.state).reply)
    (absent : (skipBlanks cursor.rest).head? ≠ some (CodePoint.ofChar character)) :
    cursor.Reads (fun _ _ _ => False) True noFailure
      (rule.evaluate laps resolve cursor.state).reply := by
  refine reads.mayDecline.weakenMatch ?_
  rintro consumed _ next _ ⟨⟨-, tail, found, -⟩, -⟩
  exact absent (by rw [found]; rfl)

/-! ## Alternatives that decline -/

theorem declines_stringValue (absent : cursor.rest.head? ≠ some (CodePoint.ofChar '"')) :
    cursor.Reads (fun _ _ _ => False) True noFailure
      ((stringValue : Rule ν).evaluate laps resolve cursor.state).reply :=
  (declines_string absent).semantics_unmatched

theorem declines_keyword (absent : ∀ keyword : Keyword, ¬ keyword.text <+: cursor.rest) :
    cursor.Reads (fun _ _ _ => False) True noFailure
      ((keyword : Rule ν).evaluate laps resolve cursor.state).reply := by
  refine (reads_keyword cursor).mayDecline.weakenMatch ?_
  rintro _ _ next passes ⟨keyword, rfl, -⟩
  exact absent keyword ⟨next.rest, passes.rest.symm⟩

theorem declines_array {limits : Limits} {self : Rule ν} (enough : cursor.rest.length < laps)
    (absent : (skipBlanks cursor.rest).head? ≠ some (CodePoint.ofChar '[')) :
    cursor.Reads (fun _ _ _ => False) True noFailure
      ((array limits self).evaluate laps resolve cursor.state).reply :=
  Cursor.Reads.derivation
    (.apply_unmatched (declines_crossing (reads_bracket (by decide) enough) absent))

theorem declines_object {limits : Limits} {self : Rule ν} (enough : cursor.rest.length < laps)
    (absent : (skipBlanks cursor.rest).head? ≠ some (CodePoint.ofChar '\x7b')) :
    cursor.Reads (fun _ _ _ => False) True noFailure
      ((object limits self).evaluate laps resolve cursor.state).reply :=
  Cursor.Reads.derivation
    (.apply_unmatched (declines_crossing (reads_bracket (by decide) enough) absent))

/-- Whether a string, a number or a word may start with a character. -/
def opensLeaf (point : CodePoint) : Bool :=
  point = CodePoint.ofChar '"' || point.isDigit || point = CodePoint.ofChar '-' ||
    point = CodePoint.ofChar 'f' || point = CodePoint.ofChar 't' || point = CodePoint.ofChar 'n'

/-- The first letter of a word. -/
theorem Keyword.exists_head (keyword : Keyword) :
    ∃ point others, keyword.text = point :: others ∧ opensLeaf point ∧
      point.isDigit = false ∧ point ≠ CodePoint.ofChar '-' ∧ point ≠ CodePoint.ofChar '"' ∧
      point.isBlank = false := by
  cases keyword <;> exact ⟨_, _, rfl, by decide⟩

/-- In front of a character that opens none of them, strings, numbers and words decline. -/
theorem choice_skip_leaves {limits : Limits} {others : List (Rule ν)} {point : CodePoint}
    {points : Text} {onMatch : Text → Value → Cursor → Prop} {onDecline : Prop}
    {onFail : Text → Cursor → ParseError → Prop} (enough : cursor.rest.length < laps)
    (ahead : cursor.rest = point :: points) (opens : opensLeaf point = false)
    (following : cursor.Reads onMatch onDecline onFail
      ((Rule.choice others).evaluate laps resolve cursor.state).reply) :
    cursor.Reads onMatch onDecline onFail
      ((Rule.choice (stringValue :: number limits :: keyword :: others)).evaluate laps resolve
        cursor.state).reply := by
  have opensNone := opens
  simp only [opensLeaf, Bool.or_eq_false_iff, decide_eq_false_iff_not] at opensNone
  obtain ⟨⟨⟨⟨⟨noQuote, noDigit⟩, noMinus⟩, -⟩, -⟩, -⟩ := opensNone
  refine (declines_stringValue ?_).choice_skip ((declines_number limits enough ?_).choice_skip
    ((declines_keyword ?_).choice_skip following))
  · rw [ahead]
    exact fun same => noQuote (Option.some.inj same)
  · intro first head
    rw [ahead] at head
    cases head
    exact ⟨noDigit, noMinus⟩
  · rintro keyword ⟨behind, spelled⟩
    obtain ⟨first, letters, text, opensWord, -⟩ := keyword.exists_head
    rw [ahead, text] at spelled
    rw [(List.cons.inj spelled).1, opens] at opensWord
    cases opensWord

/-- No value starts with a character that closes a container or separates its members. -/
theorem declines_value {limits : Limits} {self : Rule ν} {point : CodePoint} {points : Text}
    (enough : cursor.rest.length < laps) (ahead : cursor.rest = point :: points)
    (opens : opensLeaf point = false) (visible : point.isBlank = false)
    (noArray : point ≠ CodePoint.ofChar '[') (noObject : point ≠ CodePoint.ofChar '\x7b') :
    cursor.Reads (fun _ _ _ => False) True noFailure
      ((value limits self).evaluate laps resolve cursor.state).reply := by
  have head : (skipBlanks cursor.rest).head? = some point := by
    rw [ahead, skipBlanks_cons visible]
    rfl
  refine choice_skip_leaves enough ahead opens ((declines_array enough ?_).choice_skip
    ((declines_object enough ?_).choice_skip (.choice_nil trivial)))
  · rw [head]
    exact fun same => noArray (Option.some.inj same)
  · rw [head]
    exact fun same => noObject (Option.some.inj same)

/-! ## Leaves -/

/-- A string. -/
theorem takes_value_string {limits : Limits} {self : Rule ν} {items : List StringItem}
    {points : Text} (ahead : cursor.rest = StringItem.quoted items ++ points)
    (enough : cursor.rest.length < laps) :
    Takes cursor (scalar (.str (StringItem.decode items))) points cursor.depth
      ((value limits self).evaluate laps resolve cursor.state).reply := by
  have node : cursor.Reads
      (fun consumed product next => consumed = StringItem.quoted items ∧
        product = scalar (.str (StringItem.decode items)) ∧ next.depth = cursor.depth)
      False noFailure ((stringValue : Rule ν).evaluate laps resolve cursor.state).reply := by
    refine (takes_string ahead enough).semantics ?_
    rintro _ _ next ⟨rfl, rfl, deep⟩
    exact ⟨_, rfl, rfl, rfl, deep⟩
  refine Cursor.Reads.choice_cons (node.weakenMatch ?_) False.elim
  rintro _ _ next passes ⟨rfl, rfl, deep⟩
  exact ⟨rfl, by rw [passes.rest_eq ahead], deep⟩

/-- A number starts with its sign or with a digit. -/
theorem NumberLiteral.exists_head (literal : NumberLiteral) :
    ∃ point others, literal.text = point :: others ∧
      (point = CodePoint.ofChar '-' ∨ point.isDigit) := by
  obtain ⟨digit, digits, spelled, isDigit⟩ := Digits.exists_head literal.integral
  rw [text, signText, spelled]
  cases literal.negative with
  | true => exact ⟨_, _, rfl, .inl rfl⟩
  | false => exact ⟨_, _, rfl, .inr isDigit⟩

/-- So it does not start with a quote. -/
theorem NumberLiteral.head?_ne_quote (literal : NumberLiteral) (points : Text) :
    (literal.text ++ points).head? ≠ some (CodePoint.ofChar '"') := by
  obtain ⟨point, others, spelled, opens⟩ := literal.exists_head
  rw [spelled]
  intro quote
  rw [show point = CodePoint.ofChar '"' from Option.some.inj quote] at opens
  exact absurd opens (by decide)

/-- A number. -/
theorem takes_value_number {limits : Limits} {self : Rule ν} {literal : NumberLiteral}
    {points : Text} (admits : limits.Admits literal) (detached : Detached points)
    (ahead : cursor.rest = literal.text ++ points) (enough : cursor.rest.length < laps) :
    Takes cursor (scalar literal.value) points cursor.depth
      ((value limits self).evaluate laps resolve cursor.state).reply := by
  have noQuote : cursor.rest.head? ≠ some (CodePoint.ofChar '"') := by
    rw [ahead]
    exact literal.head?_ne_quote points
  refine (declines_stringValue noQuote).choice_skip (Cursor.Reads.choice_cons
    ((takes_number admits detached ahead enough).weakenMatch ?_) False.elim)
  rintro _ _ next passes ⟨rfl, rfl, deep⟩
  exact ⟨rfl, by rw [passes.rest_eq ahead], deep⟩

/-- A word. -/
theorem takes_value_word {limits : Limits} {self : Rule ν} {keyword : Keyword} {points : Text}
    (ahead : cursor.rest = keyword.text ++ points) (enough : cursor.rest.length < laps) :
    Takes cursor (scalar keyword.value) points cursor.depth
      ((value limits self).evaluate laps resolve cursor.state).reply := by
  obtain ⟨first, letters, spelled, -, noDigit, noMinus, noQuote, -⟩ := keyword.exists_head
  have head : cursor.rest.head? = some first := by
    rw [ahead, spelled]
    rfl
  refine (declines_stringValue ?_).choice_skip ((declines_number limits enough ?_).choice_skip
    (Cursor.Reads.choice_cons
      (((reads_keyword cursor).weakenMatch ?_).weakenDecline ?_) False.elim))
  · rw [head]
    exact fun same => noQuote (Option.some.inj same)
  · intro point isFirst
    rw [head] at isFirst
    cases isFirst
    exact ⟨noDigit, noMinus⟩
  · rintro _ _ next passes ⟨other, rfl, rfl, deep⟩
    have texts := passes.rest.symm.trans ahead
    have same : other = keyword := by
      cases other <;> cases keyword <;>
        first | rfl | exact absurd (List.cons.inj texts).1 (by decide)
    subst same
    exact ⟨rfl, by rw [passes.rest_eq ahead], deep⟩
  · intro absent
    exact absent keyword ⟨points, ahead.symm⟩

end Descent.Document
