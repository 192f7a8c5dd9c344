import Descent.Catalogue.Rules
import Descent.Catalogue.Tests
import Descent.Catalogue.Transforms
import Descent.Proofs.Guarded
import Descent.Proofs.Numerals

/-!
# Ready-made functions

The ready-made tests never fault, so that grammars made of them come to an answer wherever their
repetitions and references are guarded. The transform to whole numbers reads back what is written
of a number, with blanks around it and within the limit on the digits.
-/

namespace Descent

namespace Catalogue

/-! ## Tests -/

/-- A test by a plain predicate never faults. -/
theorem Test.total_ofBool (holds : Value → Bool) : Call.Total (Test.ofBool holds) :=
  fun token => ⟨holds token, rfl⟩

/-- To be watched makes no difference to the outcome of a test. -/
theorem Test.total_watched {test : Test} (total : Call.Total test) : Call.Total (watched test) :=
  total

/-- A rule that matches a pattern may stand wherever functions that never fault are asked for. -/
theorem total_matching {ν : Type} (alphabet : Alphabet) (pattern : Pattern) (start : State) :
    (Rule.matching alphabet pattern : Rule ν).Total start := fun _ => ⟨_, rfl⟩

/-! ## Whole numbers in a text -/

/-- Digits are read as they are. -/
theorem plainDigits?_of_isDigit {points : Text} (present : points ≠ [])
    (areDigits : ∀ point ∈ points, point.isDigit) : plainDigits? points = some points := by
  induction points with
  | nil => exact absurd rfl present
  | cons first rest inductionHypothesis =>
      obtain ⟨isDigit, others⟩ := List.forall_mem_cons.mp areDigits
      cases rest with
      | nil => rw [plainDigits?, if_pos isDigit]
      | cons second behind =>
          have noMark : second ≠ CodePoint.ofChar '_' := by
            rintro rfl
            exact absurd (others _ List.mem_cons_self) (by decide)
          rw [plainDigits?, if_neg (by simp [isDigit]), if_neg noMark,
            inductionHypothesis (List.cons_ne_nil _ _) others]
          rfl

/-- Blanks around a text are left out, if it has none of its own. -/
theorem trim_around {front points back : Text} (before : ∀ point ∈ front, isBlank point)
    (present : points ≠ []) (visible : ∀ point ∈ points, isBlank point = false)
    (after : ∀ point ∈ back, isBlank point) : trim (front ++ points ++ back) = points := by
  have stops {inner : Text} (nonempty : inner ≠ []) (free : ∀ point ∈ inner, isBlank point = false)
      (behind : Text) : (inner ++ behind).dropWhile isBlank = inner ++ behind := by
    obtain ⟨first, others, rfl⟩ := List.exists_cons_of_ne_nil nonempty
    rw [List.cons_append, List.dropWhile_cons_of_neg (by simp [free first List.mem_cons_self])]
  rw [trim, List.append_assoc, List.dropWhile_append_of_pos before, stops present visible,
    List.reverse_append, List.dropWhile_append_of_pos (by simpa using after)]
  have reversed := stops (List.reverse_ne_nil_iff.mpr present) (by simpa using visible) []
  rw [List.append_nil] at reversed
  rw [reversed, List.reverse_reverse]

theorem isBlank_of_isDigit {point : CodePoint} (isDigit : point.isDigit) :
    isBlank point = false := by
  simp only [CodePoint.isDigit, CodePoint.isBetween, Char.reduceToNat, Bool.and_eq_true,
    decide_eq_true_eq] at isDigit
  simp only [isBlank, CodePoint.ofChar, Fin.ext_iff, Char.reduceToNat, Bool.or_eq_false_iff,
    Bool.and_eq_false_imp, decide_eq_true_eq, decide_eq_false_iff_not]
  omega

/-- Digits are no sign. -/
theorem splitSign_ofNat (number : Nat) :
    splitSign (Text.ofNat number) = (false, Text.ofNat number) := by
  obtain ⟨first, others, digits⟩ := List.exists_cons_of_ne_nil (Text.ofNat_ne_nil number)
  have member : first ∈ Text.ofNat number := by
    rw [digits]
    exact List.mem_cons_self
  have isDigit := Text.isDigit_of_mem_ofNat member
  have noMinus : first ≠ CodePoint.ofChar '-' := by
    rintro rfl
    exact absurd isDigit (by decide)
  have noPlus : first ≠ CodePoint.ofChar '+' := by
    rintro rfl
    exact absurd isDigit (by decide)
  rw [digits, splitSign, if_neg noMinus, if_neg noPlus]

/-- A number that may be written has no more digits than the limit says. -/
theorem length_ofNat_le_of_isWritable {maxDigits : Nat} {value : Int}
    (written : Text.isWritable maxDigits 0 value) :
    ¬ ((0 < maxDigits && maxDigits < (Text.ofNat value.natAbs).length) = true) := by
  rcases Text.isWritable_iff.mp written with zero | unlimited | short
  · have single : (Text.ofNat 0).length = 1 := rfl
    rw [Nat.le_zero.mp zero, single]
    simp
    omega
  · simp [unlimited]
  · simp [short]

/-- A number that may be written within the limit is read back from what is written of it, whatever
blanks are around. -/
theorem wholeOfText?_ofInt {maxDigits : Nat} {value : Int} {front back : Text}
    (written : Text.isWritable maxDigits 0 value) (before : ∀ point ∈ front, isBlank point)
    (after : ∀ point ∈ back, isBlank point) :
    wholeOfText? maxDigits (front ++ Text.ofInt value ++ back) = some value := by
  have digits (number : Nat) : plainDigits? (Text.ofNat number) = some (Text.ofNat number) :=
    plainDigits?_of_isDigit (Text.ofNat_ne_nil number) fun _ => Text.isDigit_of_mem_ofNat
  have visible (number : Nat) : ∀ point ∈ Text.ofNat number, isBlank point = false :=
    fun _ held => isBlank_of_isDigit (Text.isDigit_of_mem_ofNat held)
  have within := length_ofNat_le_of_isWritable written
  cases value with
  | ofNat number =>
      have trimmed : trim (front ++ Text.ofInt (.ofNat number) ++ back) = Text.ofNat number :=
        trim_around before (Text.ofNat_ne_nil number) (visible number) after
      rw [wholeOfText?, trimmed, splitSign_ofNat]
      simp only [digits, Option.bind_eq_bind, Option.bind_some]
      refine (if_neg within).trans ?_
      rw [if_neg Bool.false_ne_true, Text.decimalValue_ofNat]
      rfl
  | negSucc number =>
      have trimmed : trim (front ++ Text.ofInt (.negSucc number) ++ back) =
          CodePoint.ofChar '-' :: Text.ofNat (number + 1) :=
        trim_around before (List.cons_ne_nil _ _)
          (List.forall_mem_cons.mpr ⟨rfl, visible (number + 1)⟩) after
      rw [wholeOfText?, trimmed, splitSign, if_pos rfl]
      simp only [digits, Option.bind_eq_bind, Option.bind_some]
      refine (if_neg within).trans ?_
      rw [if_pos trivial, Text.decimalValue_ofNat]
      rfl

/-- The transform to whole numbers takes a number back from what is written of it. -/
theorem Transform.whole_ofInt {value : Int} {front back : Text}
    (written : Text.isWritable Text.standardMaxDigits 0 value)
    (before : ∀ point ∈ front, isBlank point) (after : ∀ point ∈ back, isBlank point) :
    (whole (.str (front ++ Text.ofInt value ++ back))).outcome = .ok (.int value) := by
  rw [whole, wholeOfText?_ofInt written before after]
  rfl

end Catalogue

end Descent
