import Descent.Value

/-!
# Equality of values

`Value.same` is the equality that literals, cases, contexts and the progress test use. It is
coarser than identity: a truth value equals the number it counts as, a double equals the whole
number it is, and mappings are compared without regard to order. A tuple never equals a list,
and a record equals only a record of its kind.

A double that is no number does not equal itself. Inside a container it does, since items are
compared by identity first. The fields of two records are compared without that step, but a record
that is compared with itself is not looked into. Values have no identity of their own here, so
those that agree bit for bit count as one object.
-/

namespace Descent.Value

mutual

/-- Whether two values agree bit for bit, and so count as one object. -/
def identical : Value → Value → Bool
  | none, none => true
  | bool first, bool second => first == second
  | int first, int second => first == second
  | float first, float second => first == second
  | str first, str second => first == second
  | tuple first, tuple second => identicalItems first second
  | list first, list second => identicalItems first second
  | mapping first, mapping second => identicalEntries first second
  | record firstKind first, record secondKind second =>
    firstKind == secondKind && identicalItems first second
  | _, _ => false

/-- Whether two sequences have the same objects. -/
def identicalItems : List Value → List Value → Bool
  | [], [] => true
  | first :: firstRest, second :: secondRest =>
    identical first second && identicalItems firstRest secondRest
  | _, _ => false

/-- Whether two mappings have the same objects in the same order. -/
def identicalEntries : List (Value × Value) → List (Value × Value) → Bool
  | [], [] => true
  | (key, value) :: rest, (otherKey, otherValue) :: otherRest =>
    identical key otherKey && identical value otherValue && identicalEntries rest otherRest
  | _, _ => false

end

mutual

/-- Equality of two values. -/
def same : Value → Value → Bool
  | none, none => true
  | bool first, bool second => first == second
  | bool first, int second => (Whole.bool first).toInt == second
  | int first, bool second => first == (Whole.bool second).toInt
  | int first, int second => first == second
  | float first, float second => first.same second
  | float first, int second => first.sameInt second
  | int first, float second => second.sameInt first
  | float first, bool second => first.sameInt (Whole.bool second).toInt
  | bool first, float second => second.sameInt (Whole.bool first).toInt
  | str first, str second => first == second
  | tuple first, tuple second => sameItems true first second
  | list first, list second => sameItems true first second
  | mapping first, mapping second => first.length == second.length && sameEntries first second
  | record firstKind first, record secondKind second =>
    firstKind == secondKind && (identicalItems first second || sameItems false first second)
  | _, _ => false

/-- Equality item by item, of sequences of one length, by identity first if that counts. -/
def sameItems (byIdentity : Bool) : List Value → List Value → Bool
  | [], [] => true
  | first :: firstRest, second :: secondRest =>
    (byIdentity && identical first second || same first second) &&
      sameItems byIdentity firstRest secondRest
  | _, _ => false

/-- Whether every entry of the first mapping stands in the second. -/
def sameEntries : List (Value × Value) → List (Value × Value) → Bool
  | [], _ => true
  | (key, value) :: rest, entries =>
    entries.any (fun entry => (identical key entry.1 || same key entry.1) &&
      (identical value entry.2 || same value entry.2)) && sameEntries rest entries

end

mutual

/-- Every value is one object with itself. -/
theorem identical_refl : ∀ value : Value, identical value value = true
  | none => by rw [identical]
  | bool value => by rw [identical, beq_self_eq_true]
  | int value => by rw [identical, beq_self_eq_true]
  | float value => by rw [identical, beq_self_eq_true]
  | str points => by rw [identical, beq_self_eq_true]
  | tuple items => by rw [identical, identicalItems_refl items]
  | list items => by rw [identical, identicalItems_refl items]
  | mapping entries => by rw [identical, identicalEntries_refl entries]
  | record kind fields => by
    rw [identical, beq_self_eq_true, identicalItems_refl fields, Bool.and_true]

/-- Every sequence has its own items. -/
theorem identicalItems_refl : ∀ items : List Value, identicalItems items items = true
  | [] => by rw [identicalItems]
  | item :: rest => by
    rw [identicalItems, identical_refl item, identicalItems_refl rest, Bool.and_true]

/-- Every mapping has its own entries. -/
theorem identicalEntries_refl :
    ∀ entries : List (Value × Value), identicalEntries entries entries = true
  | [] => by rw [identicalEntries]
  | (key, value) :: rest => by
    rw [identicalEntries, identical_refl key, identical_refl value, identicalEntries_refl rest,
      Bool.and_true, Bool.and_true]

end

/-- Every sequence equals itself, if identity counts. -/
theorem sameItems_refl (items : List Value) : sameItems true items items = true := by
  induction items with
  | nil => rw [sameItems]
  | cons item rest inductionHypothesis =>
      rw [sameItems, identical_refl, Bool.true_and, Bool.true_or, inductionHypothesis,
        Bool.and_true]

/-- Entries that all occur in a mapping stand in it. -/
theorem sameEntries_of_subset {entries others : List (Value × Value)}
    (held : ∀ entry ∈ entries, entry ∈ others) : sameEntries entries others = true := by
  induction entries with
  | nil => rw [sameEntries]
  | cons entry rest inductionHypothesis =>
      obtain ⟨key, value⟩ := entry
      obtain ⟨first, later⟩ := List.forall_mem_cons.mp held
      have found : others.any (fun entry => (identical key entry.1 || same key entry.1) &&
          (identical value entry.2 || same value entry.2)) = true := by
        rw [List.any_eq_true]
        refine ⟨(key, value), first, ?_⟩
        rw [identical_refl, identical_refl, Bool.true_or, Bool.true_or, Bool.and_true]
      rw [sameEntries, found, inductionHypothesis later, Bool.and_true]

/-- A value equals itself exactly if it is not a double that is no number. -/
theorem same_self_iff {value : Value} :
    same value value = true ↔ ∀ number, value = float number → number.isNaN = false := by
  by_cases isDouble : ∃ number, value = float number
  · obtain ⟨number, rfl⟩ := isDouble
    rw [same, Binary64.same_self, Bool.not_eq_true']
    constructor
    · rintro isNumber _ ⟨⟩
      exact isNumber
    · intro isNumber
      exact isNumber number rfl
  · refine iff_of_true ?_ fun number isFloat => absurd ⟨number, isFloat⟩ isDouble
    cases value with
    | none => rw [same]
    | bool value => rw [same, beq_self_eq_true]
    | int value => rw [same, beq_self_eq_true]
    | float number => exact absurd ⟨number, rfl⟩ isDouble
    | str points => rw [same, beq_self_eq_true]
    | tuple items => rw [same, sameItems_refl]
    | list items => rw [same, sameItems_refl]
    | mapping entries =>
        rw [same, beq_self_eq_true, sameEntries_of_subset fun _ held => held, Bool.and_true]
    | record kind fields =>
        rw [same, beq_self_eq_true, identicalItems_refl, Bool.true_or, Bool.and_true]

instance : BEq Value := ⟨same⟩

end Descent.Value
