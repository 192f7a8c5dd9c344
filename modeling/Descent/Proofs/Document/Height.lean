import Descent.Proofs.Document.Tracking

/-!
# How high a text climbs

Containers that are open, counted along a text. A text climbs to a height if no part in front of
some place in it has more containers open. Heights are put together from left to right: what a part
opens and leaves open raises the parts behind it.

A phrase climbs as high as it nests and ends where it began. A descent climbs to the nesting limit
in front of its last bracket, which is the first one to go beyond the limit.
-/

namespace Descent.Document

/-- A text that starts and ends outside of strings, leaves a number of containers open, and never
has more than another number of them open. -/
structure Climbs (rise height : Int) (points : Text) : Prop where
  outside : Zone.outside.behind points = .outside
  rises : openContainers points = rise
  bounded : ∀ count, openContainers (points.take count) ≤ height

/-- Containers are counted part by part, where no string is cut. -/
theorem openContainers_append {first : Text} (outside : Zone.outside.behind first = .outside)
    (second : Text) :
    openContainers (first ++ second) = openContainers first + openContainers second := by
  rw [openContainers, Zone.visible_append, balance_append, outside]
  rfl

namespace Climbs

variable {rise height more top bound : Int} {points others : Text}

theorem nonneg (climbs : Climbs rise height points) : 0 ≤ height := climbs.bounded 0

/-- A higher bound. -/
theorem mono (climbs : Climbs rise height points) (le : height ≤ bound) :
    Climbs rise bound points :=
  ⟨climbs.outside, climbs.rises, fun count => Int.le_trans (climbs.bounded count) le⟩

/-- A text behind another one climbs from where that one ends. -/
theorem append (first : Climbs rise height points) (second : Climbs more top others)
    (le : height ≤ bound) (furtherLe : rise + top ≤ bound) :
    Climbs (rise + more) bound (points ++ others) where
  outside := by rw [Zone.behind_append, first.outside, second.outside]
  rises := by rw [openContainers_append first.outside, first.rises, second.rises]
  bounded := by
    intro count
    rw [List.take_append]
    rcases Nat.le_total count points.length with short | long
    · rw [Nat.sub_eq_zero_of_le short, List.take_zero, List.append_nil]
      exact Int.le_trans (first.bounded count) le
    · rw [List.take_of_length_le long, openContainers_append first.outside, first.rises]
      have climbed := second.bounded (count - points.length)
      omega

/-- Neighbours on one level. -/
theorem beside (first : Climbs 0 height points) (second : Climbs 0 height others) :
    Climbs 0 height (points ++ others) := by
  simpa using first.append second (Int.le_refl _) (by omega)

end Climbs

/-! ## Characters and strings -/

/-- Characters without a mark open nothing. -/
theorem climbs_of_unmarked {points : Text} (unmarked : ∀ point ∈ points, point.isUnmarked) :
    Climbs 0 0 points where
  outside := (behind_of_unmarked unmarked).1
  rises := (behind_of_unmarked unmarked).2
  bounded := fun _ => Int.le_of_eq
    (behind_of_unmarked fun point held => unmarked point (List.mem_of_mem_take held)).2

theorem climbs_blanks (blanks : Blanks) : Climbs 0 0 blanks.val :=
  climbs_of_unmarked fun point held => isUnmarked_of_isBlank (blanks.property point held)

/-- A structural character counts as itself. -/
theorem climbs_around {character : Char} {change : Int} (weighs : Weighs character change)
    (margin : Margin) : Climbs change (max 0 change) (margin.around character) := by
  obtain ⟨-, stays, counts⟩ := weighs
  have single : Climbs change (max 0 change) [CodePoint.ofChar character] := by
    have opened : openContainers [CodePoint.ofChar character] = change := by
      rw [openContainers, Zone.visible, Zone.visible_nil, counts]
    refine ⟨stays, opened, ?_⟩
    intro count
    cases count with
    | zero => exact Int.le_max_left _ _
    | succ count =>
        rw [List.take_succ_cons, List.take_nil, opened]
        exact Int.le_max_right _ _
  have front := (climbs_blanks margin.before).append single (Int.le_max_left 0 change) (by omega)
  have whole := front.append (climbs_blanks margin.after) (Int.le_refl _) (by omega)
  simpa [Margin.around] using whole

/-- A separator stays on its level. -/
theorem climbs_separator {character : Char} (weighs : Weighs character 0) (margin : Margin) :
    Climbs 0 0 (margin.around character) :=
  (climbs_around weighs margin).mono (by omega)

/-- A container is one higher than what is inside of it. -/
theorem Climbs.enclose {opener closer : Char} {height : Int} {inside : Text}
    (climbs : Climbs 0 height inside) (opens : Weighs opener 1) (closes : Weighs closer (-1))
    (opening closing : Margin) :
    Climbs 0 (height + 1) (opening.around opener ++ (inside ++ closing.around closer)) := by
  have nonneg := climbs.nonneg
  have closed : Climbs (0 + -1) height (inside ++ closing.around closer) :=
    climbs.append (climbs_around closes closing) (Int.le_refl _) (by omega)
  exact (climbs_around opens opening).append closed (by omega) (by omega)

/-- Characters inside of a string that neither close it nor escape others. -/
theorem behind_inside {points : Text}
    (silent : ∀ point ∈ points, point ≠ CodePoint.ofChar '"' ∧ point ≠ CodePoint.ofChar '\\') :
    Zone.inside.behind points = .inside ∧ Zone.inside.visible points = [] := by
  induction points with
  | nil => exact ⟨rfl, rfl⟩
  | cons point rest inductionHypothesis =>
      obtain ⟨noQuote, noBackslash⟩ := silent point List.mem_cons_self
      have stays : Zone.inside.step point = .inside := by
        rw [Zone.step, if_neg noQuote, if_neg noBackslash]
      obtain ⟨sameZone, unseen⟩ := inductionHypothesis fun other held =>
        silent other (List.mem_cons_of_mem point held)
      constructor
      · rw [Zone.behind, List.foldl_cons, stays]
        exact sameZone
      · rw [Zone.visible, stays]
        · exact unseen
        · simp

/-- The contents of a string stay inside of it. -/
theorem behind_item (item : StringItem) :
    Zone.inside.behind item.text = .inside ∧ Zone.inside.visible item.text = [] := by
  cases item with
  | plain point isPlain =>
      apply behind_inside
      intro other held
      rw [List.mem_singleton.mp held]
      simp only [CodePoint.isPlain, Bool.and_eq_true, decide_eq_true_eq] at isPlain
      exact ⟨isPlain.1.2, isPlain.2⟩
  | short escape => exact ⟨rfl, rfl⟩
  | coded unit =>
      -- The backslash takes the letter with it, and the digits are read inside again.
      show Zone.inside.behind unit.digits = .inside ∧ Zone.inside.visible unit.digits = []
      apply behind_inside
      intro digit held
      have isHex := unit.areHex digit held
      constructor
      · rintro rfl
        exact absurd isHex (by decide)
      · rintro rfl
        exact absurd isHex (by decide)

theorem behind_texts (items : List StringItem) :
    Zone.inside.behind (StringItem.texts items) = .inside ∧
      Zone.inside.visible (StringItem.texts items) = [] := by
  induction items with
  | nil => exact ⟨rfl, rfl⟩
  | cons item others inductionHypothesis =>
      obtain ⟨sameZone, unseen⟩ := behind_item item
      have spelled : StringItem.texts (item :: others) = item.text ++ StringItem.texts others := rfl
      constructor
      · rw [spelled, Zone.behind_append, sameZone, inductionHypothesis.1]
      · rw [spelled, Zone.visible_append, sameZone, unseen, inductionHypothesis.2]
        rfl

/-- A part of a text shows a part of what the text shows. -/
theorem visible_take_prefix (zone : Zone) (points : Text) (count : Nat) :
    zone.visible (points.take count) <+: zone.visible points := by
  conv_rhs => rw [← List.take_append_drop count points, Zone.visible_append]
  exact List.prefix_append _ _

/-- A string shows its first quote. -/
theorem climbs_quoted (items : List StringItem) : Climbs 0 0 (StringItem.quoted items) := by
  obtain ⟨sameZone, unseen⟩ := behind_texts items
  have visible : Zone.outside.visible (StringItem.quoted items) = [CodePoint.ofChar '"'] := by
    show CodePoint.ofChar '"' ::
      Zone.inside.visible (StringItem.texts items ++ [CodePoint.ofChar '"']) = _
    rw [Zone.visible_append, unseen, sameZone]
    rfl
  refine ⟨?_, by rw [openContainers, visible]; rfl, ?_⟩
  · show Zone.inside.behind (StringItem.texts items ++ [CodePoint.ofChar '"']) = _
    rw [Zone.behind_append, sameZone]
    rfl
  · intro count
    have seen := visible_take_prefix .outside (StringItem.quoted items) count
    rw [visible, List.prefix_cons_iff] at seen
    rcases seen with none | ⟨others, quote, rest⟩
    · rw [openContainers, none]
      exact Int.le_refl 0
    · rw [openContainers, quote, List.prefix_nil.mp rest]
      exact Int.le_refl 0

/-! ## Phrases -/

/-- Digits have no marks. -/
theorem climbs_digits (digits : Digits) : Climbs 0 0 digits.val :=
  climbs_of_unmarked fun point held => isUnmarked_of_isDigit (digits.property.2 point held)

/-- A single character without a mark. -/
theorem climbs_single {point : CodePoint} (unmarked : point.isUnmarked) : Climbs 0 0 [point] :=
  climbs_of_unmarked fun _ held => List.mem_singleton.mp held ▸ unmarked

theorem climbs_nil : Climbs 0 0 [] := climbs_of_unmarked (by simp)

theorem climbs_number (literal : NumberLiteral) : Climbs 0 0 literal.text := by
  obtain ⟨negative, integral, -, fraction, exponent⟩ := literal
  have sign : Climbs 0 0 (if negative then [CodePoint.ofChar '-'] else []) := by
    split
    · exact climbs_single (by decide)
    · exact climbs_nil
  have fraction : Climbs 0 0 (NumberLiteral.fractionText fraction) := by
    cases fraction with
    | none => exact climbs_nil
    | some digits =>
        have dot : Climbs 0 0 [CodePoint.ofChar '.'] := climbs_single (by decide)
        exact dot.beside (climbs_digits digits)
  have exponent : Climbs 0 0 (NumberLiteral.exponentText exponent) := by
    cases exponent with
    | none => exact climbs_nil
    | some exponent =>
        obtain ⟨capital, sign, digits⟩ := exponent
        have mark : Climbs 0 0 [CodePoint.ofChar (if capital then 'E' else 'e')] := by
          cases capital with
          | false => exact climbs_single (by decide)
          | true => exact climbs_single (by decide)
        have signs : Climbs 0 0 sign.text := by
          cases sign with
          | absent => exact climbs_nil
          | plus => exact climbs_single (by decide)
          | minus => exact climbs_single (by decide)
        exact mark.beside (signs.beside (climbs_digits digits))
  exact ((sign.beside (climbs_digits integral)).beside fraction).beside exponent

theorem climbs_word (keyword : Keyword) : Climbs 0 0 keyword.text := by
  apply climbs_of_unmarked
  cases keyword <;> simp [Keyword.text, text] <;> decide

theorem climbs_key (key : List StringItem) (colon : Margin) :
    Climbs 0 0 (StringItem.quoted key ++ colon.around ':') :=
  (climbs_quoted key).beside (climbs_separator (by decide) colon)

/-- An entry climbs as high as its value. -/
theorem climbs_entry {height : Int} {inner : Text} (key : List StringItem) (colon : Margin)
    (climbs : Climbs 0 height inner) :
    Climbs 0 height (StringItem.quoted key ++ colon.around ':' ++ inner) :=
  ((climbs_key key colon).mono climbs.nonneg).beside climbs

mutual

/-- A phrase climbs as high as it nests. -/
theorem Phrase.climbs (phrase : Phrase) : Climbs 0 phrase.nesting phrase.text := by
  match phrase with
  | .string items => exact climbs_quoted items
  | .number literal => exact climbs_number literal
  | .word keyword => exact climbs_word keyword
  | .emptyArray opening closing =>
      exact climbs_nil.enclose (by decide) (by decide) opening closing
  | .array opening first others closing =>
      have inside : Climbs 0 (max first.nesting others.nesting : Nat) (first.text ++ others.text) :=
        (first.climbs.mono (by omega)).beside (others.climbs.mono (by omega))
      simpa [Phrase.nesting, Phrase.text] using
        inside.enclose (by decide) (by decide) opening closing
  | .emptyObject opening closing =>
      exact climbs_nil.enclose (by decide) (by decide) opening closing
  | .object opening key colon first others closing =>
      have entry := climbs_entry key colon first.climbs
      have inside : Climbs 0 (max first.nesting others.nesting : Nat) (_ ++ others.text) :=
        (entry.mono (by omega)).beside (others.climbs.mono (by omega))
      simpa [Phrase.nesting, Phrase.text] using
        inside.enclose (by decide) (by decide) opening closing

/-- Items climb as high as the highest of them. -/
theorem ItemTail.climbs (tail : ItemTail) : Climbs 0 tail.nesting tail.text := by
  match tail with
  | .nil => exact climbs_nil
  | .cons comma item others =>
      have separator : Climbs 0 0 (comma.around ',') := climbs_separator (by decide) comma
      have first := (separator.mono item.climbs.nonneg).beside item.climbs
      have whole : Climbs 0 (max item.nesting others.nesting : Nat) (_ ++ others.text) :=
        (first.mono (by omega)).beside (others.climbs.mono (by omega))
      exact whole

/-- Entries climb as high as the highest of them. -/
theorem EntryTail.climbs (tail : EntryTail) : Climbs 0 tail.nesting tail.text := by
  match tail with
  | .nil => exact climbs_nil
  | .cons comma key colon item others =>
      have separator : Climbs 0 0 (comma.around ',') := climbs_separator (by decide) comma
      have entry := climbs_entry key colon item.climbs
      have first := (separator.mono entry.nonneg).beside entry
      have whole : Climbs 0 (max item.nesting others.nesting : Nat) (_ ++ others.text) :=
        (first.mono (by omega)).beside (others.climbs.mono (by omega))
      simpa [EntryTail.nesting, EntryTail.text] using whole

end

/-! ## Descents -/

variable {limits : Limits} {depth : Int}

/-- Members of a container, each of them within a height. -/
theorem Front.climbs {member others : Text → Prop} {front : Text} {height : Int}
    (isFront : Front member others front) (nonneg : 0 ≤ height)
    (ofMember : ∀ points, member points → Climbs 0 height points)
    (ofOthers : ∀ points, others points → Climbs 0 height points) : Climbs 0 height front := by
  cases isFront with
  | first => exact climbs_nil.mono nonneg
  | later isMember areOthers comma =>
      have separator : Climbs 0 0 (comma.around ',') := climbs_separator (by decide) comma
      exact (ofMember _ isMember).beside ((ofOthers _ areOthers).beside (separator.mono nonneg))

/-- What fits at a depth climbs to the nesting limit at most. -/
theorem Limits.Fits.nesting_le {nesting : Nat} {literals : List NumberLiteral}
    (fits : limits.Fits depth nesting literals) (within : depth ≤ limits.maxDepth) :
    (nesting : Int) ≤ limits.maxDepth.toNat - depth := by
  have nests := fits.nests
  omega

/-- Items in front of another one are within the nesting limit. -/
theorem climbs_items {front : Text} (within : depth ≤ limits.maxDepth)
    (isFront : Front (ValueText limits depth) (ItemsText limits depth) front) :
    Climbs 0 (limits.maxDepth.toNat - depth) front := by
  apply isFront.climbs (by omega)
  · rintro _ ⟨phrase, fits, rfl⟩
    exact phrase.climbs.mono (fits.nesting_le within)
  · rintro _ ⟨tail, fits, rfl⟩
    exact tail.climbs.mono (fits.nesting_le within)

/-- Entries in front of another one are within the nesting limit. -/
theorem climbs_entries {front : Text} (within : depth ≤ limits.maxDepth)
    (isFront : Front (EntryText limits depth) (EntriesText limits depth) front) :
    Climbs 0 (limits.maxDepth.toNat - depth) front := by
  apply isFront.climbs (by omega)
  · rintro _ ⟨key, colon, item, fits, rfl⟩
    exact (climbs_entry key colon item.climbs).mono (fits.nesting_le within)
  · rintro _ ⟨tail, fits, rfl⟩
    exact tail.climbs.mono (fits.nesting_le within)

/-- An opening bracket in front of what stays on a level and then climbs from it. -/
theorem Climbs.descend {opener : Char} {height : Int} {front shallow : Text}
    (climbs : Climbs height height shallow) (isFront : Climbs 0 height front)
    (opens : Weighs opener 1) (opening : Margin) :
    Climbs (height + 1) (height + 1) (opening.around opener ++ (front ++ shallow)) := by
  have nonneg := climbs.nonneg
  have inside : Climbs (0 + height) height (front ++ shallow) :=
    isFront.append climbs (Int.le_refl _) (by omega)
  have whole :
      Climbs (1 + (0 + height)) (height + 1) (opening.around opener ++ (front ++ shallow)) :=
    (climbs_around opens opening).append inside (by omega) (by omega)
  rwa [Int.zero_add, Int.add_comm 1] at whole

/-- A descent is a text that climbs to the nesting limit, and a bracket behind it. -/
theorem Descends.exists_bracket {points : Text} (descends : Descends limits depth points)
    (nonneg : 0 ≤ depth) (within : depth ≤ limits.maxDepth.toNat) :
    ∃ (shallow : Text) (opener : Char) (blanks : Blanks),
      (opener = '[' ∨ opener = '\x7b') ∧
      points = shallow ++ CodePoint.ofChar opener :: blanks.val ∧
      Climbs (limits.maxDepth.toNat - depth) (limits.maxDepth.toNat - depth) shallow := by
  induction descends with
  | @array depth beyond opening =>
      have level : limits.maxDepth.toNat - depth = 0 := by omega
      refine ⟨opening.before.val, '[', opening.after, .inl rfl, rfl, ?_⟩
      rw [level]
      exact climbs_blanks opening.before
  | @object depth beyond opening =>
      have level : limits.maxDepth.toNat - depth = 0 := by omega
      refine ⟨opening.before.val, '\x7b', opening.after, .inr rfl, rfl, ?_⟩
      rw [level]
      exact climbs_blanks opening.before
  | @item depth front inner deeper opening isFront descends inductionHypothesis =>
      obtain ⟨shallow, opener, blanks, isOpener, rfl, climbs⟩ :=
        inductionHypothesis (by omega) (by omega)
      have level : limits.maxDepth.toNat - depth = limits.maxDepth.toNat - (depth + 1) + 1 := by
        omega
      refine ⟨opening.around '[' ++ (front ++ shallow), opener, blanks, isOpener, by simp, ?_⟩
      rw [level]
      exact climbs.descend (climbs_items deeper isFront) (by decide) opening
  | @entry depth front inner deeper opening isFront key colon descends inductionHypothesis =>
      obtain ⟨shallow, opener, blanks, isOpener, rfl, climbs⟩ :=
        inductionHypothesis (by omega) (by omega)
      have level : limits.maxDepth.toNat - depth = limits.maxDepth.toNat - (depth + 1) + 1 := by
        omega
      have before := (climbs_entries deeper isFront).beside
        ((climbs_key key colon).mono climbs.nonneg)
      refine ⟨opening.around '\x7b' ++
        (front ++ (StringItem.quoted key ++ colon.around ':') ++ shallow), opener, blanks, isOpener,
          by simp, ?_⟩
      rw [level]
      exact climbs.descend before (by decide) opening

end Descent.Document
