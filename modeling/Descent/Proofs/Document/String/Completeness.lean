import Descent.Proofs.Document.String.Soundness

/-!
# Items are read

A string that is ahead is read as what its items stand for. An escaped high surrogate is taken
together with the escaped low surrogate behind it; where something else is behind it, that is looked
at and left alone.
-/

namespace Descent.Document

variable {ν : Type} {laps : Nat} {resolve : ν → Behaviour} {cursor : Cursor}

/-- The quote that ends a string, and what is behind it. -/
abbrev closed (items : List StringItem) (points : Text) : Text :=
  StringItem.texts items ++ CodePoint.ofChar '"' :: points

/-- No escape by letter has the letter of the escapes by number. -/
theorem ShortEscape.letter_ne (escape : ShortEscape) :
    CodePoint.ofChar escape.letter ≠ CodePoint.ofChar 'u' := by
  cases escape <;> decide

/-- A code unit is ahead only if the first item is one. -/
theorem not_unit_ahead {items : List StringItem} (points : Text)
    (notCoded : ∀ unit more, items ≠ .coded unit :: more) :
    ¬ [CodePoint.ofChar '\\', CodePoint.ofChar 'u'] <+: closed items points := by
  cases items with
  | nil =>
      rw [closed, StringItem.texts, List.flatMap_nil, List.nil_append, List.cons_prefix_cons]
      exact fun ahead => absurd ahead.1 (by decide)
  | cons item more =>
      cases item with
      | plain point isPlain =>
          rintro ⟨behind, spelled⟩
          have first : CodePoint.ofChar '\\' = point := (List.cons.inj spelled).1
          rw [← first] at isPlain
          exact absurd isPlain (by decide)
      | short escape =>
          rintro ⟨behind, spelled⟩
          exact escape.letter_ne (List.cons.inj (List.cons.inj spelled).2).1.symm
      | coded unit => exact absurd rfl (notCoded unit more)

/-- Where the next item is no escaped low surrogate, none is taken. -/
theorem declines_lowSurrogate {items : List StringItem} {points : Text}
    (ahead : cursor.rest = closed items points)
    (notLow : ∀ unit more, items = .coded unit :: more →
      CodePoint.isLowSurrogate unit.number = false) :
    cursor.Reads (fun _ _ _ => False) True noFailure
      ((lowSurrogate : Rule ν).evaluate laps resolve cursor.state).reply := by
  by_cases coded : ∃ unit more, items = .coded unit :: more
  · obtain ⟨unit, more, rfl⟩ := coded
    have spelled : cursor.rest = (StringItem.coded unit).text ++ closed more points := by
      rw [ahead]
      simp [closed, StringItem.texts]
    have taken : cursor.Reads (fun _ product _ => product = .int unit.number) True noFailure
        ((escapedUnit : Rule ν).evaluate laps resolve cursor.state).reply :=
      (takes_escapedUnit spelled).neverDeclines.weakenMatch (fun _ _ _ _ holds => holds.2.1)
    refine (taken.accepting fun _ _ _ _ _ => trivial).weakenMatch ?_
    rintro _ _ next _ ⟨rfl, isLow⟩
    have refused := notLow unit more rfl
    exact absurd (refused.symm.trans isLow) (by decide)
  · have absent := not_unit_ahead points fun unit more same => coded ⟨unit, more, same⟩
    rw [← ahead] at absent
    refine ((declines_escapedUnit absent).accepting fun _ _ _ _ _ => trivial).weakenMatch
      (fun _ _ _ _ holds => holds.1)

/-- A code unit in front of an item that does not join it. -/
theorem takes_unitSteps_alone {unit : CodeUnit} {items : List StringItem} {points : Text}
    (ahead : cursor.rest = closed items points)
    (alone : ∀ low more, items = .coded low :: more → CodePoint.isHighSurrogate unit.number →
      CodePoint.isLowSurrogate low.number = false) :
    cursor.Reads
      (fun consumed product next => consumed = [] ∧ product = .ofCodePoint unit.point ∧
        next.depth = cursor.depth)
      False noFailure
      ((unitSteps (.int unit.number) : Steps ν).evaluate laps resolve cursor.state).reply := by
  by_cases isHigh : CodePoint.isHighSurrogate unit.number
  · obtain ⟨following, steps, single, -⟩ : ∃ following : Value → Steps ν, _ :=
      unitSteps_of_high isHigh
    have lookahead : cursor.Reads
        (fun consumed product next => consumed = [] ∧ product = .none ∧
          next.depth = cursor.depth)
        False noFailure
        ((Rule.optional lowSurrogate .none : Rule ν).evaluate laps resolve
          cursor.state).reply :=
      Cursor.Reads.optional
        (declines_lowSurrogate ahead fun low more same => alone low more same isHigh).neverMatches
        fun _ => ⟨rfl, rfl, rfl⟩
    rw [steps]
    refine lookahead.apply ?_
    rintro _ _ next _ ⟨rfl, rfl, depth⟩
    rw [single]
    exact .finish ⟨rfl, rfl, depth⟩
  · rw [unitSteps_of_not_high (by simpa using isHigh)]
    exact .finish ⟨rfl, rfl, rfl⟩

/-- A high surrogate in front of an escaped low one. -/
theorem takes_unitSteps_pair {high low : CodeUnit} {points : Text}
    (isHigh : CodePoint.isHighSurrogate high.number)
    (isLow : CodePoint.isLowSurrogate low.number)
    (ahead : cursor.rest = (StringItem.coded low).text ++ points) :
    cursor.Reads
      (fun consumed product next => consumed = (StringItem.coded low).text ∧
        product = .ofCodePoint ⟨_, joinSurrogates_lt isHigh isLow⟩ ∧ next.depth = cursor.depth)
      False noFailure
      ((unitSteps (.int high.number) : Steps ν).evaluate laps resolve cursor.state).reply := by
  obtain ⟨following, steps, -, joined⟩ : ∃ following : Value → Steps ν, _ :=
    unitSteps_of_high isHigh
  have taken : cursor.Reads
      (fun consumed product next => consumed = (StringItem.coded low).text ∧
        product = .int low.number ∧ next.depth = cursor.depth)
      False noFailure
      ((Rule.optional lowSurrogate .none : Rule ν).evaluate laps resolve cursor.state).reply := by
    refine Cursor.Reads.optional (((takes_escapedUnit ahead).accepting ?_).weakenMatch
      (fun _ _ _ _ holds => holds.1)) False.elim
    rintro _ _ next ⟨-, rfl, -⟩ refused
    exact absurd (refused.symm.trans isLow) (by decide)
  rw [steps]
  refine taken.apply ?_
  rintro _ _ next _ ⟨rfl, rfl, depth⟩
  rw [joined low isLow]
  exact .finish ⟨by simp, rfl, depth⟩

/-- An escape whose part behind the backslash is known. -/
theorem takes_escape {points spelled : Text} {point : CodePoint}
    (ahead : cursor.rest = CodePoint.ofChar '\\' :: points)
    (behind : ∀ first : Cursor, first.rest = points →
      first.Reads
        (fun consumed product next => consumed = spelled ∧ product = .ofCodePoint point ∧
          next.depth = first.depth)
        False noFailure
        ((Rule.choice [unicodeEscape, shortEscape] : Rule ν).evaluate laps resolve
          first.state).reply) :
    cursor.Reads
      (fun consumed product next => consumed = CodePoint.ofChar '\\' :: spelled ∧
        product = .ofCodePoint point ∧ next.depth = cursor.depth)
      False noFailure
      ((Rule.choice [escape, unescaped] : Rule ν).evaluate laps resolve cursor.state).reply := by
  refine Cursor.Reads.choice_cons (Cursor.Reads.derivation
    (Cursor.Reads.apply (takesOne_backslash.takes ahead (by simp)) ?_))
    False.elim
  rintro _ _ first _ ⟨rfl, rfl, rest, depth⟩
  refine Cursor.Reads.apply ((behind first rest).failpoint False.elim) ?_
  rintro _ _ next _ ⟨rfl, rfl, furtherDepth⟩
  exact .finish ⟨by simp, rfl, by rw [furtherDepth, depth]⟩

/-- An escape by number whose part behind the digits is known. -/
theorem takes_unicodeEscape {unit : CodeUnit} {points spelled : Text} {point : CodePoint}
    (ahead : cursor.rest = CodePoint.ofChar 'u' :: (unit.digits ++ points))
    (behind : ∀ last : Cursor, last.rest = points →
      last.Reads
        (fun consumed product next => consumed = spelled ∧ product = .ofCodePoint point ∧
          next.depth = last.depth)
        False noFailure
        ((unitSteps (.int unit.number) : Steps ν).evaluate laps resolve last.state).reply) :
    cursor.Reads
      (fun consumed product next =>
        consumed = CodePoint.ofChar 'u' :: (unit.digits ++ spelled) ∧
        product = .ofCodePoint point ∧ next.depth = cursor.depth)
      False noFailure
      ((Rule.choice [unicodeEscape, shortEscape] : Rule ν).evaluate laps resolve
        cursor.state).reply := by
  refine Cursor.Reads.choice_cons (Cursor.Reads.derivation
    (Cursor.Reads.apply (takesOne_u.takes ahead (by simp)) ?_)) False.elim
  rintro _ _ first _ ⟨rfl, rfl, firstAhead, depth⟩
  refine Cursor.Reads.apply (takes_hexQuad firstAhead) ?_
  rintro _ _ second _ ⟨rfl, rfl, secondAhead, unitDepth⟩
  refine (behind second secondAhead).weakenMatch ?_
  rintro _ _ third _ ⟨rfl, rfl, furtherDepth⟩
  exact ⟨rfl, rfl, by rw [furtherDepth, unitDepth, depth]⟩

/-- An escape by letter. -/
theorem takes_shortEscape {escape : ShortEscape} {points : Text}
    (ahead : cursor.rest = CodePoint.ofChar escape.letter :: points) :
    cursor.Reads
      (fun consumed product next => consumed = [CodePoint.ofChar escape.letter] ∧
        product = token escape.character ∧ next.depth = cursor.depth)
      False noFailure
      ((Rule.choice [unicodeEscape, shortEscape] : Rule ν).evaluate laps resolve
        cursor.state).reply := by
  have noNumber : cursor.Reads (fun _ _ _ => False) True noFailure
      ((unicodeEscape : Rule ν).evaluate laps resolve cursor.state).reply := by
    refine Cursor.Reads.derivation (Cursor.Reads.apply_unmatched (takesOne_u.declines ?_))
    intro point head
    rw [ahead] at head
    cases head
    simpa using escape.letter_ne
  have known : (escape.letter, escape.character) ∈ shortEscapes :=
    mem_shortEscapes_iff.mpr ⟨escape, rfl⟩
  have isLetter : escapeLetters.contains (CodePoint.ofChar escape.letter) := by
    rw [List.contains_iff_mem, escapeLetters, List.mem_map]
    exact ⟨_, known, rfl⟩
  refine noNumber.choice_skip (Cursor.Reads.choice_cons
    ((takesOne_escapeLetter.takes ahead isLetter).semantics ?_) False.elim)
  rintro _ _ next ⟨rfl, rfl, -, depth⟩
  exact ⟨_, shortEscapeValue_of_mem known, rfl, rfl, depth⟩

/-- A plain character. -/
theorem takes_plain {point : CodePoint} (isPlain : point.isPlain) {points : Text}
    (ahead : cursor.rest = point :: points) :
    cursor.Reads
      (fun consumed product next => consumed = [point] ∧ product = .ofCodePoint point ∧
        next.depth = cursor.depth)
      False noFailure
      ((Rule.choice [escape, unescaped] : Rule ν).evaluate laps resolve cursor.state).reply := by
  have noEscape : cursor.Reads (fun _ _ _ => False) True noFailure
      ((escape : Rule ν).evaluate laps resolve cursor.state).reply := by
    refine Cursor.Reads.derivation (.apply_unmatched (takesOne_backslash.declines ?_))
    intro first head
    rw [ahead] at head
    cases head
    refine beq_false_of_ne ?_
    rintro rfl
    exact absurd isPlain (by decide)
  refine noEscape.choice_skip (Cursor.Reads.choice_cons
    ((takesOne_unescaped.takes ahead isPlain).weakenMatch ?_) False.elim)
  rintro _ _ next _ ⟨rfl, rfl, -, depth⟩
  exact ⟨rfl, rfl, depth⟩

/-- Two escaped surrogates in the right order stand for one code point. -/
theorem StringItem.pair?_coded {high low : CodeUnit}
    (isHigh : CodePoint.isHighSurrogate high.number)
    (isLow : CodePoint.isLowSurrogate low.number) :
    pair? (.coded high) (.coded low) = some ⟨_, joinSurrogates_lt isHigh isLow⟩ := by
  rw [pair?, isHigh, isLow, if_pos (by decide), CodePoint.ofNat?, dif_pos]

/-- Only two escaped surrogates are a pair. -/
theorem StringItem.exists_of_pair? {first second : StringItem} {point : CodePoint}
    (pair : first.pair? second = some point) :
    ∃ high low : CodeUnit, ∃ (isHigh : CodePoint.isHighSurrogate high.number)
      (isLow : CodePoint.isLowSurrogate low.number), first = .coded high ∧ second = .coded low ∧
      point = ⟨_, joinSurrogates_lt isHigh isLow⟩ := by
  cases first with
  | plain => cases pair
  | short => cases pair
  | coded high =>
      cases second with
      | plain => cases pair
      | short => cases pair
      | coded low =>
          by_cases surrogates : CodePoint.isHighSurrogate high.number &&
            CodePoint.isLowSurrogate low.number
          · obtain ⟨isHigh, isLow⟩ := Bool.and_eq_true _ _ ▸ surrogates
            rw [pair?_coded isHigh isLow] at pair
            exact ⟨high, low, isHigh, isLow, rfl, rfl, (Option.some.inj pair).symm⟩
          · rw [pair?, if_neg surrogates] at pair
            cases pair

/-- An item that the next one does not join stands for its own code point. -/
theorem takes_item {item : StringItem} {items : List StringItem} {points : Text}
    (ahead : cursor.rest = item.text ++ closed items points)
    (alone : ∀ second more, items = second :: more → item.pair? second = none) :
    cursor.Reads
      (fun consumed product next => consumed = item.text ∧ product = .ofCodePoint item.point ∧
        next.depth = cursor.depth)
      False noFailure
      ((Rule.choice [escape, unescaped] : Rule ν).evaluate laps resolve cursor.state).reply := by
  cases item with
  | plain point isPlain => exact takes_plain isPlain ahead
  | short escape =>
      exact takes_escape ahead fun first firstAhead => takes_shortEscape firstAhead
  | coded unit =>
      refine takes_escape ahead fun first firstAhead => ?_
      refine (takes_unicodeEscape firstAhead fun last lastAhead =>
        takes_unitSteps_alone lastAhead ?_).weakenMatch ?_
      · intro low more same isHigh
        have noPair := alone (.coded low) more same
        cases isLow : CodePoint.isLowSurrogate low.number with
        | true =>
            rw [StringItem.pair?_coded isHigh isLow] at noPair
            cases noPair
        | false => rfl
      · rintro _ _ next _ ⟨rfl, rfl, depth⟩
        exact ⟨by simp, rfl, depth⟩

/-- Two items that are a pair stand for one code point. -/
theorem takes_pair {first second : StringItem} {point : CodePoint} {points : Text}
    (pair : first.pair? second = some point)
    (ahead : cursor.rest = first.text ++ (second.text ++ points)) :
    cursor.Reads
      (fun consumed product next => consumed = first.text ++ second.text ∧
        product = .ofCodePoint point ∧ next.depth = cursor.depth)
      False noFailure
      ((Rule.choice [escape, unescaped] : Rule ν).evaluate laps resolve cursor.state).reply := by
  obtain ⟨high, low, isHigh, isLow, rfl, rfl, rfl⟩ := StringItem.exists_of_pair? pair
  exact takes_escape ahead fun behind behindAhead =>
    takes_unicodeEscape behindAhead fun last lastAhead =>
      takes_unitSteps_pair isHigh isLow lastAhead

/-- An item has a spelling. -/
theorem StringItem.text_ne_nil (item : StringItem) : item.text ≠ [] := by
  cases item <;> simp [text]

/-- Where a string is closed, its contents end. -/
theorem declines_contents {points : Text} (ahead : cursor.rest = CodePoint.ofChar '"' :: points) :
    cursor.Reads (fun _ _ _ => False) True noFailure
      ((Rule.choice [escape, unescaped] : Rule ν).evaluate laps resolve cursor.state).reply := by
  refine Cursor.Reads.choice_cons
    (Cursor.Reads.derivation (.apply_unmatched (takesOne_backslash.declines ?_))) fun _ => ?_
  · intro point head
    rw [ahead] at head
    cases head
    decide
  · refine Cursor.Reads.choice_cons (takesOne_unescaped.declines ?_) fun _ => .choice_nil trivial
    intro point head
    rw [ahead] at head
    cases head
    decide

/-- The laps of a repetition consume a text and produce the characters of another one. -/
def Decodes (cursor : Cursor) (spelled decoded : Text) (reply : Reply (List Value)) : Prop :=
  cursor.Reads
    (fun consumed products next => (consumed = spelled ∧
      products = decoded.map .ofCodePoint ∧ next.depth = cursor.depth) ∧
      products.length ≤ consumed.length)
    False noFailure reply

/-- One lap through the contents, and the laps after it. -/
theorem decodes_succ {spelled more decoded points : Text} {point : CodePoint} {limit : Nat}
    (ahead : cursor.rest = spelled ++ points) (present : spelled ≠ [])
    (lap : cursor.Reads
      (fun consumed product next => consumed = spelled ∧ product = .ofCodePoint point ∧
        next.depth = cursor.depth)
      False noFailure
      ((Rule.choice [escape, unescaped] : Rule ν).evaluate laps resolve cursor.state).reply)
    (following : ∀ next : Cursor, next.rest = points → Decodes next more decoded
      (Behaviour.collect ((Rule.choice [escape, unescaped] : Rule ν).evaluate laps resolve) limit
        next.state).reply) :
    Decodes cursor (spelled ++ more) (point :: decoded)
      (Behaviour.collect ((Rule.choice [escape, unescaped] : Rule ν).evaluate laps resolve)
        (limit + 1) cursor.state).reply := by
  refine lap.collect_succ ?_ ?_ False.elim
  · rintro _ _ next ⟨rfl, -⟩
    exact present
  · rintro _ _ next passes ⟨rfl, rfl, depth⟩
    refine (following next (passes.rest_eq ahead)).weakenMatch ?_
    rintro _ _ last _ ⟨⟨rfl, rfl, lastDepth⟩, counted⟩
    exact ⟨⟨rfl, rfl, by rw [lastDepth, depth]⟩, counted⟩

/-- The first item of the contents, if the second does not join it, and the items after it. -/
theorem decodes_item {item : StringItem} {items : List StringItem} {points : Text} {limit : Nat}
    (ahead : cursor.rest = closed (item :: items) points)
    (alone : ∀ second more, items = second :: more → item.pair? second = none)
    (following : ∀ next : Cursor, next.rest = closed items points →
      Decodes next (StringItem.texts items) (StringItem.decode items)
        (Behaviour.collect ((Rule.choice [escape, unescaped] : Rule ν).evaluate laps resolve) limit
          next.state).reply) :
    Decodes cursor (StringItem.texts (item :: items)) (StringItem.decode (item :: items))
      (Behaviour.collect ((Rule.choice [escape, unescaped] : Rule ν).evaluate laps resolve)
        (limit + 1) cursor.state).reply := by
  have spelled : StringItem.texts (item :: items) = item.text ++ StringItem.texts items :=
    List.flatMap_cons
  have decoded : StringItem.decode (item :: items) = item.point :: StringItem.decode items := by
    cases items with
    | nil => rfl
    | cons second more => rw [StringItem.decode, alone second more rfl]
  rw [closed, spelled, List.append_assoc] at ahead
  rw [spelled, decoded]
  exact decodes_succ ahead item.text_ne_nil (takes_item ahead alone) following

/-- The contents of a string that is ahead are decoded. -/
theorem decodes_contents {items : List StringItem} {points : Text} {limit : Nat}
    (ahead : cursor.rest = closed items points)
    (enough : (StringItem.texts items).length < limit) :
    Decodes cursor (StringItem.texts items) (StringItem.decode items)
      (Behaviour.collect ((Rule.choice [escape, unescaped] : Rule ν).evaluate laps resolve) limit
        cursor.state).reply := by
  obtain ⟨limit, rfl⟩ : ∃ smaller, limit = smaller + 1 := ⟨limit - 1, by omega⟩
  -- The induction follows `decode`, which takes the items as the laps do.
  induction items using StringItem.decode.induct generalizing cursor limit with
  | case1 =>
      exact (declines_contents ahead).collect_nil fun _ => ⟨rfl, rfl, rfl⟩
  | case2 item =>
      have longer := List.length_pos_iff.mpr item.text_ne_nil
      have spelled : (StringItem.texts [item]).length = item.text.length := by
        simp [StringItem.texts]
      obtain ⟨smaller, rfl⟩ : ∃ smaller, limit = smaller + 1 := ⟨limit - 1, by omega⟩
      refine decodes_item ahead (fun _ _ none => by cases none) fun next nextAhead => ?_
      exact (declines_contents nextAhead).collect_nil fun _ => ⟨rfl, rfl, rfl⟩
  | case3 first second others point pair inductionHypothesis =>
      have longer := List.length_pos_iff.mpr first.text_ne_nil
      have spelled : StringItem.texts (first :: second :: others) =
          (first.text ++ second.text) ++ StringItem.texts others := by
        simp [StringItem.texts]
      have decoded : StringItem.decode (first :: second :: others) =
          point :: StringItem.decode others := by
        rw [StringItem.decode, pair]
      rw [spelled, List.length_append, List.length_append] at enough
      rw [closed, spelled, List.append_assoc] at ahead
      rw [spelled, decoded]
      obtain ⟨smaller, rfl⟩ : ∃ smaller, limit = smaller + 1 := ⟨limit - 1, by omega⟩
      refine decodes_succ ahead (by simp [first.text_ne_nil])
        (takes_pair pair (by rw [ahead, List.append_assoc])) fun next nextAhead => ?_
      exact inductionHypothesis nextAhead smaller (by omega)
  | case4 first second others alone inductionHypothesis =>
      have longer := List.length_pos_iff.mpr first.text_ne_nil
      have spelled : (StringItem.texts (first :: second :: others)).length =
          first.text.length + (StringItem.texts (second :: others)).length := by
        simp [StringItem.texts]
      obtain ⟨smaller, rfl⟩ : ∃ smaller, limit = smaller + 1 := ⟨limit - 1, by omega⟩
      refine decodes_item ahead ?_ fun next nextAhead =>
        inductionHypothesis nextAhead smaller (by omega)
      rintro _ _ same
      cases same
      exact alone

/-- A string that is ahead is consumed up to its closing quote and decoded. -/
theorem takes_string {items : List StringItem} {points : Text}
    (ahead : cursor.rest = StringItem.quoted items ++ points)
    (enough : cursor.rest.length < laps) :
    cursor.Reads
      (fun consumed product next => consumed = StringItem.quoted items ∧
        product = .str (StringItem.decode items) ∧ next.depth = cursor.depth)
      False noFailure ((string : Rule ν).evaluate laps resolve cursor.state).reply := by
  have spelled : cursor.rest = CodePoint.ofChar '"' :: closed items points := by
    rw [ahead]
    simp [StringItem.quoted, closed]
  refine Cursor.Reads.derivation
    (Cursor.Reads.apply (takesOne_quote.takes spelled (by simp)) ?_)
  rintro _ _ first passes ⟨rfl, rfl, firstAhead, depth⟩
  have shorter := passes.length
  have contents : first.Reads
      (fun consumed product next => consumed = StringItem.texts items ∧
        product = .tuple ((StringItem.decode items).map .ofCodePoint) ∧ next.depth = first.depth)
      False noFailure
      ((Rule.zeroOrMore (.choice [escape, unescaped]) : Rule ν).evaluate laps resolve
        first.state).reply := by
    have fits : (StringItem.texts items).length < laps := by
      rw [firstAhead, closed, List.length_append] at shorter
      omega
    refine Cursor.Reads.zeroOrMore (by omega)
      ((decodes_contents firstAhead fits).weakenMatch ?_)
    rintro _ _ next _ ⟨⟨rfl, rfl, contentsDepth⟩, counted⟩
    exact ⟨⟨rfl, rfl, contentsDepth⟩, counted⟩
  refine contents.apply ?_
  rintro _ _ second secondPasses ⟨rfl, rfl, contentsDepth⟩
  have secondAhead := secondPasses.rest_eq firstAhead
  refine Cursor.Reads.apply ((takesOne_quote.takes secondAhead (by simp)).failpoint False.elim) ?_
  rintro _ _ third _ ⟨rfl, rfl, -, closingDepth⟩
  simp only [(spells_run (StringItem.decode items)).joined?]
  refine .finish ⟨by simp [StringItem.quoted], rfl, ?_⟩
  rw [closingDepth, contentsDepth, depth]

/-- Where no quote is ahead, there is no string. -/
theorem declines_string (absent : cursor.rest.head? ≠ some (CodePoint.ofChar '"')) :
    cursor.Reads (fun _ _ _ => False) True noFailure
      ((string : Rule ν).evaluate laps resolve cursor.state).reply := by
  refine Cursor.Reads.derivation (.apply_unmatched (takesOne_quote.declines ?_))
  rintro point ahead
  refine beq_false_of_ne ?_
  rintro rfl
  exact absent ahead

end Descent.Document
