import Descent.Proofs.Pattern.Membership

/-!
# What the reader of patterns reads

The reader takes fuel. Each of its functions leaves no more input than it was given, and so the fuel
that `read?` starts with is never spent: with more of it every text is read the same. What is read
has the bounds of its counts in order, and therefore `accepts` decides membership in it.
-/

namespace Descent

namespace Pattern

namespace Reader

variable {flags : Flags} {point : CodePoint} {input rest : Text}

/-! ## Sets in brackets -/

/-- A code point or a named set takes up some of the input. -/
theorem length_setAtom {item : PointItem} (read : setAtom input = some (item, rest)) :
    rest.length < input.length := by
  unfold setAtom at read
  grind

/-- So does a range. -/
theorem length_setItem {item : PointItem} (read : setItem input = some (item, rest)) :
    rest.length < input.length := by
  obtain ⟨⟨low, behind⟩, reads, further⟩ := Option.bind_eq_some_iff.mp read
  have shorter : behind.length < input.length := length_setAtom reads
  dsimp only at further
  split at further
  · next dash next more =>
      split at further
      · obtain ⟨⟨high, last⟩, readsHigh, ranged⟩ := Option.bind_eq_some_iff.mp further
        obtain ⟨range, -, same⟩ := Option.map_eq_some_iff.mp ranged
        cases same
        have shorterStill : last.length < (next :: more).length := length_setAtom readsHigh
        rw [List.length_cons] at shorter
        exact Nat.lt_trans (Nat.lt_succ_of_lt shorterStill) shorter
      · cases further
        exact shorter
  · cases further
    exact shorter

/-- A set ends in front of what is left. -/
theorem length_setItems {fuel : Nat} {atStart : Bool} {items all : List PointItem}
    (read : setItems fuel atStart items input = some (all, rest)) :
    rest.length < input.length := by
  induction fuel generalizing atStart items input with
  | zero => cases read
  | succ fuel inductionHypothesis =>
      cases input with
      | nil => cases read
      | cons point others =>
          rw [setItems] at read
          split at read
          · cases read
            exact Nat.lt_succ_self _
          · obtain ⟨⟨item, behind⟩, reads, further⟩ := Option.bind_eq_some_iff.mp read
            exact Nat.lt_trans (inductionHypothesis further) (length_setItem reads)

/-- With more fuel than input it makes no difference how much there is. -/
theorem setItems_add {fuel : Nat} (enough : input.length < fuel) (more : Nat) (atStart : Bool)
    (items : List PointItem) :
    setItems (fuel + more) atStart items input = setItems fuel atStart items input := by
  induction fuel generalizing atStart items input with
  | zero => cases enough
  | succ fuel inductionHypothesis =>
      rw [Nat.add_right_comm]
      cases input with
      | nil => rfl
      | cons point others =>
          rw [setItems, setItems]
          split
          · rfl
          · refine Option.bind_congr fun ⟨item, behind⟩ reads => ?_
            have shorter := length_setItem reads
            exact inductionHypothesis (Nat.lt_of_lt_of_le shorter (Nat.le_of_lt_succ enough)) _ _

theorem length_pointSet {set : PointSet} (read : pointSet flags input = some (set, rest)) :
    rest.length ≤ input.length := by
  have body (negated : Bool) : (if negated then input.drop 1 else input).length ≤ input.length := by
    cases negated with
    | true => exact (List.drop_sublist 1 input).length_le
    | false => exact Nat.le_refl _
  obtain ⟨⟨items, behind⟩, reads, same⟩ := Option.map_eq_some_iff.mp read
  cases same
  exact Nat.le_trans (Nat.le_of_lt (length_setItems reads)) (body _)

/-! ## Pieces -/

/-- Bounds in braces take up some of the input. -/
theorem length_bounds? {least : Nat} {most : Option Nat}
    (read : bounds? input = some (least, most, rest)) : rest.length < input.length := by
  have behindLow := (input.dropWhile_sublist CodePoint.isDigit).length_le
  have behindHigh (points : Text) := (points.dropWhile_sublist CodePoint.isDigit).length_le
  unfold bounds? at read
  grind

theorem length_count? {least : Nat} {most : Option Nat}
    (read : count? (point :: input) = some (least, most, rest)) : rest.length ≤ input.length := by
  have bounded (bounds : bounds? input = some (least, most, rest)) := length_bounds? bounds
  unfold count? at read
  grind

theorem length_skipMark (input : Text) : (skipMark input).length ≤ input.length := by
  unfold skipMark
  grind

theorem length_groupBody (read : groupBody input = some rest) : rest.length ≤ input.length := by
  unfold groupBody at read
  grind

theorem length_escapedPiece {piece : Piece} (read : escapedPiece flags input = some (piece, rest)) :
    rest.length ≤ input.length ∧ piece.pattern.Ordered := by
  unfold escapedPiece at read
  grind [Ordered, single]

/-- A count that is read has its bounds in order. -/
theorem ordered_counted {least : Nat} {most : Option Nat} {pieces all : List Piece}
    (counts : counted least most pieces = some all)
    (ordered : ∀ piece ∈ pieces, piece.pattern.Ordered) :
    ∀ piece ∈ all, piece.pattern.Ordered := by
  unfold counted at counts
  split at counts
  · obtain ⟨first, others⟩ := List.forall_mem_cons.mp ordered
    split at counts
    · split at counts
      · cases counts
      · next inOrder =>
          cases counts
          refine List.forall_mem_cons.mpr ⟨⟨first, ?_⟩, others⟩
          rintro _ ⟨⟩
          exact Nat.le_of_not_lt inOrder
    · cases counts
      exact List.forall_mem_cons.mpr ⟨⟨first, fun _ => nofun⟩, others⟩
  · cases counts

/-- Pieces in a row. -/
theorem ordered_join {pieces : List Piece} (ordered : ∀ piece ∈ pieces, piece.pattern.Ordered) :
    (join pieces).Ordered := by
  have step : ∀ (pieces : List Piece) (rest : Pattern), rest.Ordered →
      (∀ piece ∈ pieces, piece.pattern.Ordered) →
      (pieces.foldl (fun rest piece =>
        if rest = .blank then piece.pattern else .both piece.pattern rest) rest).Ordered := by
    intro pieces
    induction pieces with
    | nil => exact fun rest behind _ => behind
    | cons piece pieces inductionHypothesis =>
        intro rest behind each
        obtain ⟨first, others⟩ := List.forall_mem_cons.mp each
        refine inductionHypothesis _ ?_ others
        dsimp only
        split
        · exact first
        · exact ⟨first, behind⟩
  exact step pieces .blank trivial ordered

/-- A reader of patterns that leaves no more input than it is given, and that reads counts with
their bounds in order. -/
def Sound (read : Text → Option (Pattern × Text)) : Prop :=
  ∀ ⦃input pattern rest⦄, read input = some (pattern, rest) →
    rest.length ≤ input.length ∧ pattern.Ordered

variable {group : Text → Option (Pattern × Text)}

/-- A piece, from what is known of groups. -/
theorem sound_nextPiece (sound : Sound group) {piece : Piece} {behind : Text}
    (read : nextPiece flags group point rest = some (piece, behind)) :
    behind.length ≤ rest.length ∧ piece.pattern.Ordered := by
  unfold nextPiece at read
  split at read
  · obtain ⟨inside, opened, reads⟩ := Option.bind_eq_some_iff.mp read
    obtain ⟨⟨body, last⟩, grouped, closes⟩ := Option.bind_eq_some_iff.mp reads
    obtain ⟨shorter, ordered⟩ := sound grouped
    have opening := length_groupBody opened
    cases last with
    | nil => cases closes
    | cons _ last =>
        cases closes
        rw [List.length_cons] at shorter
        exact ⟨by omega, ordered⟩
  split at read
  · obtain ⟨⟨set, last⟩, reads, same⟩ := Option.map_eq_some_iff.mp read
    cases same
    exact ⟨length_pointSet reads, trivial⟩
  split at read
  · exact length_escapedPiece read
  split at read
  · cases read
    exact ⟨Nat.le_refl _, trivial⟩
  split at read
  · cases read
    exact ⟨Nat.le_refl _, trivial⟩
  · cases read
    exact ⟨Nat.le_refl _, trivial⟩

/-- The pieces with the next one. -/
theorem sound_nextPieces (sound : Sound group) {pieces all : List Piece} {behind : Text}
    (read : nextPieces flags group pieces point rest = some (all, behind)) :
    behind.length ≤ rest.length ∧ ((∀ piece ∈ pieces, piece.pattern.Ordered) →
      ∀ piece ∈ all, piece.pattern.Ordered) := by
  unfold nextPieces at read
  split at read
  · next least most last isCount =>
      obtain ⟨_, counts, same⟩ := Option.map_eq_some_iff.mp read
      cases same
      exact ⟨Nat.le_trans (length_skipMark last) (length_count? isCount),
        ordered_counted counts⟩
  · obtain ⟨⟨piece, last⟩, reads, same⟩ := Option.map_eq_some_iff.mp read
    cases same
    obtain ⟨shorter, isOrdered⟩ := sound_nextPiece sound reads
    exact ⟨shorter, fun ordered => List.forall_mem_cons.mpr ⟨isOrdered, ordered⟩⟩

/-- Branches leave no more input than they were given, and their counts have bounds in order if
those of the pieces in front do. -/
theorem sound_alternatives (flags : Flags) (fuel : Nat) :
    Sound (alternatives flags fuel) ∧
      ∀ ⦃pieces input pattern rest⦄, branch flags fuel pieces input = some (pattern, rest) →
        rest.length ≤ input.length ∧
          ((∀ piece ∈ pieces, piece.pattern.Ordered) → pattern.Ordered) := by
  induction fuel with
  | zero => exact ⟨nofun, nofun⟩
  | succ fuel inductionHypothesis =>
      obtain ⟨soundAlternatives, soundBranch⟩ := inductionHypothesis
      constructor
      · intro input pattern rest read
        rw [alternatives] at read
        obtain ⟨⟨first, behind⟩, reads, further⟩ := Option.bind_eq_some_iff.mp read
        obtain ⟨shorter, ordered⟩ := soundBranch reads
        have isOrdered := ordered (List.forall_mem_nil _)
        cases behind with
        | nil =>
            cases further
            exact ⟨shorter, isOrdered⟩
        | cons point more =>
            dsimp only at further
            split at further
            · obtain ⟨⟨others, last⟩, readsOthers, same⟩ := Option.map_eq_some_iff.mp further
              cases same
              obtain ⟨shorterStill, orderedOthers⟩ := soundAlternatives readsOthers
              rw [List.length_cons] at shorter
              exact ⟨Nat.le_trans shorterStill (Nat.le_of_succ_le shorter), isOrdered,
                orderedOthers⟩
            · cases further
              exact ⟨shorter, isOrdered⟩
      · intro pieces input pattern rest read
        cases input with
        | nil =>
            cases read
            exact ⟨Nat.le_refl _, ordered_join⟩
        | cons point others =>
            rw [branch] at read
            split at read
            · cases read
              exact ⟨Nat.le_refl _, ordered_join⟩
            · obtain ⟨⟨all, behind⟩, reads, further⟩ := Option.bind_eq_some_iff.mp read
              obtain ⟨shorter, orderedAll⟩ := sound_nextPieces soundAlternatives reads
              obtain ⟨shorterStill, isOrdered⟩ := soundBranch further
              exact ⟨Nat.le_succ_of_le (Nat.le_trans shorterStill shorter), isOrdered ∘ orderedAll⟩

/-! ## Fuel -/

/-- Groups that are read alike are pieces alike. -/
theorem nextPieces_congr {other : Text → Option (Pattern × Text)} {pieces : List Piece}
    (alike : ∀ inside : Text, inside.length ≤ rest.length → group inside = other inside) :
    nextPieces flags group pieces point rest = nextPieces flags other pieces point rest := by
  have same : nextPiece flags group point rest = nextPiece flags other point rest := by
    unfold nextPiece
    split
    · refine Option.bind_congr fun inside opened => ?_
      rw [alike inside (length_groupBody opened)]
    · rfl
  rw [nextPieces, nextPieces, same]

/-- With enough fuel it makes no difference how much there is. A branch spends one on each piece,
and what is between two bars or brackets spends one more on its first branch. -/
theorem alternatives_add (flags : Flags) (more fuel : Nat) :
    (∀ input, 2 * input.length + 2 ≤ fuel →
      alternatives flags (fuel + more) input = alternatives flags fuel input) ∧
    ∀ pieces input, 2 * input.length + 1 ≤ fuel →
      branch flags (fuel + more) pieces input = branch flags fuel pieces input := by
  induction fuel with
  | zero => exact ⟨fun _ enough => by omega, fun _ _ enough => by omega⟩
  | succ fuel inductionHypothesis =>
      obtain ⟨sameAlternatives, sameBranch⟩ := inductionHypothesis
      rw [Nat.add_right_comm]
      constructor
      · intro input enough
        rw [alternatives, alternatives, sameBranch [] input (by omega)]
        refine Option.bind_congr fun ⟨first, behind⟩ reads => ?_
        have shorter := ((sound_alternatives flags fuel).2 reads).1
        cases behind with
        | nil => rfl
        | cons point others =>
            rw [List.length_cons] at shorter
            dsimp only
            rw [sameAlternatives others (by omega)]
      · intro pieces input enough
        cases input with
        | nil => rfl
        | cons point others =>
            rw [List.length_cons] at enough
            have sameNext :
                nextPieces flags (alternatives flags (fuel + more)) pieces point others =
                  nextPieces flags (alternatives flags fuel) pieces point others :=
              nextPieces_congr fun inside within => sameAlternatives inside (by omega)
            rw [branch, branch, sameNext]
            split
            · rfl
            · refine Option.bind_congr fun ⟨all, behind⟩ reads => ?_
              have shorter := (sound_nextPieces (sound_alternatives flags fuel).1 reads).1
              exact sameBranch all behind (by omega)

end Reader

/-! ## Patterns as they are written -/

variable {flags : Flags} {input : Text} {pattern : Pattern}

/-- The fuel is never spent: a text that is refused is refused with any amount of it. -/
theorem read?_eq_some_iff (more : Nat) :
    read? flags input = some pattern ↔
      Reader.alternatives flags (2 * input.length + 2 + more) input = some (pattern, []) := by
  rw [(Reader.alternatives_add flags more _).1 input (Nat.le_refl _), read?]
  split
  · next read => simp [read]
  · next refused =>
      refine ⟨nofun, fun read => absurd read (refused pattern)⟩

/-- The counts of a pattern that is read have their bounds in order. -/
theorem ordered_of_read? (read : read? flags input = some pattern) : pattern.Ordered :=
  ((Reader.sound_alternatives flags _).1 ((read?_eq_some_iff 0).mp read)).2

/-- A token that is matched against a written pattern is accepted exactly if the pattern describes
it. -/
theorem accepts_iff_of_read? (read : read? flags input = some pattern) (alphabet : Alphabet)
    (points : Text) : pattern.accepts alphabet points ↔ pattern.Spells alphabet points :=
  accepts_iff (ordered_of_read? read)

end Pattern

end Descent
