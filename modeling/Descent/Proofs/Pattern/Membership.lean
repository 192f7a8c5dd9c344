import Descent.Catalogue.Rules
import Descent.Pattern.Reader
import Mathlib.Data.List.Basic

/-!
# Membership in a pattern

`Pattern.Spells` says which texts a pattern describes, without an order in which they would be
tried. `accepts` decides it: the patterns that it holds behind a text describe what the text may be
continued with, and no continuation gets lost when the next code point is taken.

Partial derivatives rely on one thing: that the bounds of a count are in order. The reader refuses
a count whose bounds are not, so every pattern that it reads is decided.
-/

namespace Descent

namespace Pattern

variable {alphabet : Alphabet} {pattern first second body : Pattern} {point : CodePoint}
  {points : Text} {least : Nat} {most : Option Nat}

/-! ## What a pattern describes -/

/-- The text is in the set that the pattern describes. -/
def Spells (alphabet : Alphabet) : Pattern → Text → Prop
  | blank, points => points = []
  | one set, points => ∃ point, set.has alphabet point ∧ points = [point]
  | both first second, points =>
    ∃ front back, points = front ++ back ∧ first.Spells alphabet front ∧
      second.Spells alphabet back
  | either first second, points => first.Spells alphabet points ∨ second.Spells alphabet points
  | repeated body least most, points =>
    ∃ parts : List Text, points = parts.flatten ∧ least ≤ parts.length ∧
      (∀ bound ∈ most, parts.length ≤ bound) ∧ ∀ part ∈ parts, body.Spells alphabet part

/-- In every count the lower bound is at most the upper one. -/
def Ordered : Pattern → Prop
  | blank | one _ => True
  | both first second | either first second => first.Ordered ∧ second.Ordered
  | repeated body least most => body.Ordered ∧ ∀ bound ∈ most, least ≤ bound

/-- A pattern is nullable exactly if it describes the empty text. -/
theorem nullable_iff (ordered : pattern.Ordered) :
    pattern.nullable ↔ pattern.Spells alphabet [] := by
  induction pattern with
  | blank => simp [nullable, Spells]
  | one set => simp [nullable, Spells]
  | both first second ofFirst ofSecond =>
      rw [nullable, Bool.and_eq_true, ofFirst ordered.1, ofSecond ordered.2]
      constructor
      · rintro ⟨front, back⟩
        exact ⟨[], [], rfl, front, back⟩
      · rintro ⟨front, back, split, inFirst, inSecond⟩
        obtain ⟨rfl, rfl⟩ := List.append_eq_nil_iff.mp split.symm
        exact ⟨inFirst, inSecond⟩
  | either first second ofFirst ofSecond =>
      rw [nullable, Bool.or_eq_true, ofFirst ordered.1, ofSecond ordered.2]
      rfl
  | repeated body least most ofBody =>
      rw [nullable, Bool.or_eq_true, beq_iff_eq, ofBody ordered.1]
      constructor
      · rintro (rfl | inBody)
        · exact ⟨[], rfl, Nat.le_refl 0, fun bound _ => Nat.zero_le bound, List.forall_mem_nil _⟩
        · -- As many empty parts as there have to be.
          refine ⟨List.replicate least [], by simp, by simp, fun bound held => ?_, ?_⟩
          · rw [List.length_replicate]
            exact ordered.2 bound held
          · intro part held
            rwa [List.eq_of_mem_replicate held]
      · rintro ⟨parts, flat, enough, -, each⟩
        cases parts with
        | nil => exact .inl (Nat.le_zero.mp enough)
        | cons part others =>
            obtain ⟨rfl, -⟩ := List.append_eq_nil_iff.mp (List.flatten_cons ▸ flat.symm)
            exact .inr (each [] List.mem_cons_self)

/-! ## One code point -/

theorem ordered_followedBy (ordered : pattern.Ordered) (behind : second.Ordered) :
    (followedBy second pattern).Ordered := by
  cases pattern with
  | blank => exact behind
  | _ => exact ⟨ordered, behind⟩

/-- A blank in front makes no difference. -/
theorem spells_followedBy :
    (followedBy second pattern).Spells alphabet points ↔
      (both pattern second).Spells alphabet points := by
  cases pattern with
  | blank => simp [followedBy, Spells]
  | _ => rfl

/-- The bounds of counts stay in order. -/
theorem ordered_partials (ordered : pattern.Ordered) :
    ∀ rest ∈ pattern.partials alphabet point, rest.Ordered := by
  induction pattern with
  | blank => exact List.forall_mem_nil _
  | one set =>
      rw [partials]
      split
      · exact List.forall_mem_singleton.mpr trivial
      · exact List.forall_mem_nil _
  | both first second ofFirst ofSecond =>
      rw [partials, List.forall_mem_append, List.forall_mem_map]
      refine ⟨fun rest held => ordered_followedBy (ofFirst ordered.1 rest held) ordered.2, ?_⟩
      split
      · exact ofSecond ordered.2
      · exact List.forall_mem_nil _
  | either first second ofFirst ofSecond =>
      exact List.forall_mem_append.mpr ⟨ofFirst ordered.1, ofSecond ordered.2⟩
  | repeated body least most ofBody =>
      rw [partials]
      split
      · exact List.forall_mem_nil _
      · refine List.forall_mem_map.mpr fun rest held =>
          ordered_followedBy (ofBody ordered.1 rest held) ⟨ordered.1, ?_⟩
        intro bound inMost
        obtain ⟨larger, held, rfl⟩ := Option.map_eq_some_iff.mp inMost
        exact Nat.sub_le_sub_right (ordered.2 larger held) 1

/-- The first part that is not empty begins a text that is not. -/
theorem exists_part_of_flatten {parts : List Text} (flat : point :: points = parts.flatten) :
    ∃ empties front others, parts = empties ++ (point :: front) :: others ∧
      (∀ part ∈ empties, part = []) ∧ points = front ++ others.flatten := by
  induction parts with
  | nil => cases flat
  | cons part parts inductionHypothesis =>
      cases part with
      | nil =>
          obtain ⟨empties, front, others, rfl, empty, rest⟩ := inductionHypothesis flat
          exact ⟨[] :: empties, front, others, rfl, List.forall_mem_cons.mpr ⟨rfl, empty⟩, rest⟩
      | cons head front =>
          obtain ⟨rfl, rfl⟩ := List.cons.inj flat
          exact ⟨[], front, parts, rfl, List.forall_mem_nil _, rfl⟩

/-- Behind a code point a repetition goes on with the rest of one part and with fewer parts. -/
theorem spells_repeated_cons :
    (repeated body least most).Spells alphabet (point :: points) ↔
      most ≠ some 0 ∧ ∃ front back, points = front ++ back ∧
        body.Spells alphabet (point :: front) ∧
        (repeated body (least - 1) (most.map fun most => most - 1)).Spells alphabet back := by
  constructor
  · rintro ⟨parts, flat, enough, limited, each⟩
    obtain ⟨empties, front, others, rfl, empty, rfl⟩ := exists_part_of_flatten flat
    have counted : (empties ++ (point :: front) :: others).length =
        (others ++ empties).length + 1 := by
      simp only [List.length_append, List.length_cons]
      omega
    rw [counted] at enough limited
    refine ⟨?_, front, others.flatten, rfl, each _ (by simp), others ++ empties, ?_, by omega, ?_,
      ?_⟩
    · rintro rfl
      exact absurd (limited 0 rfl) (Nat.not_succ_le_zero _)
    · rw [List.flatten_append, List.flatten_eq_nil_iff.mpr empty, List.append_nil]
    · intro bound held
      obtain ⟨larger, inMost, rfl⟩ := Option.map_eq_some_iff.mp held
      exact Nat.le_sub_one_of_lt (limited larger inMost)
    · intro part held
      refine each part ?_
      rcases List.mem_append.mp held with inOthers | inEmpties
      · exact List.mem_append_right _ (List.mem_cons_of_mem _ inOthers)
      · exact List.mem_append_left _ inEmpties
  · rintro ⟨present, front, back, rfl, inBody, parts, rfl, enough, limited, each⟩
    refine ⟨(point :: front) :: parts, rfl, Nat.le_add_of_sub_le enough, fun bound held => ?_,
      List.forall_mem_cons.mpr ⟨inBody, each⟩⟩
    have smaller := limited (bound - 1) (Option.map_eq_some_iff.mpr ⟨bound, held, rfl⟩)
    have positive : bound ≠ 0 := by
      rintro rfl
      exact present held
    rw [List.length_cons]
    omega

/-- One of the patterns describes the text. -/
def SomeSpells (alphabet : Alphabet) (patterns : List Pattern) (points : Text) : Prop :=
  ∃ pattern ∈ patterns, pattern.Spells alphabet points

section

variable {patterns others : List Pattern}

theorem someSpells_nil : ¬ SomeSpells alphabet [] points := by
  simp [SomeSpells]

theorem someSpells_singleton :
    SomeSpells alphabet [pattern] points ↔ pattern.Spells alphabet points := by
  simp [SomeSpells]

theorem someSpells_append : SomeSpells alphabet (patterns ++ others) points ↔
    SomeSpells alphabet patterns points ∨ SomeSpells alphabet others points := by
  simp [SomeSpells, or_and_right, exists_or]

/-- Going on with the same pattern behind each. -/
theorem someSpells_map_followedBy :
    SomeSpells alphabet (patterns.map (followedBy second)) points ↔
      ∃ front back, points = front ++ back ∧ SomeSpells alphabet patterns front ∧
        second.Spells alphabet back := by
  constructor
  · rintro ⟨_, held, spells⟩
    obtain ⟨rest, inPatterns, rfl⟩ := List.mem_map.mp held
    obtain ⟨front, back, split, inRest, behind⟩ := spells_followedBy.mp spells
    exact ⟨front, back, split, ⟨rest, inPatterns, inRest⟩, behind⟩
  · rintro ⟨front, back, split, ⟨rest, inPatterns, inRest⟩, behind⟩
    exact ⟨_, List.mem_map_of_mem inPatterns,
      spells_followedBy.mpr ⟨front, back, split, inRest, behind⟩⟩

end

/-- The partial derivatives describe together what may follow a code point. -/
theorem someSpells_partials (ordered : pattern.Ordered) (points : Text) :
    SomeSpells alphabet (pattern.partials alphabet point) points ↔
      pattern.Spells alphabet (point :: points) := by
  induction pattern generalizing points with
  | blank => simp [partials, someSpells_nil, Spells]
  | one set =>
      by_cases has : set.has alphabet point
      · simp [partials, someSpells_singleton, Spells, has]
      · simp [partials, someSpells_nil, Spells, has]
  | both first second ofFirst ofSecond =>
      -- The first text takes the code point, or it is empty and the second one does.
      have behind : SomeSpells alphabet
          (if first.nullable then second.partials alphabet point else []) points ↔
          first.Spells alphabet [] ∧ second.Spells alphabet (point :: points) := by
        rw [← nullable_iff ordered.1, ← ofSecond ordered.2]
        by_cases empty : first.nullable
        · simp [empty]
        · simp [empty, someSpells_nil]
      rw [partials, someSpells_append, someSpells_map_followedBy, behind]
      simp only [ofFirst ordered.1]
      constructor
      · rintro (⟨front, back, rfl, inFirst, inSecond⟩ | ⟨inFirst, inSecond⟩)
        · exact ⟨point :: front, back, rfl, inFirst, inSecond⟩
        · exact ⟨[], point :: points, rfl, inFirst, inSecond⟩
      · rintro ⟨front, back, split, inFirst, inSecond⟩
        rcases List.cons_eq_append_iff.mp split with ⟨rfl, rfl⟩ | ⟨others, rfl, rfl⟩
        · exact .inr ⟨inFirst, inSecond⟩
        · exact .inl ⟨others, back, rfl, inFirst, inSecond⟩
  | either first second ofFirst ofSecond =>
      rw [partials, someSpells_append, ofFirst ordered.1, ofSecond ordered.2]
      rfl
  | repeated body least most ofBody =>
      rw [spells_repeated_cons, partials]
      split
      · next none => simp [none, someSpells_nil]
      · next present =>
          rw [someSpells_map_followedBy, and_iff_right present]
          simp only [ofBody ordered.1]

/-! ## Whole texts -/

/-- Behind a code point the bounds stay in order. -/
theorem ordered_step {patterns : List Pattern} (ordered : ∀ each ∈ patterns, each.Ordered) :
    ∀ rest ∈ step alphabet patterns point, rest.Ordered := by
  intro rest held
  rw [step, List.mem_eraseDups, List.mem_flatMap] at held
  obtain ⟨each, inPatterns, inPartials⟩ := held
  exact ordered_partials (ordered each inPatterns) rest inPartials

/-- What patterns describe together behind a code point. -/
theorem someSpells_step {patterns : List Pattern} (ordered : ∀ each ∈ patterns, each.Ordered)
    (points : Text) :
    SomeSpells alphabet (step alphabet patterns point) points ↔
      SomeSpells alphabet patterns (point :: points) := by
  simp only [SomeSpells, step, List.mem_eraseDups, List.mem_flatMap]
  constructor
  · rintro ⟨rest, ⟨each, held, inPartials⟩, spells⟩
    have begun := (someSpells_partials (ordered each held) points).mp ⟨rest, inPartials, spells⟩
    exact ⟨each, held, begun⟩
  · rintro ⟨each, held, spells⟩
    obtain ⟨rest, inPartials, further⟩ :=
      (someSpells_partials (ordered each held) points).mpr spells
    exact ⟨rest, ⟨each, held, inPartials⟩, further⟩

/-- One of the patterns that are left behind a text is nullable exactly if one of those in front of
it describes the text. -/
theorem any_nullable_foldl {patterns : List Pattern} (ordered : ∀ each ∈ patterns, each.Ordered)
    (points : Text) :
    (points.foldl (step alphabet) patterns).any nullable ↔
      SomeSpells alphabet patterns points := by
  induction points generalizing patterns with
  | nil =>
      rw [List.foldl_nil, List.any_eq_true]
      exact exists_congr fun each => and_congr_right fun held => nullable_iff (ordered each held)
  | cons point points inductionHypothesis =>
      rw [List.foldl_cons, inductionHypothesis (ordered_step ordered), someSpells_step ordered]

/-- A pattern whose bounds are in order accepts exactly the texts that it describes. -/
theorem accepts_iff (ordered : pattern.Ordered) :
    pattern.accepts alphabet points ↔ pattern.Spells alphabet points :=
  (any_nullable_foldl (List.forall_mem_singleton.mpr ordered) points).trans someSpells_singleton

end Pattern

/-! ## Tokens -/

/-- One token that a plain predicate accepts. -/
theorem Rule.reply_satisfying {ν : Type} {laps : Nat} {resolve : ν → Behaviour} {state : State}
    (holds : Value → Bool) :
    ((satisfying holds : Rule ν).evaluate laps resolve state).reply =
      if state.atEnd then .declined
      else match state.current with
        | .error reason => .raised reason
        | .ok token => if holds token then .matched token (state.forward 1) else .declined := by
  show (Behaviour.term _ state).reply = _
  unfold Behaviour.term
  split
  · rfl
  · cases state.current with
    | error reason => rfl
    | ok token =>
        have passes : ((Call.pure (holds token)).run .test state).reply =
            .matched (holds token) state := rfl
        dsimp only
        rw [Run.andThen, Run.branch_of_matched passes]
        split
        · rfl
        · rfl

/-- A rule that matches a pattern takes one text token that the pattern describes, and no other. -/
theorem Rule.matching_matched_iff {ν : Type} {laps : Nat} {resolve : ν → Behaviour}
    {alphabet : Alphabet} {pattern : Pattern} (ordered : pattern.Ordered) {state final : State}
    {product : Value} :
    ((matching alphabet pattern : Rule ν).evaluate laps resolve state).reply =
        .matched product final ↔
      state.atEnd = false ∧ ∃ points, state.current = .ok (.str points) ∧
        pattern.Spells alphabet points ∧ product = .str points ∧ final = state.forward 1 := by
  rw [matching, reply_satisfying]
  cases state.atEnd with
  | true => simp
  | false =>
      cases state.current with
      | error reason => simp
      | ok token =>
          cases token with
          | str points =>
              rw [if_neg Bool.false_ne_true]
              dsimp only
              constructor
              · intro taken
                split at taken
                · next accepted =>
                    obtain ⟨rfl, rfl⟩ := Reply.matched.inj taken
                    exact ⟨rfl, points, rfl, (Pattern.accepts_iff ordered).mp accepted, rfl, rfl⟩
                · cases taken
              · rintro ⟨-, _, ⟨⟩, spells, rfl, rfl⟩
                rw [if_pos ((Pattern.accepts_iff ordered).mpr spells)]
          | _ => simp

end Descent
