import Mathlib.Data.List.Induction
import Mathlib.Data.List.Nodup
import Descent.Value.Field

/-!
# Entries with texts as keys

The mapping that a list of pairs spells has each key once, in the place where the key is first and
with the value that it has last. `lastWins` says this without insertions, for entries that hold
anything; where every key is a text, `Entries.ofPairs` comes to the same.
-/

namespace Descent

namespace Entries

variable {α β : Type}

/-! ## Each key once -/

section Keys

variable {κ : Type} [BEq κ] [LawfulBEq κ]

/-- A further key is new, or it stands among the keys already. -/
theorem eraseDups_concat (keys : List κ) (key : κ) :
    (keys ++ [key]).eraseDups =
      if key ∈ keys then keys.eraseDups else keys.eraseDups ++ [key] := by
  rw [List.eraseDups_append]
  split
  · next known => simp [List.removeAll, known]
  · next fresh => simp [List.removeAll, fresh, List.eraseDups_cons]

/-- No key is left twice. -/
theorem nodup_eraseDups (keys : List κ) : keys.eraseDups.Nodup := by
  induction keys using List.reverseRecOn with
  | nil => exact List.nodup_nil
  | append_singleton earlier key inductionHypothesis =>
      rw [eraseDups_concat]
      split
      · exact inductionHypothesis
      · next fresh =>
          refine List.nodup_append.mpr ⟨inductionHypothesis, List.nodup_singleton key, ?_⟩
          intro other held last member same
          rw [same, List.mem_singleton.mp member] at held
          exact fresh (List.mem_eraseDups.mp held)

end Keys

/-- What is left of entries if each key is left once, where it is first, and with its last entry. -/
structure KeepsLast (entries kept : List (Text × α)) : Prop where
  /-- The keys, each in the place where it is first. -/
  keys : kept.map Prod.fst = (entries.map Prod.fst).eraseDups
  /-- No entry behind the one that is kept has its key. -/
  last : ∀ entry ∈ kept, ∃ earlier later,
    entries = earlier ++ entry :: later ∧ entry.1 ∉ later.map Prod.fst

/-- The entries with each key once: where it is first, with what it holds last. -/
def lastWins (entries : List (Text × α)) : List (Text × α) :=
  (entries.map Prod.fst).eraseDups.filterMap fun key =>
    (entries.reverse.lookup key).map (key, ·)

/-- A key that occurs has a last value. -/
theorem lookup_reverse_isSome {entries : List (Text × α)} {key : Text}
    (known : key ∈ entries.map Prod.fst) : (entries.reverse.lookup key).isSome = true := by
  obtain ⟨entry, member, rfl⟩ := List.mem_map.mp known
  exact List.lookup_isSome_iff.mpr ⟨entry, List.mem_reverse.mpr member, beq_self_eq_true entry.1⟩

/-- Entries where the last one wins keep each key where it first stood. -/
theorem keepsLast_lastWins (entries : List (Text × α)) : KeepsLast entries (lastWins entries) where
  keys := by
    rw [lastWins, List.map_filterMap]
    calc (entries.map Prod.fst).eraseDups.filterMap
          (fun key => ((entries.reverse.lookup key).map (key, ·)).map Prod.fst)
      _ = (entries.map Prod.fst).eraseDups.filterMap some := by
        apply List.filterMap_congr
        intro key member
        obtain ⟨value, found⟩ := Option.isSome_iff_exists.mp
          (lookup_reverse_isSome (List.mem_eraseDups.mp member))
        rw [found]
        rfl
      _ = (entries.map Prod.fst).eraseDups := List.filterMap_some
  last := by
    rintro ⟨key, value⟩ member
    obtain ⟨other, -, found⟩ := List.mem_filterMap.mp member
    obtain ⟨held, lookup, same⟩ := Option.map_eq_some_iff.mp found
    cases same
    obtain ⟨later, earlier, split, apart⟩ := List.lookup_eq_some_iff.mp lookup
    refine ⟨earlier.reverse, later.reverse, ?_, ?_⟩
    · rw [← List.reverse_reverse entries, split, List.reverse_append, List.reverse_cons,
        List.append_assoc, List.singleton_append]
    · intro known
      obtain ⟨entry, held, same⟩ := List.mem_map.mp known
      have differs := apart entry (List.mem_reverse.mp held)
      simp [same] at differs

/-- Every entry that is left is one of the entries. -/
theorem mem_of_mem_lastWins {entries : List (Text × α)} {entry : Text × α}
    (member : entry ∈ lastWins entries) : entry ∈ entries := by
  obtain ⟨earlier, later, split, -⟩ := (keepsLast_lastWins entries).last entry member
  rw [split]
  exact List.mem_append_right earlier List.mem_cons_self

/-! ## One entry more -/

/-- The entries with `value` under `key`: in the place of the key, or at the end. -/
def put (key : Text) (value : α) (entries : List (Text × α)) : List (Text × α) :=
  if key ∈ entries.map Prod.fst then
    entries.map fun entry => if entry.1 = key then (key, value) else entry
  else entries ++ [(key, value)]

/-- One more entry at the end wins over those before it. -/
theorem lastWins_concat (entries : List (Text × α)) (key : Text) (value : α) :
    lastWins (entries ++ [(key, value)]) = put key value (lastWins entries) := by
  have lookup (other : Text) : (entries ++ [(key, value)]).reverse.lookup other =
      if other = key then some value else entries.reverse.lookup other := by
    rw [List.reverse_append, List.reverse_singleton, List.singleton_append, List.lookup_cons]
    split
    · next same => simp [beq_iff_eq.mp same]
    · next differs => rw [if_neg (beq_eq_false_iff_ne.mp differs)]
  have known : key ∈ (lastWins entries).map Prod.fst ↔ key ∈ entries.map Prod.fst := by
    rw [(keepsLast_lastWins entries).keys, List.mem_eraseDups]
  rw [put, lastWins, List.map_append, List.map_singleton, eraseDups_concat]
  simp only [known, lookup]
  split
  · next held =>
      rw [lastWins, List.map_filterMap]
      apply List.filterMap_congr
      intro other member
      obtain ⟨old, found⟩ := Option.isSome_iff_exists.mp
        (lookup_reverse_isSome (List.mem_eraseDups.mp member))
      rw [found]
      by_cases same : other = key <;> simp [same]
  · next fresh =>
      rw [List.filterMap_append]
      refine congrArg₂ (· ++ ·) (List.filterMap_congr ?_) (by simp)
      intro other member
      have differs : other ≠ key := by
        rintro rfl
        exact fresh (List.mem_eraseDups.mp member)
      rw [if_neg differs]

/-- Entries with distinct keys are all left. -/
theorem lastWins_of_nodup {entries : List (Text × α)} (distinct : (entries.map Prod.fst).Nodup) :
    lastWins entries = entries := by
  induction entries using List.reverseRecOn with
  | nil => rfl
  | append_singleton earlier entry inductionHypothesis =>
      rw [List.map_append, List.map_singleton] at distinct
      obtain ⟨earlierDistinct, -, apart⟩ := List.nodup_append.mp distinct
      have fresh : entry.1 ∉ earlier.map Prod.fst := fun known =>
        apart entry.1 known entry.1 List.mem_cons_self rfl
      rw [lastWins_concat, inductionHypothesis earlierDistinct, put, if_neg fresh]

/-- What the entries hold may be changed before or after. -/
theorem lastWins_map (change : α → β) (entries : List (Text × α)) :
    lastWins (entries.map fun entry => (entry.1, change entry.2)) =
      (lastWins entries).map fun entry => (entry.1, change entry.2) := by
  induction entries using List.reverseRecOn with
  | nil => rfl
  | append_singleton earlier entry inductionHypothesis =>
      rw [List.map_append, List.map_singleton, lastWins_concat, lastWins_concat,
        inductionHypothesis, put, put, List.map_map]
      simp only [Function.comp_def]
      split
      · rw [List.map_map, List.map_map]
        refine List.map_congr_left fun other member => ?_
        by_cases same : other.1 = entry.1 <;> simp [same]
      · rw [List.map_append, List.map_singleton]

/-! ## Mappings -/

/-- An entry of a mapping whose key is a text. -/
def textual (entry : Text × Value) : Value × Value := (.str entry.1, entry.2)

/-- Where every key is a text, inserting is putting. -/
theorem insert_textual {entries : List (Text × Value)} (distinct : (entries.map Prod.fst).Nodup)
    (key : Text) (value : Value) :
    insert (.str key) value (entries.map textual) = (put key value entries).map textual := by
  induction entries with
  | nil => rfl
  | cons entry rest inductionHypothesis =>
      rw [List.map_cons, List.nodup_cons] at distinct
      obtain ⟨apart, restDistinct⟩ := distinct
      have later := inductionHypothesis restDistinct
      by_cases same : entry.1 = key
      · have kept : rest.map (fun other => if other.1 = key then (key, value) else other) =
            rest.map id := by
          refine List.map_congr_left fun other member => if_neg fun again => apart ?_
          rw [same, ← again]
          exact List.mem_map_of_mem member
        simp [put, insert, textual, Value.same, same, kept]
      · simp only [List.map_cons, textual, insert, Value.same, beq_eq_false_iff_ne.mpr same,
          Bool.false_eq_true, if_false, later]
        simp only [put, List.map_cons, List.mem_cons, Ne.symm same, false_or, same, if_false]
        split <;> simp [textual]

/-- Pairs whose keys are texts spell the mapping in which the last pair of a key wins. -/
theorem ofPairs_textual (pairs : List (Text × Value)) :
    ofPairs (pairs.map textual) = (lastWins pairs).map textual := by
  induction pairs using List.reverseRecOn with
  | nil => rfl
  | append_singleton earlier pair inductionHypothesis =>
      have distinct : ((lastWins earlier).map Prod.fst).Nodup := by
        rw [(keepsLast_lastWins earlier).keys]
        exact nodup_eraseDups _
      rw [ofPairs] at inductionHypothesis
      rw [ofPairs, List.map_append, List.foldl_append, inductionHypothesis, lastWins_concat]
      exact insert_textual distinct pair.1 pair.2

/-- Pairs with distinct texts as keys spell themselves. -/
theorem ofPairs_of_nodup {pairs : List (Text × Value)} (distinct : (pairs.map Prod.fst).Nodup) :
    ofPairs (pairs.map textual) = pairs.map textual := by
  rw [ofPairs_textual, lastWins_of_nodup distinct]

end Entries

end Descent
