import Mathlib.Data.List.Sort
import Descent.Proofs.Lossless

/-!
# Flattening lists the leaves

A place inside a value says which item of which container to take, from the outside in. The leaves
of a value stand at places, and the order of places is the order of reading: a place comes before
another if it takes the earlier item where the two part.

`Value.Frontier` says what it is to list the leaves in that order, without a recursion on the value.
Flattening is that list without the places, so how the items of a value are grouped does not show.
-/

namespace Descent.Value

/-! ## Containers -/

/-- The items of a container. -/
def items? : Value → Option (List Value)
  | tuple items | list items => some items
  | _ => Option.none

/-- A leaf has no items. -/
theorem IsLeaf.items? {value : Value} (leaf : value.IsLeaf) : value.items? = Option.none := by
  cases value with
  | none | tuple items | list items => exact absurd leaf id
  | bool | int | float | str | mapping | record => rfl

/-- Items are flattened one by one. -/
theorem flattenAll_eq_flatMap (items : List Value) : flattenAll items = items.flatMap flatten := by
  induction items with
  | nil => rfl
  | cons item rest inductionHypothesis => rw [flattenAll, inductionHypothesis, List.flatMap_cons]

/-- Flattening a container is flattening its items, in order. -/
theorem flatten_of_items {value : Value} {items : List Value} (held : value.items? = some items) :
    value.flatten = items.flatMap flatten := by
  cases value with
  | tuple own | list own =>
      cases held
      rw [flatten, flattenAll_eq_flatMap]
  | none | bool | int | float | str | mapping | record => cases held

mutual

/-- What holds of nothing, of every leaf, and of a container as soon as it holds of its items, holds
of every value. -/
@[elab_as_elim]
theorem treeInduction {motive : Value → Prop} (absent : motive none)
    (leaf : ∀ value, value.IsLeaf → motive value)
    (container : ∀ value items, value.items? = some items → (∀ item ∈ items, motive item) →
      motive value) : ∀ value, motive value
  | none => absent
  | tuple items => container _ items rfl (forall_treeInduction absent leaf container items)
  | list items => container _ items rfl (forall_treeInduction absent leaf container items)
  | bool value => leaf (bool value) trivial
  | int value => leaf (int value) trivial
  | float value => leaf (float value) trivial
  | str points => leaf (str points) trivial
  | mapping entries => leaf (mapping entries) trivial
  | record kind fields => leaf (record kind fields) trivial

/-- The same, of every one of several values. -/
theorem forall_treeInduction {motive : Value → Prop} (absent : motive none)
    (leaf : ∀ value, value.IsLeaf → motive value)
    (container : ∀ value items, value.items? = some items → (∀ item ∈ items, motive item) →
      motive value) : ∀ values : List Value, ∀ value ∈ values, motive value
  | [] => nofun
  | first :: rest => List.forall_mem_cons.mpr
      ⟨treeInduction absent leaf container first, forall_treeInduction absent leaf container rest⟩

end

/-! ## Places -/

/-- What stands at a place: each index takes an item of a container. -/
def at? : Value → List Nat → Option Value
  | value, [] => some value
  | value, index :: place => do
    let items ← value.items?
    let item ← items[index]?
    item.at? place

/-- An address leads into one of the items … -/
theorem at?_cons_eq_some_iff {value leaf : Value} {items : List Value}
    (held : value.items? = some items) (index : Nat) (place : List Nat) :
    value.at? (index :: place) = some leaf ↔
      ∃ item, items[index]? = some item ∧ item.at? place = some leaf := by
  rw [at?, held]
  show (items[index]?.bind fun item => item.at? place) = some leaf ↔ _
  exact Option.bind_eq_some_iff

/-- … and nowhere where there are none. -/
theorem at?_cons_of_none {value : Value} (held : value.items? = Option.none) (index : Nat)
    (place : List Nat) : value.at? (index :: place) = Option.none := by
  rw [at?, held]
  rfl

/-- All the leaves of a value, each with its place, from left to right. -/
structure Frontier (value : Value) (placed : List (List Nat × Value)) : Prop where
  ordered : placed.Pairwise fun earlier later => earlier.1 < later.1
  complete : ∀ place leaf, (place, leaf) ∈ placed ↔ value.at? place = some leaf ∧ leaf.IsLeaf

/-- All the leaves of items that are numbered from an index on, each with its place, from left to
right. -/
structure FrontierFrom (index : Nat) (items : List Value) (placed : List (List Nat × Value)) :
    Prop where
  ordered : placed.Pairwise fun earlier later => earlier.1 < later.1
  complete : ∀ place leaf, (place, leaf) ∈ placed ↔ ∃ offset inner item,
    place = (index + offset) :: inner ∧ items[offset]? = some item ∧
      item.at? inner = some leaf ∧ leaf.IsLeaf

/-- There is one way only to list the leaves. -/
theorem Frontier.unique {value : Value} {placed other : List (List Nat × Value)}
    (frontier : value.Frontier placed) (another : value.Frontier other) : placed = other := by
  have : Std.Irrefl fun earlier later : List Nat × Value => earlier.1 < later.1 :=
    ⟨fun leaf => List.lt_irrefl leaf.1⟩
  have : Std.Antisymm fun earlier later : List Nat × Value => earlier.1 < later.1 :=
    ⟨fun _ _ before behind => absurd behind (List.lt_asymm before)⟩
  refine frontier.ordered.eq_of_mem_iff another.ordered fun leaf => ?_
  rw [frontier.complete leaf.1 leaf.2, another.complete leaf.1 leaf.2]

/-- Nothing has no leaves. -/
theorem frontier_none : (none : Value).Frontier [] where
  ordered := .nil
  complete place leaf := by
    refine iff_of_false List.not_mem_nil ?_
    rintro ⟨found, isLeaf⟩
    cases place with
    | nil =>
        cases found
        exact isLeaf
    | cons index place => cases found

/-- A leaf is its own frontier, at the empty address. -/
theorem IsLeaf.frontier {value : Value} (isLeaf : value.IsLeaf) :
    value.Frontier [([], value)] where
  ordered := List.pairwise_singleton _ _
  complete place leaf := by
    rw [List.mem_singleton, Prod.mk.injEq]
    cases place with
    | nil =>
        constructor
        · rintro ⟨-, rfl⟩
          exact ⟨rfl, isLeaf⟩
        · rintro ⟨found, -⟩
          cases found
          exact ⟨rfl, rfl⟩
    | cons index place => simp [at?_cons_of_none isLeaf.items?]

/-- No items, no leaves. -/
theorem FrontierFrom.nil (index : Nat) : FrontierFrom index [] [] where
  ordered := .nil
  complete place leaf := by simp

/-- The leaves of one item more: they stand in front, at the index of the item. -/
theorem FrontierFrom.cons {index : Nat} {item : Value} {rest : List Value}
    {first others : List (List Nat × Value)} (frontier : item.Frontier first)
    (further : FrontierFrom (index + 1) rest others) :
    FrontierFrom index (item :: rest)
      (first.map (fun leaf => (index :: leaf.1, leaf.2)) ++ others) where
  ordered := by
    refine List.pairwise_append.mpr ⟨?_, further.ordered, ?_⟩
    · refine List.pairwise_map.mpr (frontier.ordered.imp ?_)
      intro earlier later before
      exact List.cons_lt_cons_iff.mpr (.inr ⟨rfl, before⟩)
    · intro earlier inFirst later inOthers
      obtain ⟨leaf, -, rfl⟩ := List.mem_map.mp inFirst
      obtain ⟨offset, inner, -, place, -⟩ := (further.complete later.1 later.2).mp inOthers
      rw [place]
      exact List.cons_lt_cons_iff.mpr (.inl (by omega))
  complete place leaf := by
    rw [List.mem_append, further.complete, List.mem_map]
    constructor
    · rintro (⟨⟨inner, _⟩, member, same⟩ | ⟨offset, inner, held, rfl, found, stands⟩)
      · cases same
        exact ⟨0, inner, item, rfl, rfl, (frontier.complete inner _).mp member⟩
      · exact ⟨offset + 1, inner, held, by rw [Nat.add_assoc, Nat.add_comm 1], found, stands⟩
    · rintro ⟨offset, inner, held, rfl, found, stands⟩
      cases offset with
      | zero =>
          cases found
          exact .inl ⟨(inner, leaf), (frontier.complete inner leaf).mpr stands, rfl⟩
      | succ offset =>
          exact .inr ⟨offset, inner, held, by rw [Nat.add_assoc, Nat.add_comm 1], found, stands⟩

/-- The leaves of a container are those of its items. -/
theorem FrontierFrom.frontier {value : Value} {items : List Value}
    {placed : List (List Nat × Value)} (frontier : FrontierFrom 0 items placed)
    (held : value.items? = some items) : value.Frontier placed where
  ordered := frontier.ordered
  complete place leaf := by
    rw [frontier.complete]
    cases place with
    | nil =>
        refine iff_of_false (by simp) ?_
        rintro ⟨found, isLeaf⟩
        cases found
        cases held.symm.trans isLeaf.items?
    | cons index place =>
        rw [at?_cons_eq_some_iff held]
        constructor
        · rintro ⟨offset, inner, item, same, found, stands, isLeaf⟩
          cases same
          rw [Nat.zero_add]
          exact ⟨⟨item, found, stands⟩, isLeaf⟩
        · rintro ⟨⟨item, found, stands⟩, isLeaf⟩
          exact ⟨index, place, item, by rw [Nat.zero_add], found, stands, isLeaf⟩

/-- The leaves of items whose own leaves can be listed. -/
theorem exists_frontierFrom (items : List Value) (index : Nat)
    (each : ∀ item ∈ items, ∃ placed, item.Frontier placed ∧ placed.map Prod.snd = item.flatten) :
    ∃ placed, FrontierFrom index items placed ∧ placed.map Prod.snd = items.flatMap flatten := by
  induction items generalizing index with
  | nil => exact ⟨[], .nil index, rfl⟩
  | cons item rest inductionHypothesis =>
      obtain ⟨⟨first, frontier, flat⟩, others⟩ := List.forall_mem_cons.mp each
      obtain ⟨further, frontiers, flats⟩ := inductionHypothesis (index + 1) others
      refine ⟨_, .cons frontier frontiers, ?_⟩
      rw [List.map_append, List.map_map, flats, List.flatMap_cons, ← flat]
      rfl

/-- The leaves of a value can be listed, and flattening lists them. -/
theorem exists_frontier (value : Value) :
    ∃ placed, value.Frontier placed ∧ placed.map Prod.snd = value.flatten := by
  induction value using treeInduction with
  | absent => exact ⟨[], frontier_none, rfl⟩
  | leaf value isLeaf => exact ⟨_, isLeaf.frontier, isLeaf.flatten.symm⟩
  | container value items held inductionHypothesis =>
      obtain ⟨placed, frontier, flat⟩ := exists_frontierFrom items 0 inductionHypothesis
      exact ⟨placed, frontier.frontier held, flat.trans (flatten_of_items held).symm⟩

/-! ## Flattening -/

/-- Flattening a value leaves its leaves, and no container or absence among them. -/
theorem isLeaf_of_mem_flatten {value leaf : Value} (member : leaf ∈ value.flatten) :
    leaf.IsLeaf := by
  obtain ⟨placed, frontier, flat⟩ := exists_frontier value
  rw [← flat] at member
  obtain ⟨⟨place, leaf⟩, listed, rfl⟩ := List.mem_map.mp member
  exact ((frontier.complete place leaf).mp listed).2

/-- Flattening leaves is nothing. -/
theorem flatMap_flatten_of_leaves {leaves : List Value} (each : ∀ leaf ∈ leaves, leaf.IsLeaf) :
    leaves.flatMap flatten = leaves := by
  calc leaves.flatMap flatten
    _ = leaves.flatMap ([·]) := List.flatMap_congr fun leaf member => (each leaf member).flatten
    _ = leaves := List.flatMap_singleton' leaves

/-- Flattening a value lists its leaves from left to right: there is one way to list them with their
places in order, and flattening is that list without the places. What is flat stays as it is, and
two containers may be flattened one by one, as a pair, or with their items put together. -/
theorem flatten_lists_leaves (value : Value) :
    (∃! placed, value.Frontier placed) ∧
      (∀ placed, value.Frontier placed → value.flatten = placed.map Prod.snd) ∧
      (∀ leaf ∈ value.flatten, leaf.IsLeaf) ∧
      (∀ flat : Value, flat.items? = some value.flatten → flat.flatten = value.flatten) ∧
      ∀ (first second pair whole : Value) (firstItems secondItems : List Value),
        first.items? = some firstItems → second.items? = some secondItems →
        pair.items? = some [first, second] → whole.items? = some (firstItems ++ secondItems) →
        whole.flatten = first.flatten ++ second.flatten ∧
          pair.flatten = first.flatten ++ second.flatten := by
  obtain ⟨placed, frontier, flat⟩ := exists_frontier value
  refine ⟨⟨placed, frontier, fun other another => another.unique frontier⟩, ?_, ?_, ?_, ?_⟩
  · intro other another
    rw [another.unique frontier, flat]
  · exact fun leaf => isLeaf_of_mem_flatten
  · intro flat held
    rw [flatten_of_items held, flatMap_flatten_of_leaves fun leaf => isLeaf_of_mem_flatten]
  · intro first second pair whole firstItems secondItems heldFirst heldSecond heldPair heldWhole
    constructor
    · rw [flatten_of_items heldWhole, flatten_of_items heldFirst, flatten_of_items heldSecond,
        List.flatMap_append]
    · rw [flatten_of_items heldPair, List.flatMap_cons, List.flatMap_cons, List.flatMap_nil,
        List.append_nil]

/-- The parts of a number literal with a sign, digits and a fraction, as the tuples and lists that a
rule makes of them, without a part that is absent. -/
theorem flatten_lists_leaves_literal :
    let sign : Value := .str (text "-")
    let digits : Value := .tuple [.str (text "1"), .str (text "2")]
    let fraction : Value := .tuple [.str (text "."), .list [.str (text "5")]]
    let first : Value := .tuple [sign, digits]
    let second : Value := .tuple [.none, fraction]
    let whole : Value := .tuple [sign, digits, .none, fraction]
    whole.flatten = [sign, .str (text "1"), .str (text "2"), .str (text "."), .str (text "5")] ∧
      whole.flatten = first.flatten ++ second.flatten ∧
      (Value.list [first, second]).flatten = first.flatten ++ second.flatten ∧
      (Value.tuple whole.flatten).flatten = whole.flatten := by
  intro sign digits fraction first second whole
  obtain ⟨-, -, -, flat, grouped⟩ := flatten_lists_leaves whole
  obtain ⟨apart, paired⟩ := grouped first second (.list [first, second]) whole _ _ rfl rfl rfl rfl
  exact ⟨rfl, apart, paired, flat _ rfl⟩

end Descent.Value
