import Descent.Document.Node
import Descent.Proofs.Entries

/-!
# Nodes and their plain values

A plain value has lost one thing only: the entries of an object whose key comes again behind them.
`Node.merged` is the node without these entries, at every depth, and it is what reading the plain
value back returns. So a node comes back as it was exactly if no object in it repeats a key.

An entry that is overwritten takes its whole node with it, and leaves its place to the last entry of
the key. It does not matter whether the nodes below are merged before or after.
-/

namespace Descent

/-- Whether the value is what a scalar of a document holds. -/
def Value.isScalar : Value → Bool
  | .none | .bool _ | .int _ | .float _ | .str _ => true
  | .tuple _ | .list _ | .mapping _ | .record _ _ => false

namespace Node

/-! ## Trees -/

/-- What holds of a container if it holds of the nodes in it, and of every scalar, holds of every
node. -/
@[elab_as_elim, induction_eliminator]
theorem induction {motive : Node → Prop} (scalar : ∀ value, motive (.scalar value))
    (array : ∀ items, (∀ item ∈ items, motive item) → motive (.array items))
    (object : ∀ entries, (∀ entry ∈ entries, motive entry.2) → motive (.object entries))
    (node : Node) : motive node :=
  @Node.rec motive (fun items => ∀ item ∈ items, motive item)
    (fun entries => ∀ entry ∈ entries, motive entry.2) (fun entry => motive entry.2)
    scalar array object
    (List.forall_mem_nil _) (fun _ _ first rest => List.forall_mem_cons.mpr ⟨first, rest⟩)
    (List.forall_mem_nil _) (fun _ _ first rest => List.forall_mem_cons.mpr ⟨first, rest⟩)
    (fun _ _ held => held) node

/-- The node is the other one, or is somewhere in it. -/
inductive Within (part : Node) : Node → Prop where
  | refl : Within part part
  | item {items : List Node} {item : Node} (member : item ∈ items) (deeper : Within part item) :
      Within part (.array items)
  | entry {entries : List (Text × Node)} {entry : Text × Node} (member : entry ∈ entries)
      (deeper : Within part entry.2) : Within part (.object entries)

/-- Nothing is inside of a scalar. -/
theorem within_scalar {part : Node} {value : Value} :
    part.Within (scalar value) ↔ part = scalar value := by
  constructor
  · rintro ⟨⟩
    rfl
  · rintro rfl
    exact .refl

/-- What is inside of an array is inside of one of its items … -/
theorem within_array {part : Node} {items : List Node} :
    part.Within (array items) ↔ part = array items ∨ ∃ item ∈ items, part.Within item := by
  constructor
  · rintro (_ | ⟨member, deeper⟩)
    · exact .inl rfl
    · exact .inr ⟨_, member, deeper⟩
  · rintro (rfl | ⟨item, member, deeper⟩)
    · exact .refl
    · exact .item member deeper

/-- … and what is inside of an object is inside of the value of one of its entries. -/
theorem within_object {part : Node} {entries : List (Text × Node)} :
    part.Within (object entries) ↔
      part = object entries ∨ ∃ entry ∈ entries, part.Within entry.2 := by
  constructor
  · rintro (_ | _ | ⟨member, deeper⟩)
    · exact .inl rfl
    · exact .inr ⟨_, member, deeper⟩
  · rintro (rfl | ⟨entry, member, deeper⟩)
    · exact .refl
    · exact .entry member deeper

/-- Every scalar of the node holds nothing, a truth value, a number or a text. -/
def Plain (node : Node) : Prop :=
  ∀ value, (scalar value).Within node → value.isScalar = true

/-- No object of the node repeats a key. -/
def DistinctKeys (node : Node) : Prop :=
  ∀ entries, (object entries).Within node → (entries.map Prod.fst).Nodup

/-- A scalar is plain if its value is. -/
theorem plain_scalar {value : Value} : (scalar value).Plain ↔ value.isScalar = true := by
  simp only [Plain, within_scalar, scalar.injEq, forall_eq]

/-- An array is plain if its items are … -/
theorem plain_array {items : List Node} :
    (array items).Plain ↔ ∀ item ∈ items, item.Plain := by
  simp only [Plain, within_array, reduceCtorEq, false_or, forall_exists_index, and_imp]
  exact ⟨fun each item member value => each value item member,
    fun each value item member => each item member value⟩

/-- … and an object is plain if the values of its entries are. -/
theorem plain_object {entries : List (Text × Node)} :
    (object entries).Plain ↔ ∀ entry ∈ entries, entry.2.Plain := by
  simp only [Plain, within_object, reduceCtorEq, false_or, forall_exists_index, and_imp]
  exact ⟨fun each entry member value => each value entry member,
    fun each value entry member => each entry member value⟩

/-- A scalar has no keys. -/
theorem distinctKeys_scalar (value : Value) : (scalar value).DistinctKeys := by
  intro entries within
  cases within_scalar.mp within

/-- No object repeats a key in an array if none does in its items … -/
theorem distinctKeys_array {items : List Node} :
    (array items).DistinctKeys ↔ ∀ item ∈ items, item.DistinctKeys := by
  simp only [DistinctKeys, within_array, reduceCtorEq, false_or, forall_exists_index, and_imp]
  exact ⟨fun each item member entries => each entries item member,
    fun each entries item member => each item member entries⟩

/-- … and in an object its own keys have to be distinct as well. -/
theorem distinctKeys_object {entries : List (Text × Node)} :
    (object entries).DistinctKeys ↔
      (entries.map Prod.fst).Nodup ∧ ∀ entry ∈ entries, entry.2.DistinctKeys := by
  simp only [DistinctKeys, within_object, object.injEq, or_imp, forall_and, forall_eq,
    forall_exists_index, and_imp]
  exact and_congr_right fun _ => ⟨fun each entry member others => each others entry member,
    fun each others entry member => each entry member others⟩

/-! ## Merging and reading back -/

mutual

/-- The node in which each object has each key once: where it was first, with the last of its
nodes. -/
def merged : Node → Node
  | scalar value => .scalar value
  | array items => .array (mergedAll items)
  | object entries => .object (Entries.lastWins (mergedEntries entries))

/-- The nodes with the keys of their objects merged. -/
def mergedAll : List Node → List Node
  | [] => []
  | node :: rest => merged node :: mergedAll rest

/-- The entries with the keys of their nodes' objects merged; repeated keys of their own stay. -/
def mergedEntries : List (Text × Node) → List (Text × Node)
  | [] => []
  | (key, node) :: rest => (key, merged node) :: mergedEntries rest

end

mutual

/-- The node that a plain value stands for: an array for a list, an object for a mapping in its
order, and a scalar for every other value. The keys of a mapping are texts. -/
def readBack? : Value → Option Node
  | .list items => (readBackAll? items).map .array
  | .mapping entries => (readBackEntries? entries).map .object
  | value => some (.scalar value)

/-- The nodes that plain values stand for. -/
def readBackAll? : List Value → Option (List Node)
  | [] => some []
  | value :: rest =>
    match readBack? value, readBackAll? rest with
    | some node, some nodes => some (node :: nodes)
    | _, _ => none

/-- The entries that the entries of a mapping stand for. -/
def readBackEntries? : List (Value × Value) → Option (List (Text × Node))
  | [] => some []
  | (.str key, value) :: rest =>
    match readBack? value, readBackEntries? rest with
    | some node, some entries => some ((key, node) :: entries)
    | _, _ => none
  | _ :: _ => none

end

/-! ## Lists of nodes -/

/-- Items are represented one by one. -/
theorem representAll_eq_map (items : List Node) : representAll items = items.map represent := by
  induction items with
  | nil => rfl
  | cons item rest inductionHypothesis => rw [representAll, inductionHypothesis, List.map_cons]

/-- Entries are represented one by one, with their keys as texts. -/
theorem representEntries_eq_map (entries : List (Text × Node)) :
    representEntries entries =
      (entries.map fun entry => (entry.1, entry.2.represent)).map Entries.textual := by
  induction entries with
  | nil => rfl
  | cons entry rest inductionHypothesis =>
      rw [representEntries, inductionHypothesis, List.map_cons, List.map_cons, Entries.textual]

/-- Items are merged one by one. -/
theorem mergedAll_eq_map (items : List Node) : mergedAll items = items.map merged := by
  induction items with
  | nil => rfl
  | cons item rest inductionHypothesis => rw [mergedAll, inductionHypothesis, List.map_cons]

/-- The values of entries are merged one by one. -/
theorem mergedEntries_eq_map (entries : List (Text × Node)) :
    mergedEntries entries = entries.map fun entry => (entry.1, entry.2.merged) := by
  induction entries with
  | nil => rfl
  | cons entry rest inductionHypothesis =>
      rw [mergedEntries, inductionHypothesis, List.map_cons]

/-- An array is represented item by item. -/
theorem represent_array (items : List Node) :
    (array items).represent = .list (items.map represent) := by
  rw [represent, representAll_eq_map]

/-- An object is represented by the last entry of each key. -/
theorem represent_object (entries : List (Text × Node)) :
    (object entries).represent =
      .mapping ((Entries.lastWins entries).map fun entry => (.str entry.1, entry.2.represent)) := by
  rw [represent, representEntries_eq_map, Entries.ofPairs_textual, Entries.lastWins_map,
    List.map_map]
  rfl

/-- Merging leaves the items of an array where they are. -/
theorem merged_array (items : List Node) : (array items).merged = .array (items.map merged) := by
  rw [merged, mergedAll_eq_map]

/-- The nodes in an object may be merged after its keys. -/
theorem merged_object (entries : List (Text × Node)) :
    (object entries).merged =
      .object ((Entries.lastWins entries).map fun entry => (entry.1, entry.2.merged)) := by
  rw [merged, mergedEntries_eq_map, Entries.lastWins_map]

/-! ## What is read back -/

/-- Items are read back if each of them is … -/
theorem readBackAll?_of_forall {items : List Node}
    (each : ∀ item ∈ items, readBack? item.represent = some item.merged) :
    readBackAll? (items.map represent) = some (items.map merged) := by
  induction items with
  | nil => rfl
  | cons item rest inductionHypothesis =>
      obtain ⟨first, others⟩ := List.forall_mem_cons.mp each
      rw [List.map_cons, readBackAll?, first, inductionHypothesis others, List.map_cons]

/-- … and so are entries. -/
theorem readBackEntries?_of_forall {entries : List (Text × Node)}
    (each : ∀ entry ∈ entries, readBack? entry.2.represent = some entry.2.merged) :
    readBackEntries? (entries.map fun entry => (.str entry.1, entry.2.represent)) =
      some (entries.map fun entry => (entry.1, entry.2.merged)) := by
  induction entries with
  | nil => rfl
  | cons entry rest inductionHypothesis =>
      obtain ⟨first, others⟩ := List.forall_mem_cons.mp each
      rw [List.map_cons, readBackEntries?, first, inductionHypothesis others, List.map_cons]

/-- The plain value of a node is read back as the node with its keys merged. -/
theorem readBack?_represent {node : Node} (plain : node.Plain) :
    readBack? node.represent = some node.merged := by
  induction node with
  | scalar value =>
      have isScalar := plain_scalar.mp plain
      rw [represent, merged]
      cases value <;> first | rfl | cases isScalar
  | array items inductionHypothesis =>
      have each : ∀ item ∈ items, readBack? item.represent = some item.merged :=
        fun item member => inductionHypothesis item member (plain_array.mp plain item member)
      rw [represent_array, readBack?, readBackAll?_of_forall each, merged_array]
      rfl
  | object entries inductionHypothesis =>
      have each : ∀ entry ∈ Entries.lastWins entries,
          readBack? entry.2.represent = some entry.2.merged := by
        intro entry kept
        have member := Entries.mem_of_mem_lastWins kept
        exact inductionHypothesis entry member (plain_object.mp plain entry member)
      rw [represent_object, readBack?, readBackEntries?_of_forall each, merged_object]
      rfl

/-! ## Nodes that come back as they were -/

/-- Merging leaves a node as it is exactly if none of its objects repeats a key. -/
theorem merged_eq_self_iff (node : Node) : node.merged = node ↔ node.DistinctKeys := by
  induction node with
  | scalar value => exact iff_of_true (by rw [merged]) (distinctKeys_scalar value)
  | array items inductionHypothesis =>
      calc (array items).merged = .array items
        _ ↔ items.map merged = items.map id := by rw [merged_array, array.injEq, List.map_id]
        _ ↔ ∀ item ∈ items, item.merged = item := List.map_inj_left
        _ ↔ ∀ item ∈ items, item.DistinctKeys := forall₂_congr inductionHypothesis
        _ ↔ (array items).DistinctKeys := distinctKeys_array.symm
  | object entries inductionHypothesis =>
      rw [merged_object, distinctKeys_object, object.injEq]
      by_cases distinct : (entries.map Prod.fst).Nodup
      · calc (Entries.lastWins entries).map (fun entry => (entry.1, entry.2.merged)) = entries
          _ ↔ entries.map (fun entry => (entry.1, entry.2.merged)) = entries.map id := by
            rw [Entries.lastWins_of_nodup distinct, List.map_id]
          _ ↔ ∀ entry ∈ entries, (entry.1, entry.2.merged) = entry := List.map_inj_left
          _ ↔ ∀ entry ∈ entries, entry.2.DistinctKeys := by
            refine forall₂_congr fun entry member => ?_
            rw [← inductionHypothesis entry member, Prod.ext_iff]
            exact and_iff_right rfl
          _ ↔ _ := (and_iff_right distinct).symm
      · refine iff_of_false (fun same => distinct ?_) fun both => distinct both.1
        -- The keys of what is left are distinct whatever the nodes are.
        have keys := (Entries.keepsLast_lastWins entries).keys
        rw [← same, List.map_map]
        exact keys ▸ Entries.nodup_eraseDups _

/-- A node is read back from its plain value exactly if none of its objects repeats a key. -/
theorem readBack?_represent_eq_self_iff {node : Node} (plain : node.Plain) :
    readBack? node.represent = some node ↔ node.DistinctKeys := by
  rw [readBack?_represent plain, Option.some.injEq, merged_eq_self_iff]

/-- A plain value keeps the last entry of each key and nothing else is lost: scalars stay as they
are, arrays keep their items in order, and an object becomes the mapping of what is left if each key
is left once. Read back, it is the node with its keys merged in this way everywhere, which is the
node itself exactly if no object in it repeats a key. -/
theorem represent_keeps_last :
    (∀ value, (scalar value).represent = value ∧ (scalar value).merged = .scalar value) ∧
    (∀ items, (array items).represent = .list (items.map represent) ∧
      (array items).merged = .array (items.map merged)) ∧
    (∀ entries, ∃ kept, Entries.KeepsLast entries kept ∧
      (object entries).represent =
        .mapping (kept.map fun entry => (.str entry.1, entry.2.represent)) ∧
      (object entries).merged = .object (kept.map fun entry => (entry.1, entry.2.merged))) ∧
    ∀ node : Node, node.Plain →
      readBack? node.represent = some node.merged ∧
      (readBack? node.represent = some node ↔ node.DistinctKeys) := by
  refine ⟨fun value => ⟨by rw [represent], by rw [merged]⟩,
    fun items => ⟨represent_array items, merged_array items⟩, fun entries => ?_,
    fun node plain => ⟨readBack?_represent plain, readBack?_represent_eq_self_iff plain⟩⟩
  exact ⟨Entries.lastWins entries, Entries.keepsLast_lastWins entries, represent_object entries,
    merged_object entries⟩

/-- The second node of `"a"` takes the place of the first one, whose own keys are gone with it; its
array keeps an object in which only the last node of `"k"` is left. -/
theorem represent_keeps_last_nested :
    let inner : Node := .object [(text "k", .scalar (.bool false)), (text "k", .scalar .none)]
    let node : Node := .object
      [(text "a", .object [(text "x", .scalar (.int 1)), (text "x", .scalar (.int 2))]),
        (text "b", .scalar (.str (text "s"))),
        (text "a", .array [inner, .scalar (.int 3)])]
    node.Plain ∧
      readBack? node.represent = some (.object
        [(text "a", .array [.object [(text "k", .scalar .none)], .scalar (.int 3)]),
          (text "b", .scalar (.str (text "s")))]) ∧
      readBack? node.represent ≠ some node := by
  intro inner node
  have plain : node.Plain := by
    simp [node, inner, plain_object, plain_array, plain_scalar, Value.isScalar]
  obtain ⟨merges, unchanged⟩ := represent_keeps_last.2.2.2 node plain
  refine ⟨plain, merges.trans rfl, fun same => ?_⟩
  have repeated : ¬ (node.DistinctKeys) := fun distinct =>
    absurd (distinctKeys_object.mp distinct).1 (by decide)
  exact repeated (unchanged.mp same)

end Node

end Descent
