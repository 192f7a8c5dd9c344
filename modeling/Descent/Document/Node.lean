import Descent.Value.Field

/-!
# Document nodes

A JSON document is a tree of scalars, arrays and objects. An object keeps its entries in document
order and keeps repeated keys; `Node.represent` turns a tree into plain values and lets the last
entry of a key win.

Rules hand nodes on as records; `Node.toValue` and `Node.ofValue?` go between the two.
-/

namespace Descent

/-- A node of a document. -/
inductive Node where
  /-- Nothing, a truth value, a number or a text. -/
  | scalar (value : Value)
  | array (items : List Node)
  | object (entries : List (Text × Node))
  deriving Inhabited

namespace Node

mutual

/-- The node as a record. -/
def toValue : Node → Value
  | scalar value => .record .scalar [value]
  | array items => .record .array [.tuple (toValues items)]
  | object entries => .record .object [.tuple (entriesToValues entries)]

/-- The nodes as records. -/
def toValues : List Node → List Value
  | [] => []
  | node :: rest => toValue node :: toValues rest

/-- The entries as pairs. -/
def entriesToValues : List (Text × Node) → List Value
  | [] => []
  | (key, node) :: rest => .tuple [.str key, toValue node] :: entriesToValues rest

end

mutual

/-- The node that a record spells. -/
def ofValue? : Value → Option Node
  | .record .scalar [value] => some (.scalar value)
  | .record .array [.tuple items] => (ofValues? items).map .array
  | .record .object [.tuple entries] => (entriesOfValues? entries).map .object
  | _ => none

/-- The nodes that records spell. -/
def ofValues? : List Value → Option (List Node)
  | [] => some []
  | value :: rest =>
    match ofValue? value, ofValues? rest with
    | some node, some nodes => some (node :: nodes)
    | _, _ => none

/-- The entries that pairs spell. -/
def entriesOfValues? : List Value → Option (List (Text × Node))
  | [] => some []
  | .tuple [.str key, value] :: rest =>
    match ofValue? value, entriesOfValues? rest with
    | some node, some entries => some ((key, node) :: entries)
    | _, _ => none
  | _ :: _ => none

end

mutual

/-- The plain value of a node: lists for arrays, mappings for objects. -/
def represent : Node → Value
  | scalar value => value
  | array items => .list (representAll items)
  | object entries => .mapping (Entries.ofPairs (representEntries entries))

/-- The plain values of nodes. -/
def representAll : List Node → List Value
  | [] => []
  | node :: rest => represent node :: representAll rest

/-- The keys with the plain values of their nodes, repeated keys included. -/
def representEntries : List (Text × Node) → List (Value × Value)
  | [] => []
  | (key, node) :: rest => (.str key, represent node) :: representEntries rest

end

end Node

end Descent
