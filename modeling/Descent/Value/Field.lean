import Descent.Value.Equality

/-!
# Entries and fields

Mappings are kept as entries in order of first insertion; `Entries.insert` keeps the place and
the key of an entry whose value it replaces. `field?` reads a named field of a mapping or a
record alike; every other value has none.
-/

namespace Descent

namespace Entries

/-- The value under a key. -/
def find? (key : Value) : List (Value × Value) → Option Value
  | [] => none
  | (here, value) :: rest => if here.same key then some value else find? key rest

/-- The entries with `value` under `key`: in the place of the old entry, or at the end. -/
def insert (key value : Value) : List (Value × Value) → List (Value × Value)
  | [] => [(key, value)]
  | (here, old) :: rest =>
    if here.same key then (here, value) :: rest else (here, old) :: insert key value rest

/-- The mapping that a list of pairs spells, later pairs replacing earlier ones. -/
def ofPairs (pairs : List (Value × Value)) : List (Value × Value) :=
  pairs.foldl (fun entries pair => insert pair.1 pair.2 entries) []

end Entries

namespace Fields

/-- The field of the given name. -/
def find? (name : Text) : List Text → List Value → Option Value
  | here :: names, value :: values => if here = name then some value else find? name names values
  | _, _ => none

/-- The fields with `value` in the place of the given name. -/
def replace (name : Text) (value : Value) : List Text → List Value → List Value
  | here :: names, old :: values =>
    if here = name then value :: values else old :: replace name value names values
  | _, values => values

end Fields

/-- The named field of a mapping or a record, if it has one. -/
def Value.field? (name : Text) : Value → Option Value
  | .mapping entries => Entries.find? (.str name) entries
  | .record kind fields => Fields.find? name kind.fieldNames fields
  | _ => Option.none

end Descent
