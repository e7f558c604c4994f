/-!
# Items of a settings document

What a key of a document can stand for.  A value written after an equals sign is
closed: nothing can be added to it later.  A table that was opened by a header, or
by being named on the way to something else, can still be added to, and how it
came about decides by whom.

Main definitions:

- `Item`: values, open tables, and arrays of tables.
- `Entries`: keys with their items in the order of their first appearance.
- `Entries.modifyAt`: a change to the table at the end of a path.
-/

namespace SlotPool.Toml

/-- How an open table came about. -/
inductive Origin where
  | header
  /-- It was named on the way in a header. -/
  | implied
  /-- It was named on the way in a dotted key. -/
  | dotted
deriving DecidableEq

/-- What a key stands for. -/
inductive Item where
  | string (value : String)
  | integer (value : Int)
  /-- A floating-point number, given by its 64 bits. -/
  | float (bits : UInt64)
  | boolean (value : Bool)
  | dateTime
  | array (items : List Item)
  /-- A table written between braces. -/
  | inlineTable (entries : List (String × Item))
  /-- A table that may be added to. -/
  | table (origin : Origin) (entries : List (String × Item))
  /-- Tables that share a header; only the last one may be added to. -/
  | tables (elements : List (List (String × Item)))

/-- Keys with their items, in the order of their first appearance. -/
abbrev Entries := List (String × Item)

/-- A key with the keys of the tables around it, outermost first. -/
structure Path where
  parents : List String
  last : String
deriving DecidableEq

namespace Entries

/-- The item of a key. -/
def find? : Entries → String → Option Item
  | [], _ => none
  | (other, item) :: rest, key => if other = key then some item else find? rest key

/-- Replaces the item of a key where it stands, or adds the key at the end. -/
def put (key : String) (item : Item) : Entries → Entries
  | [] => [(key, item)]
  | (other, old) :: rest =>
    if other = key then (key, item) :: rest else (other, old) :: put key item rest

/-- Takes a key out. -/
def remove (entries : Entries) (key : String) : Entries :=
  entries.filter (·.1 != key)

/-- Changes the table at the end of a path, and gives what `change` finds there; `change` is told
how that table came about.  Tables that are missing on the way come about as `via`.  A path does not
lead through a value, and a dotted key does not lead through a table that has a header of its
own. -/
def modifyAt {α : Type} (via : Origin) (change : Origin → Entries → Option (α × Entries)) :
    List String → Origin → Entries → Option (α × Entries)
  | [], origin, entries => change origin entries
  | key :: path, _, entries =>
    match entries.find? key with
    | none => do
      let (found, inner) ← modifyAt via change path via []
      some (found, entries.put key (.table via inner))
    | some (.table origin inner) =>
      if via = .dotted ∧ origin = .header then none
      else do
        let (found, inner) ← modifyAt via change path origin inner
        some (found, entries.put key (.table origin inner))
    | some (.tables elements) => do
      let last ← elements.getLast?
      let (found, inner) ← modifyAt via change path .header last
      some (found, entries.put key (.tables (elements.dropLast ++ [inner])))
    | some _ => none

/-- Adds an item under a dotted key, which must be new to its table.  A key with parents ends in a
table made by dotted keys, and a key without parents in a table that is not. -/
def assign (path : Path) (item : Item) (entries : Entries) : Option Entries :=
  let change (origin : Origin) (inner : Entries) : Option (Unit × Entries) :=
    if origin = .dotted ↔ path.parents ≠ [] then
      match inner.find? path.last with
      | none => some ((), inner.put path.last item)
      | some _ => none
    else
      none
  (modifyAt .dotted change path.parents .header entries).map (·.2)

end Entries

end SlotPool.Toml
