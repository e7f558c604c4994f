import SlotPool.Toml.DateTime
import SlotPool.Toml.Key
import SlotPool.Toml.Number

/-!
# Values of a settings document

A value is a string, a number, a truth value, a date or time, an array between
brackets, or a table between braces.  Arrays and tables may be nested up to a
limit.

Main definitions:

- `scalar`: a value that holds no other values.
- `value`: any value, nested up to a given depth.
-/

namespace SlotPool.Toml

/-- A truth value. -/
def boolean : Reader Bool
  | 't' :: 'r' :: 'u' :: 'e' :: rest => some (true, rest)
  | 'f' :: 'a' :: 'l' :: 's' :: 'e' :: rest => some (false, rest)
  | _ => none

/-- The item of a number. -/
def Number.item : Number → Item
  | integer value => .integer value
  | float bits => .float bits

/-- A value that holds no other values.  What can be read as a date or time is one. -/
def scalar : Reader Item := fun cs =>
  match cs with
  | [] => none
  | c :: _ =>
    if c = '"' ∨ c = '\'' then (string cs).map fun (text, rest) => (.string text, rest)
    else if c = 't' ∨ c = 'f' then (boolean cs).map fun (truth, rest) => (.boolean truth, rest)
    else
      match dateTime? cs with
      | some rest => some (.dateTime, rest)
      | none => (number cs).map fun (read, rest) => (read.item, rest)

/-! ## Arrays and tables -/

/-- The rest of an array with at most `limit` further elements; a comma may close the last one. -/
def elementsUpTo (element : Reader Item) : (limit : Nat) → Reader (List Item)
  | 0, _ => none
  | limit + 1, cs =>
    match skipBlank cs with
    | ']' :: rest => some ([], rest)
    | cs => do
      let (item, cs) ← element cs
      match skipBlank cs with
      | ',' :: rest =>
        let (items, rest) ← elementsUpTo element limit rest
        some (item :: items, rest)
      | ']' :: rest => some ([item], rest)
      | _ => none

/-- An entry of a table between braces. -/
def inlineEntry (element : Reader Item) : Reader (Path × Item) := fun cs => do
  let (path, cs) ← path cs
  let cs ← expect '=' cs
  let (item, cs) ← element (skipSpace cs)
  some ((path, item), skipSpace cs)

/-- The rest of a table between braces with at most `limit` further entries, which are added to
those given.  No comma may close the last entry. -/
def entriesUpTo (element : Reader Item) : (limit : Nat) → Entries → Reader Entries
  | 0, _, _ => none
  | limit + 1, entries, cs => do
    let ((path, item), cs) ← inlineEntry element cs
    let entries ← entries.assign path item
    match cs with
    | ',' :: rest => entriesUpTo element limit entries rest
    | '}' :: rest => some (entries, rest)
    | _ => none

/-- The rest of a table between braces. -/
def inlineRest (element : Reader Item) : Reader Entries := fun cs =>
  match skipSpace cs with
  | '}' :: rest => some ([], rest)
  | cs => entriesUpTo element (cs.length + 1) [] cs

/-- A value in which arrays and tables are nested at most `depth` deep. -/
def value : (depth : Nat) → Reader Item
  | 0 => scalar
  | depth + 1 => fun cs =>
    match cs with
    | '[' :: rest =>
      (elementsUpTo (value depth) (rest.length + 1) rest).map fun (items, rest) =>
        (.array items, rest)
    | '{' :: rest =>
      (inlineRest (value depth) rest).map fun (entries, rest) => (.inlineTable entries, rest)
    | _ => scalar cs

/-- How deep arrays and tables between braces may be nested. -/
def depthLimit : Nat :=
  79

end SlotPool.Toml
