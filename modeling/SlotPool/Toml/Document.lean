import SlotPool.Toml.Library
import SlotPool.Toml.Value

/-!
# Settings documents

A document is a sequence of lines.  A line is blank, assigns a value to a key of the
table at hand, or is a header that makes another table the one at hand.  Tables are
entered into the document when they are complete, so that a key counts from then on
as one of its table.

Main definitions:

- `Draft`: a document in the making.
- `Draft.openTable` and `Draft.openElement`: the two kinds of header.
- `parse`: the entries of a whole document.
- `Library.standard`: a library that reads whole documents.
-/

namespace SlotPool.Toml

/-- A document in the making: the complete part, and the table at hand. -/
structure Draft where
  /-- The entries of all complete tables. -/
  complete : Entries
  /-- Where the table at hand belongs; nothing for the entries before the first header. -/
  target : Option Path
  /-- The table at hand is a further element of an array of tables. -/
  isElement : Bool
  /-- The entries of the table at hand. -/
  current : Entries

namespace Draft

/-- A document of which nothing has been read. -/
def empty : Draft where
  complete := []
  target := none
  isElement := false
  current := []

/-- Changes the table that holds the last key of a header, and gives what `change` finds there. -/
def atParent {α : Type} (path : Path) (change : Entries → Option (α × Entries)) (entries : Entries) :
    Option (α × Entries) :=
  entries.modifyAt .implied (fun _ inner => change inner) path.parents .header

/-- Enters a complete table under its name. -/
def enter (name : String) (isElement : Bool) (table entries : Entries) : Option (Unit × Entries) :=
  if isElement then
    match entries.find? name with
    | some (.tables elements) => some ((), entries.put name (.tables (elements ++ [table])))
    | _ => none
  else
    some ((), entries.put name (.table .header table))

/-- The entries of a document whose table at hand is complete. -/
def close (draft : Draft) : Option Entries :=
  match draft.target with
  | none => some draft.current
  | some path =>
    (atParent path (enter path.last draft.isElement draft.current) draft.complete).map (·.2)

/-- Adds an entry to the table at hand. -/
def assign (draft : Draft) (path : Path) (item : Item) : Option Draft := do
  let current ← draft.current.assign path item
  some { draft with current }

/-- Takes a table out whose header has come, with what it already holds: nothing, or what was
implied before.  A table that came about in any other way can have no header any more. -/
def takeOut (name : String) (entries : Entries) : Option (Entries × Entries) :=
  match entries.find? name with
  | none => some ([], entries)
  | some (.table .implied held) => some (held, entries.remove name)
  | some _ => none

/-- Makes sure that a name stands for an array of tables. -/
def prepare (name : String) (entries : Entries) : Option (Unit × Entries) :=
  match entries.find? name with
  | none => some ((), entries.put name (.tables []))
  | some (.tables _) => some ((), entries)
  | some _ => none

/-- Makes the table of a header the one at hand. -/
def openTable (draft : Draft) (path : Path) : Option Draft := do
  let entries ← draft.close
  let (current, complete) ← atParent path (takeOut path.last) entries
  some ⟨complete, some path, false, current⟩

/-- Makes a further element of an array of tables the table at hand. -/
def openElement (draft : Draft) (path : Path) : Option Draft := do
  let entries ← draft.close
  let (_, complete) ← atParent path (prepare path.last) entries
  some ⟨complete, some path, true, []⟩

end Draft

/-! ## Lines -/

/-- The line of a header, after its opening bracket. -/
def headerLine (draft : Draft) (cs : List Char) : Option (Draft × List Char) := do
  let (path, cs) ← path cs
  let cs ← expect ']' cs
  let rest ← endLine? cs
  let draft ← draft.openTable path
  some (draft, rest)

/-- The line of a header of an array of tables, after its two opening brackets. -/
def elementLine (draft : Draft) (cs : List Char) : Option (Draft × List Char) := do
  let (path, cs) ← path cs
  let cs ← expect ']' cs
  let cs ← expect ']' cs
  let rest ← endLine? cs
  let draft ← draft.openElement path
  some (draft, rest)

/-- The line of an assignment. -/
def assignmentLine (draft : Draft) (cs : List Char) : Option (Draft × List Char) := do
  let (path, cs) ← path cs
  let cs ← expect '=' cs
  let (item, cs) ← value depthLimit (skipSpace cs)
  let rest ← endLine? cs
  let draft ← draft.assign path item
  some (draft, rest)

/-- One line, blank or not. -/
def line (draft : Draft) (cs : List Char) : Option (Draft × List Char) :=
  match skipSpace cs with
  | '[' :: '[' :: rest => elementLine draft rest
  | '[' :: rest => headerLine draft rest
  | cs =>
    match endLine? cs with
    | some rest => some (draft, rest)
    | none => assignmentLine draft cs

/-- Up to `limit` lines, which make up the whole rest of a document. -/
def linesUpTo : (limit : Nat) → Draft → List Char → Option Draft
  | _, draft, [] => some draft
  | 0, _, _ :: _ => none
  | limit + 1, draft, c :: cs => do
    let (draft, rest) ← line draft (c :: cs)
    linesUpTo limit draft rest

/-- Leaves out the mark that may stand at the very beginning of a text. -/
def skipByteOrderMark : List Char → List Char
  | '\ufeff' :: rest => rest
  | cs => cs

/-- The entries of a document in the order of their first appearance, if the text is a document. -/
def parse (text : String) : Option Entries := do
  let cs := skipByteOrderMark text.toList
  let draft ← linesUpTo cs.length .empty cs
  draft.close

/-- The library that the programs use. -/
def Library.standard : Library where
  write assignment := if assignment.value ≤ numberLimit then some assignment.line else none
  read := parse

end SlotPool.Toml
