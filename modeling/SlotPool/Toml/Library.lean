import SlotPool.Toml.Item
import SlotPool.Toml.Key

/-!
# Libraries for settings documents

Whoever keeps numbers in settings documents leaves the texts to a library, which
writes the assignment of a number and reads the entries of a document.  What the
library does with other texts is left open.

Main definitions:

- `Assignment` and `documentOf`: assignments of numbers, and the lines that make them.
- `Library`: what writes and reads.
- `Library.Faithful`: what is relied on.
-/

namespace SlotPool.Toml

/-- An assignment of a number to a key. -/
structure Assignment where
  key : String
  value : Nat
deriving DecidableEq

/-- An assignment on a line of its own. -/
def Assignment.line (assignment : Assignment) : String :=
  assignment.key ++ " = " ++ toString assignment.value ++ "\n"

/-- The entry that an assignment makes in a document. -/
def Assignment.entry (assignment : Assignment) : String × Item :=
  (assignment.key, .integer assignment.value)

/-- A document of assignments, one on every line. -/
def documentOf (assignments : List Assignment) : String :=
  String.join (assignments.map Assignment.line)

/-- The largest number that a document can hold, which is that of a signed 64-bit word. -/
def numberLimit : Nat :=
  0x7fffffffffffffff

/-- Words that are keys without quotes. -/
def IsBare (key : String) : Prop :=
  key ≠ "" ∧ ∀ c ∈ key.toList, isKeyChar c = true

instance (key : String) : Decidable (IsBare key) :=
  decidable_of_iff (key ≠ "" ∧ key.toList.all isKeyChar = true) (by rw [IsBare, List.all_eq_true])

/-- What writes and reads settings documents. -/
structure Library where
  /-- The text of an assignment, if it can be written. -/
  write : Assignment → Option String
  /-- The entries of a text, if it is a document. -/
  read : String → Option Entries

/-- Numbers that fit signed words are written as lines in decimal, and others not at all.  A
document of such lines with different keys is read as their entries, in whatever order. -/
structure Library.Faithful (library : Library) : Prop where
  write : ∀ assignment : Assignment, IsBare assignment.key → assignment.value ≤ numberLimit →
    library.write assignment = some assignment.line
  refuse : ∀ assignment : Assignment, numberLimit < assignment.value →
    library.write assignment = none
  read : ∀ assignments : List Assignment, (∀ assignment ∈ assignments, IsBare assignment.key) →
    (∀ assignment ∈ assignments, assignment.value ≤ numberLimit) →
      (assignments.map Assignment.key).Nodup →
        ∃ found : List Assignment, found.Perm assignments ∧
          library.read (documentOf assignments) = some (found.map Assignment.entry)

end SlotPool.Toml
