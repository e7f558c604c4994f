import SlotPool.Toml.Item
import SlotPool.Toml.Text

/-!
# Keys of a settings document

A key is a bare word, or a string on one line.  Keys joined by dots name an entry
of a table inside a table; spaces may stand around every one of them.
-/

namespace SlotPool.Toml

/-- A character of a bare key. -/
def isKeyChar (c : Char) : Bool :=
  c.isAlphanum || c == '_' || c == '-'

/-- A single key. -/
def simpleKey : Reader String := fun cs =>
  match cs with
  | '"' :: rest => (basicRest rest).map fun (text, rest) => (String.ofList text, rest)
  | '\'' :: rest => (literalRest rest).map fun (text, rest) => (String.ofList text, rest)
  | _ =>
    let text := cs.takeWhile isKeyChar
    if text.isEmpty then none else some (String.ofList text, cs.dropWhile isKeyChar)

/-- The largest number of keys that dots may join. -/
def keyLimit : Nat :=
  79

/-- Up to `limit` keys joined by dots; there are none left over for a further dot. -/
def keysUpTo : (limit : Nat) → Reader (List String)
  | 0, _ => none
  | limit + 1, cs => do
    let (key, cs) ← simpleKey (skipSpace cs)
    match skipSpace cs with
    | '.' :: rest =>
      let (keys, rest) ← keysUpTo limit rest
      some (key :: keys, rest)
    | rest => some ([key], rest)

/-- The path that a list of keys names, the last key being the entry itself. -/
def pathOf? (keys : List String) : Option Path :=
  keys.getLast?.map fun last => ⟨keys.dropLast, last⟩

/-- A dotted key. -/
def path : Reader Path := fun cs => do
  let (keys, rest) ← keysUpTo keyLimit cs
  let path ← pathOf? keys
  some (path, rest)

end SlotPool.Toml
