import SlotPool.Config
import SlotPool.Toml.Document

/-!
# Configurations as documents

A configuration is written as three assignments and read from any document that
assigns its object size.  Settings with defaults may be left out, and entries that
are no settings are ignored.  The settings of a document are examined in the order
of the document, and the first one that is not a count is reported.

Main definitions:

- `Config.assignments` and `Config.documentBy?`: a configuration as assignments, and as the text
  that a library writes for it.
- `Config.ofDocumentBy`: the configuration that a text describes for a library, checked.
- `Config.document?` and `Config.ofDocument`: the same with the library that the programs use.
-/

namespace SlotPool.Config

/-- The name of the object size in a document. -/
def objectSizeKey : String :=
  "object_size"

/-- The name of the number of initial blocks in a document. -/
def initialBlocksKey : String :=
  "initial_blocks"

/-- The name of the region size in a document. -/
def blockBytesKey : String :=
  "block_bytes"

/-! ## Writing -/

/-- The assignments that make up a configuration, in the order in which they are written. -/
def assignments (config : Config) : List Toml.Assignment :=
  [⟨objectSizeKey, config.objectSize⟩, ⟨initialBlocksKey, config.initialBlocks⟩,
    ⟨blockBytesKey, config.blockBytes⟩]

/-- The text that a library writes for a configuration, if it can write all assignments. -/
def documentBy? (library : Toml.Library) (config : Config) : Option String :=
  (config.assignments.mapM library.write).map String.join

/-- The text of a configuration. -/
def document? (config : Config) : Option String :=
  config.documentBy? .standard

/-! ## Reading -/

/-- The count that an item gives. -/
def countOf : Toml.Item → Except Unsuitable Nat
  | .integer value => if 0 ≤ value then .ok value.toNat else .error (.negative value)
  | .float bits => .error (.float bits)
  | .boolean value => .error (.boolean value)
  | .string value => .error (.string value)
  | .array _ => .error .sequence
  | .tables _ => .error .sequence
  | .dateTime => .error .map
  | .inlineTable _ => .error .map
  | .table _ _ => .error .map

/-- Settings that were found in a document. -/
structure Settings where
  objectSize : Option Nat
  initialBlocks : Option Nat
  blockBytes : Option Nat

namespace Settings

/-- No settings at all. -/
def none : Settings :=
  ⟨.none, .none, .none⟩

/-- Takes one entry of a document into account. -/
def add (settings : Settings) (key : String) (item : Toml.Item) : Except Unsuitable Settings :=
  if key = objectSizeKey then
    (countOf item).map fun count => { settings with objectSize := some count }
  else if key = initialBlocksKey then
    (countOf item).map fun count => { settings with initialBlocks := some count }
  else if key = blockBytesKey then
    (countOf item).map fun count => { settings with blockBytes := some count }
  else
    .ok settings

/-- The settings among the entries of a document, or the first entry that is not a count. -/
def ofEntries (settings : Settings) : Toml.Entries → Except Unsuitable Settings
  | [] => .ok settings
  | (key, item) :: entries =>
    match settings.add key item with
    | .ok settings => ofEntries settings entries
    | .error found => .error found

/-- The configuration of some settings, with defaults for what may be left out. -/
def config (settings : Settings) : Except DocumentFault Config :=
  match settings.objectSize with
  | .none => .error (.missing objectSizeKey)
  | some objectSize =>
    .ok ⟨objectSize, settings.initialBlocks.getD defaultInitialBlocks,
      settings.blockBytes.getD defaultBlockBytes⟩

end Settings

/-- The configuration that a document describes, not yet checked. -/
def parseBy (library : Toml.Library) (text : String) : Except DocumentFault Config :=
  match library.read text with
  | none => .error .malformed
  | some entries =>
    match Settings.none.ofEntries entries with
    | .error found => .error (.unsuitable found)
    | .ok settings => settings.config

/-- The configuration that a document describes, as a library reads it. -/
def ofDocumentBy (library : Toml.Library) (text : String) : Except ConfigFault Config :=
  match parseBy library text with
  | .error cause => .error (.document cause)
  | .ok config =>
    match config.validate with
    | .error cause => .error cause
    | .ok () => .ok config

/-- The configuration that a document describes. -/
def ofDocument (text : String) : Except ConfigFault Config :=
  ofDocumentBy .standard text

end SlotPool.Config
