import SlotPool.Config.File
import SlotPool.Numeral

/-!
# Settings of the inspector

The inspector is set up by a row of words.  Every option is looked up on its own: its
first occurrence counts, and the word after it is its value, whatever that word is.
The configuration comes from a file if one is named, and explicit sizes override it.

Main definitions:

- `Inspector.Settings.parse`: the settings given by a row of words, or the first
  fault in a fixed order of the options.
-/

namespace SlotPool.Inspector

/-- What the inspector is to do. -/
structure Settings where
  config : Config
  /-- Slots to hand out. -/
  allocs : Nat
  /-- Slots to take back afterwards, no more than are handed out. -/
  frees : Nat
  /-- Whether to reclaim the pool at the end. -/
  reclaim : Bool
deriving DecidableEq

/-- Why a row of words gives no settings. -/
inductive SettingsFault where
  /-- The option that names a file is the last word. -/
  | missingPath
  /-- An option that needs a count is the last word. -/
  | missingValue (flag : String)
  /-- The word after an option is not a count. -/
  | notACount (flag value : String) (cause : NumeralFault)
  | config (cause : ConfigFault)
deriving DecidableEq

namespace Settings

/-- The word that names a configuration file. -/
def configFlag : String :=
  "--config"

/-- The word for the object size. -/
def objectSizeFlag : String :=
  "--object-size"

/-- The word for the number of initial blocks. -/
def blocksFlag : String :=
  "--blocks"

/-- The word for the number of slots to hand out. -/
def allocsFlag : String :=
  "--allocs"

/-- The word for the number of slots to take back. -/
def freesFlag : String :=
  "--frees"

/-- The word that asks for a reclaim. -/
def reclaimFlag : String :=
  "--reclaim"

/-- Object size if nothing else is said. -/
def defaultObjectSize : Nat :=
  32

/-- Slots handed out if nothing else is said. -/
def defaultAllocs : Nat :=
  100000

/-- What stands after the first occurrence of an option: nothing if the option does not occur, and
`some none` if it is the last word. -/
def valueOf? (flag : String) : List String → Option (Option String)
  | [] => none
  | word :: rest => if word = flag then some rest.head? else valueOf? flag rest

/-- The count given by an option, if the option occurs. -/
def countOf (flag : String) (words : List String) : Except SettingsFault (Option Nat) :=
  match valueOf? flag words with
  | none => .ok none
  | some none => .error (.missingValue flag)
  | some (some value) =>
    match Numeral.read value with
    | .ok count => .ok (some count)
    | .error cause => .error (.notACount flag value cause)

/-- The configuration given by a file, or else the default one. -/
def configOf (library : Toml.Library) (readFile : Config.ReadFile) (words : List String) :
    Except SettingsFault Config :=
  match valueOf? configFlag words with
  | none => .ok (.forObjectSize defaultObjectSize)
  | some none => .error .missingPath
  | some (some path) => (Config.ofFileBy library readFile path).mapError .config

/-- The settings given by a row of words. -/
def parse (library : Toml.Library) (readFile : Config.ReadFile) (words : List String) :
    Except SettingsFault Settings := do
  let config ← configOf library readFile words
  let objectSize ← countOf objectSizeFlag words
  let initialBlocks ← countOf blocksFlag words
  let allocs ← countOf allocsFlag words
  let frees ← countOf freesFlag words
  let allocs := allocs.getD defaultAllocs
  return {
    config :=
      { config with
        objectSize := objectSize.getD config.objectSize
        initialBlocks := initialBlocks.getD config.initialBlocks }
    allocs := allocs
    frees := min (frees.getD (allocs / 2)) allocs
    reclaim := words.contains reclaimFlag }

end Settings

end SlotPool.Inspector
