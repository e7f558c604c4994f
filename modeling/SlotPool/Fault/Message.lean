import SlotPool.Decimal.Shortest
import SlotPool.Fault
import SlotPool.Text.Quoted

/-!
# The wording of faults

One sentence for every cause.  A message names the quantity at fault, and what
encloses a cause puts its own words in front.
-/

namespace SlotPool

/-- Wording of a failed read, with the system's number where it has one. -/
def FileFault.message : FileFault → String
  | missing => "No such file or directory (os error 2)"
  | notDirectory => "Not a directory (os error 20)"
  | isDirectory => "Is a directory (os error 21)"
  | nameTooLong => "File name too long (os error 36)"
  | denied => "Permission denied (os error 13)"
  | other number => s!"Unknown error {number} (os error {number})"
  | nulInName => "file name contained an unexpected NUL byte"
  | notUtf8 => "stream did not contain valid UTF-8"

/-- A value that is no count, described by its kind and where possible by its text. -/
def Unsuitable.message : Unsuitable → String
  | negative value => s!"invalid value: integer `{value}`, expected usize"
  | float bits => "invalid type: floating point `" ++ Decimal.floatText bits ++ "`, expected usize"
  | boolean value => s!"invalid type: boolean `{value}`, expected usize"
  | string value => "invalid type: string " ++ Text.quoted value ++ ", expected usize"
  | sequence => "invalid type: sequence, expected usize"
  | map => "invalid type: map, expected usize"

/-- Wording of a fault of a settings document. -/
def DocumentFault.message : DocumentFault → String
  | malformed => "syntax"
  | unsuitable found => found.message
  | missing setting => s!"missing field `{setting}`"

/-- Wording of a refused configuration. -/
def ConfigFault.message : ConfigFault → String
  | zeroSlotSize => "object size must be greater than zero"
  | unaddressableRegion bytes => s!"block region of {bytes} bytes exceeds the addressable range"
  | zeroObjectSize => "object_size must be greater than zero"
  | zeroInitialBlocks => "initial_blocks must be greater than zero"
  | regionBeyondOffsets bytes => s!"block region of {bytes} bytes exceeds the u32 offset range"
  | recordSizeMismatch objectSize recordSize =>
    s!"object_size {objectSize} does not match the {recordSize} byte element type"
  | document cause => "toml: " ++ cause.message
  | file path cause => path ++ ": " ++ cause.message

/-- Wording of a refused pool operation. -/
def Fault.message : Fault → String
  | outOfMemory bytes => s!"out of memory: could not reserve {bytes} bytes for a new block"
  | invalidFree address =>
    "invalid free: " ++ address.text ++ " is not owned by any block in this pool"
  | doubleFree address => "double free: " ++ address.text ++ " is already on the free list"
  | invalidConfig cause => "invalid configuration: " ++ cause.message

end SlotPool
