import SlotPool.Address

/-!
# What can go wrong

One type per layer: reading a file, reading a settings document, checking a
configuration, and working with a pool.  Every constructor is a cause; the
sentences shown to people are in `SlotPool.Fault.Message`.
-/

namespace SlotPool

/-- Why the text of a file cannot be read. -/
inductive FileFault where
  | missing
  | isDirectory
  /-- The path goes through a file as if it were a directory. -/
  | notDirectory
  /-- A name on the path, or the path itself, is longer than the system allows. -/
  | nameTooLong
  /-- The path holds a NUL character. -/
  | nulInName
  | denied
  /-- The system gives another reason, by its number. -/
  | other (number : Nat)
  /-- The bytes of the file are not UTF-8. -/
  | notUtf8
deriving DecidableEq

/-- A value found in a settings document where a count was expected. -/
inductive Unsuitable where
  /-- An integer below zero. -/
  | negative (value : Int)
  /-- A floating-point number, given by its 64 bits. -/
  | float (bits : UInt64)
  | boolean (value : Bool)
  | string (value : String)
  | sequence
  /-- A table or anything else with named parts. -/
  | map
deriving DecidableEq

/-- Why a settings document does not give a configuration. -/
inductive DocumentFault where
  /-- The text is not a document at all. -/
  | malformed
  /-- A setting holds something that is not a count. -/
  | unsuitable (found : Unsuitable)
  | missing (setting : String)
deriving DecidableEq

/-- Why a configuration is refused. -/
inductive ConfigFault where
  /-- A block was asked for slots of no bytes. -/
  | zeroSlotSize
  /-- A block was asked for a region that offsets cannot address. -/
  | unaddressableRegion (bytes : Nat)
  | zeroObjectSize
  | zeroInitialBlocks
  /-- The configured region is longer than offsets can address. -/
  | regionBeyondOffsets (bytes : Nat)
  /-- The configured object size is not the size of the record type. -/
  | recordSizeMismatch (objectSize recordSize : Nat)
  /-- The settings document is at fault. -/
  | document (cause : DocumentFault)
  /-- The settings file cannot be read. -/
  | file (path : String) (cause : FileFault)
deriving DecidableEq

/-- Why a pool operation is refused. -/
inductive Fault where
  /-- The system did not grant a reservation of this many bytes. -/
  | outOfMemory (bytes : Nat)
  /-- The address freed is not one that could have been issued. -/
  | invalidFree (address : Address)
  /-- The address freed is free already. -/
  | doubleFree (address : Address)
  | invalidConfig (cause : ConfigFault)
deriving DecidableEq

end SlotPool
