import SlotPool.Memory

/-!
# Pool configuration

A pool is sized by three numbers: the bytes of every object, the number of
blocks built up front, and the bytes asked for each block's region.

Main definitions:

- `Config.validate`: the conditions under which a pool can be built, in the
  order in which they are reported.
- `Config.regionBytes`: the region every block of the pool ends up with.
-/

namespace SlotPool

/-- The sizes of a pool. -/
structure Config where
  /-- Bytes of every object. -/
  objectSize : Nat
  /-- Blocks built up front, which is also the first capacity of the reference array. -/
  initialBlocks : Nat
  /-- Bytes asked for each block's region. -/
  blockBytes : Nat
deriving DecidableEq, Inhabited

namespace Config

/-- Region size of a configuration that does not give one: a mebibyte. -/
def defaultBlockBytes : Nat :=
  1024 * 1024

/-- Number of initial blocks of a configuration that does not give one. -/
def defaultInitialBlocks : Nat :=
  20

/-- The default sizing for objects of `objectSize` bytes. -/
def forObjectSize (objectSize : Nat) : Config where
  objectSize := objectSize
  initialBlocks := defaultInitialBlocks
  blockBytes := defaultBlockBytes

/-- Changes the number of blocks built up front. -/
def withInitialBlocks (config : Config) (initialBlocks : Nat) : Config :=
  { config with initialBlocks }

/-- Changes the bytes asked for each region. -/
def withBlockBytes (config : Config) (blockBytes : Nat) : Config :=
  { config with blockBytes }

/-- Region bytes that blocks are created with: room for at least one object. -/
def effectiveBlockBytes (config : Config) : Nat :=
  max config.blockBytes config.objectSize

/-- The effective region cut down to a whole number of objects. -/
def regionBytes (config : Config) : Nat :=
  config.effectiveBlockBytes - config.effectiveBlockBytes % config.objectSize

/-- Checks that a pool of these sizes can be built; the first failing condition is reported. -/
def validate (config : Config) : Except ConfigFault Unit :=
  if config.objectSize = 0 then
    .error .zeroObjectSize
  else if config.initialBlocks = 0 then
    .error .zeroInitialBlocks
  else if config.regionBytes < Memory.offsetLimit then
    .ok ()
  else
    .error (.regionBeyondOffsets config.regionBytes)

/-- Field form of a configuration. -/
def fieldText (config : Config) : String :=
  s!"PoolConfig \x7b object_size: {config.objectSize}, initial_blocks: {config.initialBlocks}, " ++
    s!"block_bytes: {config.blockBytes} \x7d"

/-- A configuration passes exactly when both counts are positive and the region is addressable. -/
theorem validate_eq_ok_iff {config : Config} :
    config.validate = .ok () ↔
      0 < config.objectSize ∧ 0 < config.initialBlocks ∧
        config.regionBytes < Memory.offsetLimit := by
  unfold validate
  by_cases noBytes : config.objectSize = 0
  · simp [noBytes]
  · by_cases noBlocks : config.initialBlocks = 0
    · simp [noBytes, noBlocks]
    · by_cases short : config.regionBytes < Memory.offsetLimit <;>
        simp [noBytes, noBlocks, short, Nat.pos_iff_ne_zero]

end Config

end SlotPool
