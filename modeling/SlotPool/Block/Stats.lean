import SlotPool.Block

/-!
# What a block shows of itself

A snapshot of the sizes of a block, and its two printed forms.
-/

namespace SlotPool.Block

/-- The sizes of a block at one moment. -/
structure Stats where
  id : BlockId
  objectSize : Nat
  regionBytes : Nat
  capacitySlots : Nat
  bumpCursor : Nat
  freeDepth : Nat
  footprint : Nat
deriving DecidableEq

/-- The sizes of a block now. -/
def stats (block : Block) : Stats where
  id := block.id
  objectSize := block.objectSize
  regionBytes := block.regionBytes
  capacitySlots := block.capacitySlots
  bumpCursor := block.bumpCursor
  freeDepth := block.freeDepth
  footprint := block.footprint

/-- The sizes of a block together with what its accessors tell. -/
structure Details extends Stats where
  firstAddress : Address
  isExhausted : Bool
deriving DecidableEq

/-- The details of a block now. -/
def details (block : Block) : Details where
  toStats := block.stats
  firstAddress := block.firstAddress
  isExhausted := block.isExhausted

/-- One line on a block, for a dump. -/
def text (block : Block) : String :=
  block.id.text ++ s!" region_bytes: {block.regionBytes} object_size: {block.objectSize} " ++
    s!"free_list_depth: {block.freeDepth}"

/-- Field form of a block; the contents are left out. -/
def fieldText (block : Block) : String :=
  "Block \x7b id: " ++ block.id.fieldText ++
    s!", region_bytes: {block.regionBytes}, object_size: {block.objectSize}, " ++
    s!"bump_cursor: {block.bumpCursor}, free_list_depth: {block.freeDepth} \x7d"

end SlotPool.Block
