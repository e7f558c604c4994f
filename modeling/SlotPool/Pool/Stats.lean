import SlotPool.Block.Stats
import SlotPool.Pool

/-!
# What a pool shows of itself

A snapshot of the sizes of a pool and of its blocks, and its two printed forms.
-/

namespace SlotPool.Pool

/-- The sizes of a pool and of all its blocks at one moment. -/
structure Stats where
  objectSize : Nat
  blockBytes : Nat
  blockCount : Nat
  maxBlocks : Nat
  blocks : Array Block.Stats
  footprint : Nat
deriving DecidableEq

/-- The sizes of a pool now. -/
def stats (pool : Pool) : Stats where
  objectSize := pool.objectSize
  blockBytes := pool.blockBytes
  blockCount := pool.blockCount
  maxBlocks := pool.maxBlocks
  blocks := pool.blocks.map Block.stats
  footprint := pool.footprint

/-- Slots waiting to be handed out again, over all blocks. -/
def Stats.freeDepth (stats : Stats) : Nat :=
  stats.blocks.foldr (fun block depth => block.freeDepth + depth) 0

/-- A dump of a pool: a line of totals and an indented line for every block. -/
def text (pool : Pool) : String :=
  s!"pool blocks: {pool.blockCount} max_blocks: {pool.maxBlocks} object_size: {pool.objectSize}\n" ++
    String.join (pool.blocks.toList.map fun block => "  " ++ block.text ++ "\n")

/-- Field form of a pool, with the field forms of its blocks. -/
def fieldText (pool : Pool) : String :=
  s!"Pool \x7b object_size: {pool.objectSize}, block_bytes: {pool.blockBytes}, blocks: [" ++
    ", ".intercalate (pool.blocks.toList.map Block.fieldText) ++
    s!"], current: {pool.current}, max_blocks: {pool.maxBlocks} \x7d"

end SlotPool.Pool
