import SlotPool.Block
import SlotPool.Config

/-!
# Pools

A pool hands out slots of one size from a list of blocks.  It first asks the
block that served it last, then all blocks in the order of their creation, and
when none has room it adds a block.  References to blocks are kept in an array
whose capacity doubles when it is full; blocks themselves never move.

An address is resolved by the block that contains it, so an address of another
pool is never accepted.

Main definitions:

- `Pool.create`: a pool of a given configuration.
- `Pool.allocate`: the address handed out next, and the pool afterwards.
- `Pool.free`: taking a slot back under either check.
- `Pool.reclaim`: taking all slots back at once.
-/

namespace SlotPool

/-- A growing list of blocks with slots of one size. -/
structure Pool where
  /-- Bytes of every slot. -/
  objectSize : Nat
  /-- Region bytes asked for every block. -/
  blockBytes : Nat
  /-- The blocks in the order of their creation. -/
  blocks : Array Block
  /-- Index of the block that is asked first. -/
  current : Nat
  /-- Capacity of the array of block references. -/
  maxBlocks : Nat

namespace Pool

/-! ## Creation and growth -/

/-- Builds `count` blocks after those `built`, up to the first that cannot be built. -/
def createBlocks (memory : Memory) (objectSize blockBytes : Nat) :
    Nat → Array Block → Fresh (Except Fault (Array Block))
  | 0, built => .done (.ok built)
  | count + 1, built =>
    (Block.create memory.first objectSize blockBytes).bind fun
      | .error fault => .done (.error fault)
      | .ok block => createBlocks memory.rest objectSize blockBytes count (built.push block)

/-- The pool that serves its first slot from the first of the given blocks. -/
def ofBlocks (config : Config) (blocks : Array Block) : Pool where
  objectSize := config.objectSize
  blockBytes := config.effectiveBlockBytes
  blocks := blocks
  current := 0
  maxBlocks := config.initialBlocks

/-- Builds a pool.  The configuration is checked before anything is reserved, and the references
are reserved before any block is built. -/
def create (memory : Memory) (config : Config) : Fresh (Except Fault Pool) :=
  match config.validate with
  | .error cause => .done (.error (.invalidConfig cause))
  | .ok () =>
    match memory.first.reserve (config.initialBlocks * Memory.blockHeaderBytes) with
    | .error fault => .done (.error fault)
    | .ok () =>
      (createBlocks memory.rest config.objectSize config.effectiveBlockBytes
        config.initialBlocks #[]).bind fun
        | .error fault => .done (.error fault)
        | .ok blocks => .done (.ok (ofBlocks config blocks))

/-- Makes room for one more block reference: a full array is replaced by one of twice its
capacity. -/
def reserveReference (memory : Memory) (pool : Pool) : Except Fault Pool :=
  if pool.blocks.size = pool.maxBlocks then
    match memory.reserve (pool.maxBlocks * 2 * Memory.blockHeaderBytes) with
    | .error fault => .error fault
    | .ok () => .ok { pool with maxBlocks := pool.maxBlocks * 2 }
  else
    .ok pool

/-- Adds one block.  If it cannot be built, the pool keeps the capacity it has reserved. -/
def grow (memory : Memory) (pool : Pool) : Fresh (Except Fault Unit × Pool) :=
  match pool.reserveReference memory.first with
  | .error fault => .done (.error fault, pool)
  | .ok pool =>
    (Block.create memory.rest pool.objectSize pool.blockBytes).bind fun
      | .error fault => .done (.error fault, pool)
      | .ok block => .done (.ok (), { pool with blocks := pool.blocks.push block })

/-! ## Handing out -/

/-- Whether the block of an index exists and has room. -/
def hasRoomAt (pool : Pool) (index : Nat) : Bool :=
  pool.blocks[index]?.any Block.hasRoom

/-- The block that serves the next slot: the current one while it has room, then the first that
has. -/
def roomIndex? (pool : Pool) : Option Nat :=
  if pool.hasRoomAt pool.current then some pool.current
  else pool.blocks.findIdx? Block.hasRoom

/-- Hands out a slot of one block and makes that block the current one. -/
def takeFrom (pool : Pool) (index : Nat) : Except Fault Address × Pool :=
  match pool.blocks[index]?.bind Block.nextAddress? with
  | some address =>
    (.ok address, { pool with current := index, blocks := pool.blocks.modify index Block.take })
  | none => (.error (.outOfMemory pool.blockBytes), { pool with current := index })

/-- Hands out one slot, from a new block if no other has room. -/
def allocate (memory : Memory) (pool : Pool) : Fresh (Except Fault Address × Pool) :=
  match pool.roomIndex? with
  | some index => .done (pool.takeFrom index)
  | none =>
    (pool.grow memory).bind fun
      | (.error fault, pool) => .done (.error fault, pool)
      | (.ok (), pool) => .done (pool.takeFrom (pool.blocks.size - 1))

/-! ## Resolving addresses -/

/-- Index of the block that contains an address. -/
def blockIndex? (pool : Pool) (address : Address) : Option Nat :=
  pool.blocks.findIdx? (·.contains address)

/-- The block that contains an address. -/
def owner? (pool : Pool) (address : Address) : Option Block :=
  pool.blocks.find? (·.contains address)

/-- An address that some block of this pool contains. -/
def contains (pool : Pool) (address : Address) : Bool :=
  pool.blocks.any (·.contains address)

/-! ## Taking back -/

/-- Why freeing an address is refused, if it is. -/
def refusal? (check : FreeCheck) (pool : Pool) (address : Address) : Option Fault :=
  match pool.owner? address with
  | some block => block.refusal? check address
  | none => some (.invalidFree address)

/-- The pool after an address was put on the free stack of its block. -/
def pushFree (pool : Pool) (address : Address) : Pool :=
  match pool.blockIndex? address with
  | some index => { pool with blocks := pool.blocks.modify index (·.pushFree address.offset) }
  | none => pool

/-- Takes a slot back, unless no block contains its address or the check refuses it. -/
def free (check : FreeCheck) (pool : Pool) (address : Address) : Except Fault Unit × Pool :=
  match pool.refusal? check address with
  | some fault => (.error fault, pool)
  | none => (.ok (), pool.pushFree address)

/-- Takes all slots of all blocks back, and starts over with the first block. -/
def reclaim (pool : Pool) : Pool :=
  { pool with blocks := pool.blocks.map Block.reclaim, current := 0 }

/-! ## Contents -/

/-- The bytes of a slot. -/
def bytes? (pool : Pool) (address : Address) : Option (List UInt8) :=
  (pool.owner? address).bind (·.bytes? address)

/-- Where a slot lies in the region of its block, if the address is that of a slot. -/
def slotRange? (pool : Pool) (address : Address) : Option (Nat × Nat) :=
  (pool.owner? address).bind (·.slotRange? address)

/-- Copies bytes to the start of a slot, cut to its size, and tells whether there is such a slot. -/
def write (pool : Pool) (address : Address) (bytes : List UInt8) : Bool × Pool :=
  match pool.slotRange? address, pool.blockIndex? address with
  | some (start, _), some index =>
    (true, { pool with blocks := pool.blocks.modify index (·.overwrite start bytes) })
  | _, _ => (false, pool)

/-! ## Sizes -/

/-- Number of blocks. -/
def blockCount (pool : Pool) : Nat :=
  pool.blocks.size

/-- A quantity of blocks, summed over all of them. -/
def total (pool : Pool) (quantity : Block → Nat) : Nat :=
  pool.blocks.foldr (fun block sum => quantity block + sum) 0

/-- Bytes held by the pool: its blocks, the spare references, and its own header. -/
def footprint (pool : Pool) : Nat :=
  pool.total Block.footprint +
    (pool.maxBlocks - pool.blocks.size) * Memory.blockHeaderBytes + Memory.poolHeaderBytes

end Pool

end SlotPool
