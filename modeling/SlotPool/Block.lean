import SlotPool.Fresh
import SlotPool.Memory
import SlotPool.Region

/-!
# Blocks

A block is one region cut into equal slots.  Slots that were never used are
handed out in ascending order by a cursor; after the cursor has walked the whole
region, freed slots are handed out again, the one freed last first.

An address can be freed in two ways.  The *quick* check only refuses addresses
outside the region and frees that would overfill the free stack.  The *thorough*
check refuses every address that is not outstanding.

Main definitions:

- `Block.create`: a block of a given slot size and region.
- `Block.slotRange?`: where the slot of an address lies in the region.
- `Block.nextOffset?` and `Block.take`: the slot handed out next, and the block
  after it is handed out.
- `Block.refusal?` and `Block.pushFree`: why a free is refused, and the block
  after a free that is not.
-/

namespace SlotPool

/-- The sum of two sizes, unless it leaves 64 bits. -/
def sizeSum? (left right : Nat) : Option Nat :=
  if left + right < UInt64.size then some (left + right) else none

/-- How carefully an address is examined before its slot is taken back. -/
inductive FreeCheck where
  /-- Refuse only addresses outside the region and frees beyond a full stack. -/
  | quick
  /-- Refuse every address that is not outstanding. -/
  | thorough
deriving DecidableEq

/-- A region cut into slots of `objectSize` bytes. -/
structure Block where
  id : BlockId
  objectSize : Nat
  /-- Length of the region, a whole number of slots. -/
  regionBytes : Nat
  /-- What the slots hold. -/
  contents : Region
  /-- Offset of the first slot that was never handed out since the last reclaim. -/
  bumpCursor : Nat
  /-- Offsets taken back, the last one at the end. -/
  freeStack : Array UInt32
  /-- Entries for which the free stack has storage. -/
  freeReserved : Nat

namespace Block

/-! ## Sizes -/

/-- The region a block gets for `requested` bytes: a whole number of slots, and at least one. -/
def regionFor (objectSize requested : Nat) : Nat :=
  max objectSize (requested - requested % objectSize)

/-- Number of slots of the region. -/
def capacitySlots (block : Block) : Nat :=
  block.regionBytes / block.objectSize

/-- Number of slots waiting to be handed out again. -/
def freeDepth (block : Block) : Nat :=
  block.freeStack.size

/-- Bytes held by the block: its header, its region, and the storage of its free stack. -/
def footprint (block : Block) : Nat :=
  Memory.blockHeaderBytes + block.regionBytes + block.freeReserved * Memory.offsetBytes

/-! ## Creation -/

/-- Checks a slot size and a requested region, and gives the length of the region to build. -/
def plan (objectSize requested : Nat) : Except ConfigFault Nat :=
  if objectSize = 0 then
    .error .zeroSlotSize
  else if regionFor objectSize requested < Memory.offsetLimit then
    .ok (regionFor objectSize requested)
  else
    .error (.unaddressableRegion (regionFor objectSize requested))

/-- Reserves the region and a free stack that can hold every slot. -/
def reserve (memory : Memory) (objectSize regionBytes : Nat) : Except Fault Unit := do
  memory.first.reserve regionBytes
  memory.rest.reserve (regionBytes / objectSize * Memory.offsetBytes)

/-- A block none of whose slots was ever handed out. -/
def fresh (id : BlockId) (objectSize regionBytes : Nat) : Block where
  id := id
  objectSize := objectSize
  regionBytes := regionBytes
  contents := .zero
  bumpCursor := 0
  freeStack := #[]
  freeReserved := regionBytes / objectSize

/-- Builds a block of `objectSize` byte slots out of `requested` bytes.  An identity is drawn
only when everything else has succeeded. -/
def create (memory : Memory) (objectSize requested : Nat) : Fresh (Except Fault Block) :=
  match plan objectSize requested with
  | .error cause => .done (.error (.invalidConfig cause))
  | .ok regionBytes =>
    match reserve memory objectSize regionBytes with
    | .error fault => .done (.error fault)
    | .ok () => .draw fun id => .done (.ok (fresh id objectSize regionBytes))

/-! ## Addresses -/

/-- The address of an offset of this block. -/
def addressAt (block : Block) (offset : UInt32) : Address where
  block := block.id
  offset := offset

/-- The address of the first slot. -/
def firstAddress (block : Block) : Address :=
  block.addressAt 0

/-- An address that points into the region of this block. -/
def contains (block : Block) (address : Address) : Bool :=
  address.block == block.id && decide (address.offset.toNat < block.regionBytes)

/-- The place where the slot of an address starts, if the address is that of a slot. -/
def slotStart? (block : Block) (address : Address) : Option Nat :=
  if block.contains address && address.offset.toNat % block.objectSize == 0 then
    some address.offset.toNat
  else
    none

/-- Where the slot of an address starts and where it stops, if all of it lies in the region. -/
def slotRange? (block : Block) (address : Address) : Option (Nat × Nat) := do
  let start ← block.slotStart? address
  let stop ← sizeSum? start block.objectSize
  if stop ≤ block.regionBytes then
    return (start, stop)
  else
    none

/-! ## Handing out and taking back -/

/-- A slot was never handed out, or one was taken back. -/
def hasRoom (block : Block) : Bool :=
  decide (block.bumpCursor < block.regionBytes) || !block.freeStack.isEmpty

/-- A block that has nothing to hand out. -/
def isExhausted (block : Block) : Bool :=
  !block.hasRoom

/-- The offset handed out next: the cursor while it is inside the region, then the last one
freed. -/
def nextOffset? (block : Block) : Option UInt32 :=
  if block.bumpCursor < block.regionBytes then some block.bumpCursor.toUInt32
  else block.freeStack.back?

/-- The address handed out next. -/
def nextAddress? (block : Block) : Option Address :=
  block.nextOffset?.map block.addressAt

/-- The block after its next slot is handed out. -/
def take (block : Block) : Block :=
  if block.bumpCursor < block.regionBytes then
    { block with bumpCursor := block.bumpCursor + block.objectSize }
  else
    { block with freeStack := block.freeStack.pop }

/-- Hands out one slot, if there is one. -/
def allocate (block : Block) : Option Address × Block :=
  match block.nextAddress? with
  | some address => (some address, block.take)
  | none => (none, block)

/-- Why freeing an address is refused, if it is. -/
def refusal? (check : FreeCheck) (block : Block) (address : Address) : Option Fault :=
  match check with
  | .quick =>
    if !block.contains address then some (.invalidFree address)
    else if block.freeStack.size = block.capacitySlots then some (.doubleFree address)
    else none
  | .thorough =>
    if !block.contains address || address.offset.toNat % block.objectSize != 0 ||
        decide (block.bumpCursor ≤ address.offset.toNat) then
      some (.invalidFree address)
    else if block.freeStack.contains address.offset then some (.doubleFree address)
    else none

/-- Storage of a stack that has come to hold `entries`, after storage for `reserved`: storage that
no longer suffices is doubled, and is never smaller than four entries. -/
def grownStorage (entries reserved : Nat) : Nat :=
  if entries ≤ reserved then reserved else max (max (2 * reserved) entries) 4

/-- The block with one more offset on its free stack. -/
def pushFree (block : Block) (offset : UInt32) : Block :=
  let freeStack := block.freeStack.push offset
  { block with freeStack, freeReserved := grownStorage freeStack.size block.freeReserved }

/-- Takes a slot back, unless the check refuses its address. -/
def free (check : FreeCheck) (block : Block) (address : Address) : Except Fault Unit × Block :=
  match block.refusal? check address with
  | some fault => (.error fault, block)
  | none => (.ok (), block.pushFree address.offset)

/-- Takes all slots back at once.  What they hold stays, and so does the storage. -/
def reclaim (block : Block) : Block :=
  { block with bumpCursor := 0, freeStack := #[] }

/-! ## Contents -/

/-- The bytes of a slot. -/
def bytes? (block : Block) (address : Address) : Option (List UInt8) :=
  (block.slotRange? address).map fun (start, stop) => block.contents.slice start (stop - start)

/-- The block after bytes were copied to the start of a slot; what does not fit is cut off. -/
def overwrite (block : Block) (start : Nat) (bytes : List UInt8) : Block :=
  { block with contents := block.contents.write start (bytes.take block.objectSize) }

/-- Copies bytes to the start of a slot, and tells whether the address is that of a slot. -/
def write (block : Block) (address : Address) (bytes : List UInt8) : Bool × Block :=
  match block.slotRange? address with
  | some (start, _) => (true, block.overwrite start bytes)
  | none => (false, block)

end Block

end SlotPool
