import SlotPool.Pool.Stats
import SlotPool.TypedPool

/-!
# Objects of a session

A session works on blocks, pools and typed pools side by side.  This file gives
them one type, so that a command need not know which of the three it meets.
-/

namespace SlotPool.Session

/-- A block, a pool, or a typed pool. -/
inductive Object where
  | block (block : Block)
  | pool (pool : Pool)
  | typed (layout : Layout) (typed : TypedPool layout)

/-- How an object is built. -/
inductive Construction where
  | block (objectSize regionBytes : Nat)
  | pool (config : Config)
  | typed (layout : Layout) (config : Config)

/-- Sizes of an object that are shown after every command. -/
inductive Snapshot where
  | block (bumpCursor freeDepth footprint : Nat)
  | pool (blockCount maxBlocks bumpCursors freeDepth footprint : Nat)
deriving DecidableEq

/-- Why no further slot was handed out. -/
inductive Stop where
  /-- A lone block has no slot left. -/
  | exhausted
  | fault (fault : Fault)
deriving DecidableEq

/-- Builds an object. -/
def Construction.build (memory : Memory) : Construction → Fresh (Except Fault Object)
  | block objectSize regionBytes =>
    (Block.create memory objectSize regionBytes).bind fun built => .done (built.map .block)
  | pool config =>
    (Pool.create memory config).bind fun built => .done (built.map .pool)
  | typed layout config =>
    (TypedPool.create memory layout config).bind fun built => .done (built.map (.typed layout))

namespace Object

/-- The pool of an object that has one. -/
def pool? : Object → Option Pool
  | .block _ => none
  | .pool p => some p
  | .typed _ t => some t.pool

/-- The sizes of a pool that are shown after every command. -/
def poolSnapshot (p : Pool) : Snapshot :=
  .pool p.blockCount p.maxBlocks (p.total Block.bumpCursor) (p.total Block.freeDepth) p.footprint

/-- The sizes of an object now. -/
def snapshot : Object → Snapshot
  | .block b => .block b.bumpCursor b.freeDepth b.footprint
  | .pool p => poolSnapshot p
  | .typed _ t => poolSnapshot t.pool

/-! ## Handing out and taking back -/

/-- Hands out one slot; in a typed pool, `fields` are stored in it. -/
def allocate (memory : Memory) (fields : List Nat) : Object → Fresh (Except Stop Address × Object)
  | .block b =>
    match b.allocate with
    | (some address, b) => .done (.ok address, .block b)
    | (none, b) => .done (.error .exhausted, .block b)
  | .pool p =>
    (p.allocate memory).bind fun (result, p) => .done (result.mapError .fault, .pool p)
  | .typed layout t =>
    (t.store memory (Record.ofList layout fields)).bind fun (result, t) =>
      .done (result.mapError .fault, .typed layout t)

/-- Hands out up to `count` slots after those of `issued`, up to the first failure. -/
def allocateMany (memory : Memory) (fields : List Nat) :
    Nat → Array Address → Object → Fresh (Array Address × Option Stop × Object)
  | 0, issued, object => .done (issued, none, object)
  | count + 1, issued, object =>
    (object.allocate memory.first fields).bind fun
      | (.ok address, object) => allocateMany memory.rest fields count (issued.push address) object
      | (.error stop, object) => .done (issued, some stop, object)

/-- Takes a slot back. -/
def free (check : FreeCheck) (address : Address) : Object → Except Fault Unit × Object
  | .block b => (b.free check address).map id .block
  | .pool p => (p.free check address).map id .pool
  | .typed layout t => (t.free check address).map id (.typed layout)

/-- Takes slots back one after another. -/
def freeMany (check : FreeCheck) : List Address → Object → List (Except Fault Unit) × Object
  | [], object => ([], object)
  | address :: addresses, object =>
    match object.free check address with
    | (result, object) => (freeMany check addresses object).map (result :: ·) id

/-- Takes all slots back at once. -/
def reclaim : Object → Object
  | .block b => .block b.reclaim
  | .pool p => .pool p.reclaim
  | .typed layout t => .typed layout t.reclaim

/-! ## Addresses and contents -/

/-- An address that a block of the object contains. -/
def contains (address : Address) : Object → Bool
  | .block b => b.contains address
  | .pool p => p.contains address
  | .typed _ t => t.pool.contains address

/-- The first address of a lone block, or of the block of an index in a pool. -/
def firstAddress? (index : Nat) : Object → Option Address
  | .block b => some b.firstAddress
  | .pool p => p.blocks[index]?.map Block.firstAddress
  | .typed _ t => t.pool.blocks[index]?.map Block.firstAddress

/-- The bytes of a slot. -/
def bytes? (address : Address) : Object → Option (List UInt8)
  | .block b => b.bytes? address
  | .pool p => p.bytes? address
  | .typed _ t => t.pool.bytes? address

/-- Copies bytes to the start of a slot, and tells whether there is such a slot. -/
def write (address : Address) (bytes : List UInt8) : Object → Bool × Object
  | .block b => (b.write address bytes).map id .block
  | .pool p => (p.write address bytes).map id .pool
  | .typed layout t => (t.pool.write address bytes).map id fun p => .typed layout ⟨p⟩

/-- The fields of the record at an address; only typed pools hold records. -/
def get? (address : Address) : Object → Option (List Nat)
  | .block _ => none
  | .pool _ => none
  | .typed _ t => (t.get? address).map Record.toList

/-- Overwrites the record at an address, and tells whether it did. -/
def set (address : Address) (fields : List Nat) : Object → Bool × Object
  | .block b => (false, .block b)
  | .pool p => (false, .pool p)
  | .typed layout t =>
    (t.set address (Record.ofList layout fields)).map id (.typed layout)

/-! ## Sizes and printed forms -/

/-- Bytes held by an object. -/
def footprint : Object → Nat
  | .block b => b.footprint
  | .pool p => p.footprint
  | .typed _ t => t.pool.footprint

/-- Printed form of an object, a typed pool being printed as its pool. -/
def text : Object → String
  | .block b => b.text
  | .pool p => p.text
  | .typed _ t => t.pool.text

/-- Field form of an object, a typed pool being printed as its pool. -/
def fieldText : Object → String
  | .block b => b.fieldText
  | .pool p => p.fieldText
  | .typed _ t => t.pool.fieldText

end Object

end SlotPool.Session
