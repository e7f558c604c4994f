import SlotPool.Pool
import SlotPool.Record

/-!
# Typed pools

A typed pool stores one record per slot.  A record is written when its slot is
handed out, can be read and overwritten through its address, and stays readable
after the slot is taken back, until another record is written there.

Main definitions:

- `TypedPool.create`: a pool whose object size is the size of the record.
- `TypedPool.store`: hands out a slot and writes a record into it.
- `TypedPool.get?` and `TypedPool.set`: the record at an address.
-/

namespace SlotPool

/-- A pool of slots that hold records of one layout. -/
structure TypedPool (layout : Layout) where
  pool : Pool

namespace TypedPool

variable {layout : Layout}

/-- Builds a pool whose configured object size is the size of its records. -/
def create (memory : Memory) (layout : Layout) (config : Config) :
    Fresh (Except Fault (TypedPool layout)) :=
  if config.objectSize = layout.size then
    (Pool.create memory config).bind fun
      | .error fault => .done (.error fault)
      | .ok pool => .done (.ok ⟨pool⟩)
  else
    .done (.error (.invalidConfig (.recordSizeMismatch config.objectSize layout.size)))

/-- Hands out a slot and writes a record into it.  If the address handed out is not that of a
slot, nothing is written and the address is reported; it stays handed out. -/
def store (memory : Memory) (typed : TypedPool layout) (record : Record layout) :
    Fresh (Except Fault Address × TypedPool layout) :=
  (typed.pool.allocate memory).bind fun
    | (.error fault, pool) => .done (.error fault, ⟨pool⟩)
    | (.ok address, pool) =>
      match pool.write address record.encode with
      | (true, pool) => .done (.ok address, ⟨pool⟩)
      | (false, pool) => .done (.error (.invalidFree address), ⟨pool⟩)

/-- The record at an address. -/
def get? (typed : TypedPool layout) (address : Address) : Option (Record layout) :=
  (typed.pool.bytes? address).map layout.decode

/-- Overwrites the record at an address, and tells whether the address is that of a slot. -/
def set (typed : TypedPool layout) (address : Address) (record : Record layout) :
    Bool × TypedPool layout :=
  match typed.pool.write address record.encode with
  | (stored, pool) => (stored, ⟨pool⟩)

/-- Takes a slot back. -/
def free (check : FreeCheck) (typed : TypedPool layout) (address : Address) :
    Except Fault Unit × TypedPool layout :=
  match typed.pool.free check address with
  | (result, pool) => (result, ⟨pool⟩)

/-- Takes all slots back at once. -/
def reclaim (typed : TypedPool layout) : TypedPool layout :=
  ⟨typed.pool.reclaim⟩

end TypedPool

end SlotPool
