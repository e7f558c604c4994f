import SlotPool.Pool

/-!
# Places

Block identities depend on what else is going on, but the index of a block in its own
pool does not.  A *place* names a slot by that index and an offset, so it means the
same whichever identities the blocks of the pool were given.

Main definitions:

- `Pool.place?`: the place of an address that a block of the pool contains.
- `Pool.addressAt?`: the address of a place.
-/

namespace SlotPool

/-- A slot as its pool's owner sees it: the index of the block and the offset in it. -/
structure Place where
  block : Nat
  offset : UInt32
deriving DecidableEq, Inhabited

namespace Pool

/-- The place of an address. -/
def place? (pool : Pool) (address : Address) : Option Place :=
  (pool.blockIndex? address).map fun index => ⟨index, address.offset⟩

/-- The address of a place. -/
def addressAt? (pool : Pool) (place : Place) : Option Address :=
  pool.blocks[place.block]?.map (·.addressAt place.offset)

end Pool

end SlotPool
