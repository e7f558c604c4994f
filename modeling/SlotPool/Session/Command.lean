import SlotPool.Session.Object

/-!
# Commands and replies of a session

A command asks something of the object it names, or works on addresses alone.  Addresses
are referred to by their rank in the list of all addresses seen so far; a rank
beyond the end of the list starts over at its beginning.

Main definitions:

- `Request`: what is asked of one object, over ranks or over addresses.
- `Request.resolve`: a request with its ranks replaced by addresses.
- `Command` and `Reply`: what a session is told and what it answers.
-/

namespace SlotPool.Session

/-- What is asked of one object; `α` is how the request refers to an address. -/
inductive Request (α : Type) where
  /-- Hand out up to `count` slots; in a typed pool, store `fields` in each. -/
  | allocate (count : Nat) (fields : List Nat)
  /-- Take the slot of an address back, by the thorough check or by the object's own one. -/
  | free (thorough : Bool) (address : α)
  /-- Take the slots of several addresses back. -/
  | freeAll (thorough : Bool) (addresses : List α)
  | reclaim
  /-- Give the object up. -/
  | drop
  | contains (address : α)
  | blockIndex (address : α)
  /-- What a slot holds. -/
  | bytes (address : α)
  /-- Copy bytes to the start of a slot. -/
  | write (address : α) (bytes : List UInt8)
  | get (address : α)
  | set (address : α) (fields : List Nat)
  /-- The first address of a block. -/
  | first (block : Nat)
  | footprint
  | stats
  /-- All sizes and, of every block, the first address and whether it is exhausted. -/
  | details
  | text
  | fieldText

/-- The address of a rank, counted around the list. -/
def addressOf? (addresses : Array Address) (rank : Nat) : Option Address :=
  addresses[rank % addresses.size]?

/-- Replaces ranks by addresses.  This fails exactly if the request is about addresses and the
list of addresses is empty. -/
def Request.resolve (addresses : Array Address) : Request Nat → Option (Request Address)
  | .allocate count fields => some (.allocate count fields)
  | .free thorough rank => (addressOf? addresses rank).map (.free thorough)
  | .freeAll thorough ranks =>
    if addresses.isEmpty then none
    else some (.freeAll thorough (ranks.filterMap (addressOf? addresses)))
  | .reclaim => some .reclaim
  | .drop => some .drop
  | .contains rank => (addressOf? addresses rank).map .contains
  | .blockIndex rank => (addressOf? addresses rank).map .blockIndex
  | .bytes rank => (addressOf? addresses rank).map .bytes
  | .write rank data => (addressOf? addresses rank).map (.write · data)
  | .get rank => (addressOf? addresses rank).map .get
  | .set rank fields => (addressOf? addresses rank).map (.set · fields)
  | .first index => some (.first index)
  | .footprint => some .footprint
  | .stats => some .stats
  | .details => some .details
  | .text => some .text
  | .fieldText => some .fieldText

/-- What a session is told to do. -/
inductive Instruction where
  | create (construction : Construction)
  /-- Ask something of the object that the command names. -/
  | ask (request : Request Nat)
  /-- Note an address that nobody handed out. -/
  | forge (address : Address)
  | print (address : Nat)
  | compare (first second : Nat)

/-- What a session is told.  Every command may name an object, whose sizes are then shown, even if
what is to be done does not concern it. -/
structure Command where
  /-- The number of the object named, if one is. -/
  object : Option Nat
  instruction : Instruction

/-- What a session answers. -/
inductive Reply where
  /-- Done, with nothing to tell. -/
  | ok
  | refused (fault : Fault)
  /-- One outcome for every address of a list. -/
  | outcomes (results : List (Except Fault Unit))
  /-- The addresses handed out, and why there are not more. -/
  | issued (addresses : Array Address) (stop : Option Stop)
  | boolean (value : Bool)
  | number (value : Nat)
  | index (value : Option Nat)
  | bytes (value : Option (List UInt8))
  | fields (value : Option (List Nat))
  | address (value : Option Address)
  | ordering (value : Ordering)
  | text (value : String)
  /-- The short form and the field form of an address. -/
  | forms (short fields : String)
  | blockStats (stats : Block.Stats)
  | blockDetails (details : Block.Details)
  | poolStats (stats : Pool.Stats)
  | poolDetails (stats : Pool.Stats) (blocks : Array Block.Details)
  | noAddress
  /-- The object was never built, could not be built, or was given up. -/
  | noObject
  /-- Objects of this kind cannot be asked this. -/
  | unsupported

end SlotPool.Session
