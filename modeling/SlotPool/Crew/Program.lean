import SlotPool.Pool.Place

/-!
# Programs over a private pool

A worker that owns a pool uses it only by handing out slots, taking them back,
writing bytes, and reclaiming.  A `Program` is such a use: what is asked of the
pool next, and how to go on with each answer.  Slots are named by *places*, the
index of a block in the worker's own pool and an offset, so a program cannot see
block identities.

Main definitions:

- `Program`: a use of a private pool that ends with a value or in a crash.
- `Program.run`: the program carried out on a pool.
-/

namespace SlotPool

universe u v

/-- Why a slot was not taken back. -/
inductive Refusal where
  /-- The place is not one that could have been handed out. -/
  | invalid
  /-- The place is free already. -/
  | double
deriving DecidableEq

/-- A use of a private pool. -/
inductive Program (α : Type u) where
  | done (value : α)
  | crash
  /-- Ask for a slot; nothing is given if the pool reports a fault. -/
  | allocate (next : Option Place → Program α)
  | free (place : Place) (next : Except Refusal Unit → Program α)
  /-- Copy bytes to the start of a slot; the answer tells whether there is such a slot. -/
  | write (place : Place) (bytes : List UInt8) (next : Bool → Program α)
  | reclaim (next : Program α)

namespace Program

variable {α β : Type u}

/-- Goes on with `f` after a program. -/
protected def bind : Program α → (α → Program β) → Program β
  | done value, f => f value
  | crash, _ => crash
  | allocate next, f => allocate fun place => (next place).bind f
  | free place next, f => free place fun result => (next result).bind f
  | write place bytes next, f => write place bytes fun written => (next written).bind f
  | reclaim next, f => reclaim (next.bind f)

instance : Monad Program where
  pure := done
  bind := Program.bind

/-- A program that has a value already, or crashes. -/
def ofOption : Option α → Program α
  | some value => done value
  | none => crash

/-- What a program is told of the outcome of a free. -/
def refusalOf : Except Fault Unit → Except Refusal Unit
  | .ok () => .ok ()
  | .error (.doubleFree _) => .error .double
  | .error _ => .error .invalid

/-- Carries a program out on a pool.  The value is missing if the program crashed. -/
def run (memory : Memory) (check : FreeCheck) : Program α → Pool → Fresh (Option α × Pool)
  | done value, pool => .done (some value, pool)
  | crash, pool => .done (none, pool)
  | allocate next, pool =>
    (pool.allocate memory.first).bind fun (result, pool) =>
      (next (result.toOption.bind pool.place?)).run memory.rest check pool
  | free place next, pool =>
    match pool.addressAt? place with
    | some address =>
      match pool.free check address with
      | (result, pool) => (next (refusalOf result)).run memory.rest check pool
    | none => (next (.error .invalid)).run memory.rest check pool
  | write place bytes next, pool =>
    match pool.addressAt? place with
    | some address =>
      match pool.write address bytes with
      | (written, pool) => (next written).run memory.rest check pool
    | none => (next false).run memory.rest check pool
  | reclaim next, pool => next.run memory.rest check pool.reclaim

end Program

end SlotPool
