import SlotPool.Pool.Stats

/-!
# The inspector's workload

The workload hands out slots and then takes a spread of them back.  The addresses in
use stand in an array; pruning walks around it in steps of two, each address taken
back being replaced by the last one of the array.

Main definitions:

- `Workload.fill`: handing out slots.
- `Workload.prune`: taking a spread of them back.
- `Workload.run`: both on a new pool.
-/

namespace SlotPool.Inspector

/-- A pool at work, with the addresses in use. -/
structure Workload where
  pool : Pool
  /-- Addresses handed out and not taken back. -/
  live : Array Address
  /-- Number of addresses taken back. -/
  freed : Nat
  /-- Where the next pruning step starts. -/
  index : Nat

/-- How the workload ended. -/
inductive Outcome where
  | refused (fault : Fault)
  /-- The array of addresses could not be reserved. -/
  | crashed
  /-- All was done; the footprint of the pool before the work is kept. -/
  | finished (initialFootprint : Nat) (work : Workload)

namespace Workload

/-- Bytes that an address takes up in the array of addresses. -/
def addressBytes : Nat :=
  16

/-- A pool with nothing in use. -/
def idle (pool : Pool) : Workload where
  pool := pool
  live := #[]
  freed := 0
  index := 0

/-- Takes an element out of an array and puts the last one in its place. -/
def swapRemove {α : Type} (items : Array α) (i : Nat) (h : i < items.size) : α × Array α :=
  (items[i], (items.swap i (items.size - 1) h (by omega)).pop)

/-- Hands out `count` slots. -/
def fill (memory : Memory) : (count : Nat) → Workload → Fresh (Except Fault Workload)
  | 0, work => .done (.ok work)
  | count + 1, ⟨pool, live, freed, index⟩ =>
    (pool.allocate memory.first).bind fun
      | (.ok address, pool) => fill memory.rest count ⟨pool, live.push address, freed, index⟩
      | (.error fault, _) => .done (.error fault)

/-- Takes up to `count` slots back, stopping when none is in use. -/
def prune (check : FreeCheck) : (count : Nat) → Workload → Except Fault Workload
  | 0, work => .ok work
  | count + 1, ⟨pool, live, freed, index⟩ =>
    if h : 0 < live.size then
      let index := (index + 2) % live.size
      match swapRemove live index (Nat.mod_lt _ h) with
      | (address, live) =>
        match pool.free check address with
        | (.ok (), pool) => prune check count ⟨pool, live, freed + 1, index⟩
        | (.error fault, _) => .error fault
    else
      .ok ⟨pool, live, freed, index⟩

/-- Hands out `allocs` slots of a new pool and takes `frees` of them back. -/
def run (memory : Memory) (check : FreeCheck) (config : Config) (allocs frees : Nat) :
    Fresh Outcome :=
  (Pool.create memory.first config).bind fun
    | .error fault => .done (.refused fault)
    | .ok pool =>
      if (memory.turn 1).grants (allocs * addressBytes) then
        let initialFootprint := pool.footprint
        (fill (memory.after 2) allocs (idle pool)).bind fun
          | .error fault => .done (.refused fault)
          | .ok work =>
            match prune check frees work with
            | .error fault => .done (.refused fault)
            | .ok work => .done (.finished initialFootprint work)
      else
        .done .crashed

@[simp] theorem size_swapRemove {α : Type} (items : Array α) (i : Nat) (h : i < items.size) :
    (swapRemove items i h).2.size = items.size - 1 := by
  simp [swapRemove]

end Workload

end SlotPool.Inspector
