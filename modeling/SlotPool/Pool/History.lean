import SlotPool.Pool

/-!
# Histories of a pool

A history is what was done with a pool and what the pool answered, in order.  Things that
are done elsewhere show only in that they take block identities, so they have an action of
their own that does nothing else.

Main definitions:

- `Pool.Action` and `Pool.Answer`: one thing done, and what came of it.
- `Pool.act`: the answer to one action, and the pool afterwards.
- `Pool.history`: the events of a list of actions, and the pool afterwards.
- `Pool.Event.overlaid`: what an event leaves in the slot of an address.

Main results:

- Theorem `Pool.history_append`: a history can be cut into two anywhere.
-/

namespace SlotPool.Pool

/-- One thing done with a pool. -/
inductive Action where
  | allocate
  | free (check : FreeCheck) (address : Address)
  | reclaim
  /-- Copy bytes to the start of a slot. -/
  | write (address : Address) (bytes : List UInt8)
  | read (address : Address)
  | contains (address : Address)
  | blockIndex (address : Address)
  /-- A block is created elsewhere. -/
  | elsewhere
deriving DecidableEq

/-- What a pool answers to an action. -/
inductive Answer where
  | issued (address : Address)
  /-- Done, with nothing to tell. -/
  | done
  /-- Not done. -/
  | refused (fault : Fault)
  | truth (value : Bool)
  | bytes (value : Option (List UInt8))
  | index (value : Option Nat)
deriving DecidableEq

/-- An action with its answer. -/
structure Event where
  action : Action
  answer : Answer
deriving DecidableEq

/-- The answer to a request for a slot. -/
def Answer.ofAllocate : Except Fault Address → Answer
  | .ok address => issued address
  | .error fault => refused fault

/-- The answer to a free. -/
def Answer.ofFree : Except Fault Unit → Answer
  | .ok () => done
  | .error fault => refused fault

/-- Does one thing with a pool. -/
def act (memory : Memory) (pool : Pool) : Action → Fresh (Answer × Pool)
  | .allocate => (pool.allocate memory).bind fun (result, pool) =>
      .done (.ofAllocate result, pool)
  | .free check address => .done ((pool.free check address).map .ofFree id)
  | .reclaim => .done (.done, pool.reclaim)
  | .write address bytes => .done ((pool.write address bytes).map .truth id)
  | .read address => .done (.bytes (pool.bytes? address), pool)
  | .contains address => .done (.truth (pool.contains address), pool)
  | .blockIndex address => .done (.index (pool.blockIndex? address), pool)
  | .elsewhere => .draw fun _ => .done (.done, pool)

/-- Does things with a pool one after another. -/
def history (memory : Memory) (pool : Pool) : List Action → Fresh (List Event × Pool)
  | [] => .done ([], pool)
  | action :: actions =>
    (pool.act memory.first action).bind fun (answer, pool) =>
      (pool.history memory.rest actions).bind fun (events, pool) =>
        .done (⟨action, answer⟩ :: events, pool)

@[simp] theorem history_nil (memory : Memory) (pool : Pool) :
    pool.history memory [] = .done ([], pool) :=
  rfl

theorem history_cons (memory : Memory) (pool : Pool) (action : Action) (actions : List Action) :
    pool.history memory (action :: actions) =
      (pool.act memory.first action).bind fun (answer, pool) =>
        (pool.history memory.rest actions).bind fun (events, pool) =>
          .done (⟨action, answer⟩ :: events, pool) :=
  rfl

/-- Doing two lists of things is doing the second with the pool that the first leaves. -/
theorem history_append (memory : Memory) (pool : Pool) (first second : List Action) :
    pool.history memory (first ++ second) =
      (pool.history memory first).bind fun (before, pool) =>
        (pool.history (memory.after first.length) second).bind fun (after, pool) =>
          .done (before ++ after, pool) := by
  induction first generalizing memory pool with
  | nil => exact (Fresh.bind_done _).symm
  | cons action first ih =>
    simp only [List.cons_append, history_cons, ih, Fresh.bind_bind, Fresh.done_bind,
      List.length_cons, Memory.after_succ]

/-! ## What slots should hold -/

/-- A slot after bytes were copied over its start. -/
def overlay (bytes slot : List UInt8) : List UInt8 :=
  bytes.take slot.length ++ slot.drop bytes.length

/-- The slot of an address after an event: a write that succeeded there lies over what it held. -/
def Event.overlaid (address : Address) (slot : List UInt8) : Event → List UInt8
  | ⟨.write target bytes, .truth true⟩ => if target = address then overlay bytes slot else slot
  | _ => slot

/-- The slot of an address after some events, all zeros before the first of them. -/
def slotAfter (objectSize : Nat) (address : Address) (events : List Event) : List UInt8 :=
  events.foldl (Event.overlaid address) (List.replicate objectSize 0)

end SlotPool.Pool
