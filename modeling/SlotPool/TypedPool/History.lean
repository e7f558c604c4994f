import SlotPool.TypedPool

/-!
# Histories of a typed pool

What was done with a typed pool and what the pool answered, in order, and the record that
an address should hold according to it.

Main definitions:

- `TypedPool.Action` and `TypedPool.Answer`: one thing done, and what came of it.
- `TypedPool.history`: the events of a list of actions, and the pool afterwards.
- `TypedPool.Event.stored?`: the record that an event stores at an address.
- `TypedPool.recordAfter`: the record that was stored last.
-/

namespace SlotPool.TypedPool

/-- One thing done with a typed pool. -/
inductive Action (layout : Layout) where
  /-- Hand out a slot and store a record in it. -/
  | store (record : Record layout)
  | get (address : Address)
  | set (address : Address) (record : Record layout)
  | free (check : FreeCheck) (address : Address)
  | reclaim
  /-- A block is created elsewhere. -/
  | elsewhere

/-- What a typed pool answers to an action. -/
inductive Answer (layout : Layout) where
  | issued (address : Address)
  /-- Done, with nothing to tell. -/
  | done
  | refused (fault : Fault)
  | truth (value : Bool)
  | record (value : Option (Record layout))

/-- An action with its answer. -/
structure Event (layout : Layout) where
  action : Action layout
  answer : Answer layout

variable {layout : Layout}

/-- The answer to a request to store a record. -/
def Answer.ofStore : Except Fault Address → Answer layout
  | .ok address => issued address
  | .error fault => refused fault

/-- The answer to a free. -/
def Answer.ofFree : Except Fault Unit → Answer layout
  | .ok () => done
  | .error fault => refused fault

/-- Does one thing with a typed pool. -/
def act (memory : Memory) (typed : TypedPool layout) :
    Action layout → Fresh (Answer layout × TypedPool layout)
  | .store record => (typed.store memory record).bind fun (result, typed) =>
      .done (.ofStore result, typed)
  | .get address => .done (.record (typed.get? address), typed)
  | .set address record => .done ((typed.set address record).map .truth id)
  | .free check address => .done ((typed.free check address).map .ofFree id)
  | .reclaim => .done (.done, typed.reclaim)
  | .elsewhere => .draw fun _ => .done (.done, typed)

/-- Does things with a typed pool one after another. -/
def history (memory : Memory) (typed : TypedPool layout) :
    List (Action layout) → Fresh (List (Event layout) × TypedPool layout)
  | [] => .done ([], typed)
  | action :: actions =>
    (typed.act memory.first action).bind fun (answer, typed) =>
      (typed.history memory.rest actions).bind fun (events, typed) =>
        .done (⟨action, answer⟩ :: events, typed)

/-- Doing two lists of things is doing the second with the pool that the first leaves. -/
theorem history_append (memory : Memory) (typed : TypedPool layout)
    (first second : List (Action layout)) :
    typed.history memory (first ++ second) =
      (typed.history memory first).bind fun (before, typed) =>
        (typed.history (memory.after first.length) second).bind fun (after, typed) =>
          .done (before ++ after, typed) := by
  induction first generalizing memory typed with
  | nil => exact (Fresh.bind_done _).symm
  | cons action first ih =>
    simp only [List.cons_append, history, ih, Fresh.bind_bind, Fresh.done_bind, List.length_cons,
      Memory.after_succ]

/-! ## What addresses should hold -/

/-- The record that an event stores at an address, if it stores one there. -/
def Event.stored? (address : Address) : Event layout → Option (Record layout)
  | ⟨.store record, .issued target⟩ => if target = address then some record else none
  | ⟨.set target record, .truth true⟩ => if target = address then some record else none
  | _ => none

/-- The record that some events leave at an address: the one stored last, or `record` before the
first was stored. -/
def recordAfter (address : Address) (record : Record layout) (events : List (Event layout)) :
    Record layout :=
  events.foldl (fun record event => (event.stored? address).getD record) record

end SlotPool.TypedPool
