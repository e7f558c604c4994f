import SlotPool.Pool.History

/-!
# The ledger of a pool

A ledger follows a history from outside.  It knows nothing of blocks and offsets and only
keeps the addresses that were issued since the last reclaim and those of them that are
outstanding.  It gives a verdict on every free of its own.

Main definitions:

- `Ledger.note`: a ledger after one more event.
- `Ledger.verdict`: why freeing an address should be refused, if it should.
- `Careful`: the quick check was only ever asked about outstanding addresses.
- `peak`: the largest number of addresses that were outstanding at once.

Main results:

- Theorems `Ledger.verdict_eq_none_iff`, `Ledger.verdict_eq_doubleFree_iff` and
  `Ledger.verdict_eq_invalidFree_iff`: the three verdicts.
-/

namespace SlotPool.Pool

/-- The addresses handed out since the last reclaim. -/
structure Ledger where
  /-- All of them. -/
  issued : List Address
  /-- Those not taken back. -/
  outstanding : List Address

namespace Ledger

/-- The ledger of a pool with which nothing was done. -/
def empty : Ledger where
  issued := []
  outstanding := []

/-- The ledger after one more event. -/
def note (ledger : Ledger) (event : Event) : Ledger :=
  match event.action, event.answer with
  | .allocate, .issued address =>
    { issued := address :: ledger.issued, outstanding := address :: ledger.outstanding }
  | .free _ address, .done => { ledger with outstanding := ledger.outstanding.erase address }
  | .reclaim, _ => empty
  | _, _ => ledger

/-- The ledger after a history. -/
def after (ledger : Ledger) (events : List Event) : Ledger :=
  events.foldl note ledger

/-- Why freeing an address should be refused, if it should. -/
def verdict (ledger : Ledger) (address : Address) : Option Fault :=
  if address ∈ ledger.outstanding then none
  else if address ∈ ledger.issued then some (.doubleFree address)
  else some (.invalidFree address)

/-- The offsets of the outstanding addresses in one block. -/
def offsetsIn (ledger : Ledger) (id : BlockId) : List UInt32 :=
  (ledger.outstanding.filter (·.block = id)).map (·.offset)

@[simp] theorem after_nil (ledger : Ledger) : ledger.after [] = ledger :=
  rfl

@[simp] theorem after_cons (ledger : Ledger) (event : Event) (events : List Event) :
    ledger.after (event :: events) = (ledger.note event).after events :=
  rfl

theorem after_append (ledger : Ledger) (first second : List Event) :
    ledger.after (first ++ second) = (ledger.after first).after second :=
  List.foldl_append

theorem verdict_eq_none_iff {ledger : Ledger} {address : Address} :
    ledger.verdict address = none ↔ address ∈ ledger.outstanding := by
  unfold verdict
  split
  · simp_all
  · split <;> simp_all

theorem verdict_eq_doubleFree_iff {ledger : Ledger} {address : Address} :
    ledger.verdict address = some (.doubleFree address) ↔
      address ∈ ledger.issued ∧ address ∉ ledger.outstanding := by
  unfold verdict
  split
  · simp_all
  · split <;> simp_all

theorem verdict_eq_invalidFree_iff {ledger : Ledger} {address : Address} :
    ledger.verdict address = some (.invalidFree address) ↔
      address ∉ ledger.issued ∧ address ∉ ledger.outstanding := by
  unfold verdict
  split
  · simp_all
  · split <;> simp_all

end Ledger

/-- An action that a careful caller may ask for: a quick free is for an outstanding address. -/
def Action.IsCareful (ledger : Ledger) : Action → Prop
  | free .quick address => address ∈ ledger.outstanding
  | _ => True

instance (ledger : Ledger) (action : Action) : Decidable (action.IsCareful ledger) := by
  unfold Action.IsCareful
  split <;> infer_instance

/-- A history in which every action was careful at its time. -/
def Careful (ledger : Ledger) : List Event → Prop
  | [] => True
  | event :: events => event.action.IsCareful ledger ∧ Careful (ledger.note event) events

/-- The largest number of addresses outstanding at once, from a ledger on. -/
def peak (ledger : Ledger) : List Event → Nat
  | [] => ledger.outstanding.length
  | event :: events => max ledger.outstanding.length (peak (ledger.note event) events)

end SlotPool.Pool
