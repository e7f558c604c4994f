import SlotPool.Proofs.Pool.Accounts
import SlotPool.Proofs.Pool.Trace

/-!
# The two checks agree on fair use

The quick check and the thorough check look at different things: one asks whether the free stack is
full, the other whether the offset is that of a slot that was handed out and is not free.  A caller
who frees nothing but outstanding addresses and addresses of no block of the pool cannot tell them
apart: answers and pools are the same after every step.

Main definitions:

- `Pool.Action.under`: an action with another check.
- `Pool.Fair`: every address freed is outstanding at its time or lies in no block of the pool.

Main results:

- Theorem `Pool.Tracks.act_under`: one fair action does the same under either check.
- Theorem `Pool.trace_eq_of_fair`: so does a whole list of fair actions.
-/

namespace SlotPool.Pool

open Fresh

variable {birth memory : Memory} {config : Config} {drawn more : List BlockId} {events : List Event}
variable {pool after : Pool} {ledger : Ledger} {action : Action} {answer : Answer}

/-- The same action, with a free examined by the given check. -/
def Action.under (check : FreeCheck) : Action → Action
  | free _ address => free check address
  | action => action

/-- Freeing an address is fair if it is outstanding or lies in no block of the pool. -/
def Action.IsFair (ledger : Ledger) (pool : Pool) : Action → Prop
  | free _ address => address ∈ ledger.outstanding ∨ pool.contains address = false
  | _ => True

instance (ledger : Ledger) (pool : Pool) (action : Action) :
    Decidable (action.IsFair ledger pool) :=
  match action with
  | .free _ _ => inferInstanceAs (Decidable (_ ∨ _))
  | .allocate | .reclaim | .write _ _ | .read _ | .contains _ | .blockIndex _ | .elsewhere =>
    isTrue trivial

/-- Every action of a trace was fair at its time. -/
def Fair (ledger : Ledger) (pool : Pool) : List Action → List (Answer × Pool) → Prop
  | action :: actions, (answer, after) :: moments =>
    action.IsFair ledger pool ∧ Fair (ledger.note ⟨action, answer⟩) after actions moments
  | _, _ => True

/-- A ledger does not mind which check examined a free. -/
@[simp]
theorem Ledger.note_under (ledger : Ledger) (check : FreeCheck) (action : Action)
    (answer : Answer) : ledger.note ⟨action.under check, answer⟩ = ledger.note ⟨action, answer⟩ := by
  cases action with
  | free other address => cases answer <;> rfl
  | _ => rfl

/-- An address that lies in no block is refused by either check. -/
theorem refusal?_of_not_contains {address : Address} (houtside : pool.contains address = false)
    (check : FreeCheck) : pool.refusal? check address = some (.invalidFree address) := by
  have hnone : pool.owner? address = none :=
    Array.find?_eq_none.2 (Array.any_eq_false'.1 houtside)
  rw [refusal?, hnone]

namespace Tracks

/-- A fair action does the same under either check. -/
theorem act_under (h : Tracks pool ledger) (hdistinct : pool.ids.Nodup)
    (hfair : action.IsFair ledger pool) (check other : FreeCheck) :
    pool.act memory (action.under check) = pool.act memory (action.under other) := by
  cases action with
  | free _ address =>
      have hsame : pool.free check address = pool.free other address := by
        rcases hfair with hout | houtside
        · simp only [free, h.refusal?_eq_none hdistinct _ hout]
        · simp only [free, refusal?_of_not_contains houtside]
      simp only [Action.under, act, hsame]
  | _ => rfl

/-- A pool and its ledger still agree after a fair action: it does what it does under the thorough
check, which lets nothing pass that is not outstanding. -/
theorem act_fair (h : Tracks pool ledger) (hsound : Sound config drawn pool)
    (hascending : Ascending (drawn ++ more)) (hfair : action.IsFair ledger pool)
    {check : FreeCheck} (hact : (pool.act memory (action.under check)).Gives more (answer, after)) :
    Tracks after (ledger.note ⟨action, answer⟩) := by
  have hids : pool.ids.Nodup := hsound.ids_sublist.nodup hascending.left.nodup
  rw [h.act_under hids hfair check .thorough] at hact
  have hcareful : (action.under .thorough).IsCareful ledger := by
    cases action <;> trivial
  rw [← ledger.note_under .thorough]
  exact h.step hsound hascending hcareful (step_of_act hact)

end Tracks

/-- From a pool that agrees with its ledger on, fair actions do the same under either check. -/
theorem Reached.trace_under {actions : List Action} {moments : List (Answer × Pool)}
    {check other : FreeCheck} (h : Reached birth config drawn events pool)
    (htracks : Tracks pool ledger) (hascending : Ascending (drawn ++ more))
    (hrun : (pool.trace memory (actions.map (·.under check))).Gives more moments)
    (hfair : Fair ledger pool actions moments) :
    (pool.trace memory (actions.map (·.under other))).Gives more moments := by
  induction actions generalizing birth memory pool ledger drawn more events moments with
  | nil => exact hrun
  | cons action actions ih =>
      rw [List.map_cons, gives_trace_cons_iff] at hrun ⊢
      rcases hrun with ⟨own, rest, answer, after, later, rfl, hact, hlater, rfl⟩
      rcases hfair with ⟨hfirst, hothers⟩
      have hsame := hact
      rw [htracks.act_under h.nodup_ids hfirst check other] at hsame
      rw [← List.append_assoc] at hascending
      have hafter := htracks.act_fair h.sound hascending.left hfirst hact
      exact ⟨own, rest, answer, after, later, rfl, hsame,
        ih (h.acted_join hascending.left hact) hafter hascending hlater hothers, rfl⟩

/-- On a new pool, fair actions give the same answers and leave the same pools under either check,
step by step. -/
theorem trace_eq_of_fair {actions : List Action} {moments : List (Answer × Pool)}
    {check : FreeCheck} (hcreate : (create birth config).Gives drawn (.ok pool))
    (hascending : Ascending (drawn ++ more))
    (hrun : (pool.trace memory (actions.map (·.under check))).Gives more moments)
    (hfair : Fair .empty pool actions moments) (other : FreeCheck) :
    (pool.trace memory (actions.map (·.under other))).Gives more moments :=
  (Reached.created .all hascending.left hcreate).trace_under (Tracks.of_create hcreate) hascending
    hrun hfair

/-! ## A fair trace -/

/-- The pool that is built of one block of two slots. -/
def smallPool : Pool :=
  ofBlocks ⟨8, 1, 16⟩ #[.fresh ⟨1⟩ 8 16]

/-- Outstanding addresses are freed, and addresses outside the region and of other pools; a block is
added, and all is reclaimed. -/
def fairActions : List Action :=
  [.allocate, .allocate, .free .quick ⟨⟨1⟩, 0⟩, .free .quick ⟨⟨1⟩, 16⟩, .free .quick ⟨⟨7⟩, 0⟩,
    .allocate, .allocate, .free .quick ⟨⟨2⟩, 0⟩, .write ⟨⟨1⟩, 8⟩ [5], .read ⟨⟨1⟩, 8⟩, .reclaim]

/-- What these actions do. -/
def fairMoments : List (Answer × Pool) :=
  ((smallPool.trace .ample (fairActions.map (·.under .quick))).runFrom 2).1

instance decidableFair (ledger : Ledger) (pool : Pool) (actions : List Action)
    (moments : List (Answer × Pool)) : Decidable (Fair ledger pool actions moments) :=
  match actions, moments with
  | action :: actions, (answer, after) :: moments =>
    have := decidableFair (ledger.note ⟨action, answer⟩) after actions moments
    inferInstanceAs (Decidable (_ ∧ _))
  | [], _ => isTrue trivial
  | _ :: _, [] => isTrue trivial

theorem gives_smallPool : (create .ample ⟨8, 1, 16⟩).Gives [⟨1⟩] (.ok smallPool) :=
  gives_runFrom (create .ample ⟨8, 1, 16⟩) 1

theorem gives_fairMoments :
    (smallPool.trace .ample (fairActions.map (·.under .quick))).Gives [⟨2⟩] fairMoments := by
  have hnext : ((smallPool.trace .ample (fairActions.map (·.under .quick))).runFrom 2).2 = 3 := by
    decide +kernel
  have hrun : (smallPool.trace .ample (fairActions.map (·.under .quick))).runFrom 2 =
      (fairMoments, 3) :=
    Prod.ext rfl hnext
  exact gives_of_runFrom hrun

/-- The thorough check answers all these frees as the quick one does. -/
theorem trace_eq_of_fair_fairMoments :
    (create .ample ⟨8, 1, 16⟩).Gives [⟨1⟩] (.ok smallPool) ∧ Ascending ([⟨1⟩] ++ [⟨2⟩]) ∧
      (smallPool.trace .ample (fairActions.map (·.under .quick))).Gives [⟨2⟩] fairMoments ∧
      Fair .empty smallPool fairActions fairMoments ∧
      fairMoments.map Prod.fst =
        [.issued ⟨⟨1⟩, 0⟩, .issued ⟨⟨1⟩, 8⟩, .done, .refused (.invalidFree ⟨⟨1⟩, 16⟩),
          .refused (.invalidFree ⟨⟨7⟩, 0⟩), .issued ⟨⟨1⟩, 0⟩, .issued ⟨⟨2⟩, 0⟩, .done, .truth true,
          .bytes (some [5, 0, 0, 0, 0, 0, 0, 0]), .done] ∧
      (smallPool.trace .ample (fairActions.map (·.under .thorough))).Gives [⟨2⟩] fairMoments := by
  have hfair : Fair .empty smallPool fairActions fairMoments := by decide +kernel
  exact ⟨gives_smallPool, by decide, gives_fairMoments, hfair, by decide +kernel,
    trace_eq_of_fair gives_smallPool (by decide) gives_fairMoments hfair .thorough⟩

end SlotPool.Pool
