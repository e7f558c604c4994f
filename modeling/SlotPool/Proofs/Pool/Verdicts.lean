import SlotPool.Proofs.Pool.Accounts

/-!
# Verdicts on frees

The thorough check of a pool looks at the numbers of a block: at the alignment of an offset, at
the cursor, and at the free stack.  After every careful history its answers are those of the
ledger, which looks at nothing but the history.

Main definitions:

- `Pool.AnswersAs`: a pool answers a free of an address under the thorough check as a ledger
  does.

Main results:

- Theorem `Pool.free_thorough_eq`: what the check answers, in terms of the verdict.
- Theorem `Pool.free_answersAs_ledger`: a pool answers as its ledger, for every address.
-/

namespace SlotPool.Pool

variable {memory : Memory} {config : Config} {drawn : List BlockId} {events : List Event}
variable {pool : Pool} {ledger : Ledger} {address : Address}

/-- A free under the thorough check succeeds, or it fails with the verdict of the ledger. -/
theorem free_thorough_eq (h : Tracks pool ledger) (hdistinct : pool.ids.Nodup)
    (address : Address) :
    (pool.free .thorough address).1 =
      match ledger.verdict address with
      | none => .ok ()
      | some fault => .error fault := by
  rw [free, h.refusal?_thorough hdistinct address]
  cases ledger.verdict address with
  | none => rfl
  | some fault => rfl

theorem free_eq_of_error {check : FreeCheck} {fault : Fault}
    (hfails : (pool.free check address).1 = .error fault) :
    (pool.free check address).2 = pool := by
  rcases hfree : pool.free check address with ⟨result, after⟩
  rw [hfree] at hfails
  rcases free_cases hfree with ⟨cause, -, -, rfl⟩ | ⟨index, block, -, -, -, rfl, -⟩
  · rfl
  · contradiction

/-- How a pool answers a free of an address under the thorough check when it knows exactly what
a ledger knows. -/
structure AnswersAs (ledger : Ledger) (pool : Pool) (address : Address) : Prop where
  /-- Outstanding addresses are taken back. -/
  ok_iff : (pool.free .thorough address).1 = .ok () ↔ address ∈ ledger.outstanding
  /-- Addresses handed out and taken back again are told apart. -/
  doubleFree_iff : (pool.free .thorough address).1 = .error (.doubleFree address) ↔
    address ∈ ledger.issued ∧ address ∉ ledger.outstanding
  /-- All others were not handed out. -/
  invalidFree_iff : (pool.free .thorough address).1 = .error (.invalidFree address) ↔
    address ∉ ledger.issued
  /-- Taking back is one push on the free stack of the block of the address. -/
  pushed : (pool.free .thorough address).1 = .ok () →
    ∃ (index : Nat) (block : Block), pool.blocks[index]? = some block ∧ address.block = block.id ∧
      (pool.free .thorough address).2 =
        { pool with
          blocks := pool.blocks.modify index fun block =>
            { block with freeStack := block.freeStack.push address.offset } }
  /-- Nothing else changes the pool. -/
  unchanged : (pool.free .thorough address).1 ≠ .ok () → (pool.free .thorough address).2 = pool

/-- After every careful history a pool answers a free under the thorough check as its ledger
does, whatever address it is given. -/
theorem free_answersAs_ledger (h : Reached memory config drawn events pool)
    (hcareful : Careful .empty events) (address : Address) :
    AnswersAs (Ledger.empty.after events) pool address := by
  have htracks := h.tracks hcareful
  have hids := h.nodup_ids
  generalize Ledger.empty.after events = ledger at htracks
  have hanswer := free_thorough_eq htracks hids address
  have hok : (pool.free .thorough address).1 = .ok () ↔ address ∈ ledger.outstanding := by
    rw [hanswer, ← Ledger.verdict_eq_none_iff]
    cases ledger.verdict address <;> simp
  refine ⟨hok, ?_, ?_, ?_, ?_⟩
  · rw [hanswer, ← Ledger.verdict_eq_doubleFree_iff]
    cases ledger.verdict address <;> simp
  · have hforeign : address ∉ ledger.issued → address ∉ ledger.outstanding := by
      intro hissued hout
      exact hissued (htracks.outstanding_issued address hout)
    rw [hanswer, ← and_iff_left_of_imp hforeign, ← Ledger.verdict_eq_invalidFree_iff]
    cases ledger.verdict address <;> simp
  · intro hfreed
    rcases htracks.free_eq hids .thorough (hok.1 hfreed) with ⟨index, block, hblock, hid, hfree⟩
    rw [hfree]
    exact ⟨index, block, hblock, hid, rfl⟩
  · intro hrefused
    cases hresult : (pool.free .thorough address).1 with
    | ok _ => exact absurd hresult hrefused
    | error fault => exact free_eq_of_error hresult

/-- After the short history the second slot of the first block cannot be taken back again. -/
theorem free_answersAs_ledger_reusePool :
    Reached .ample ⟨8, 1, 16⟩ [⟨1⟩, ⟨2⟩] reuseEvents reusePool ∧ Careful .empty reuseEvents ∧
      (reusePool.free .thorough ⟨⟨1⟩, 8⟩).1 = .error (.doubleFree ⟨⟨1⟩, 8⟩) ∧
      AnswersAs (Ledger.empty.after reuseEvents) reusePool ⟨⟨1⟩, 8⟩ := by
  have hanswers := free_answersAs_ledger reached_reusePool (by decide) ⟨⟨1⟩, 8⟩
  exact ⟨reached_reusePool, by decide, hanswers.doubleFree_iff.2 (by decide), hanswers⟩

end SlotPool.Pool
