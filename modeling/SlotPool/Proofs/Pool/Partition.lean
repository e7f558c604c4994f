import SlotPool.Proofs.Pool.Accounts

/-!
# Outstanding and free slots

The main safety property of a pool.  At every moment of a careful history, the slots that a
block has ever handed out since the last reclaim are divided among its outstanding addresses
and its free stack: none is lost, none appears twice, and none is handed out while it is
outstanding.

Main definitions:

- `Pool.Partitioned`: how the slots of a pool stand after a history.

Main results:

- Theorem `Pool.slots_partitioned`: this is how they stand after every careful history.
-/

namespace SlotPool.Pool

variable {memory : Memory} {config : Config} {drawn : List BlockId} {events : List Event}
variable {pool : Pool}

/-- A pool was reached at every moment of its history. -/
theorem Reached.before {first second : List Event}
    (h : Reached memory config drawn (first ++ second) pool) :
    ∃ early middle, Reached memory config early first middle := by
  generalize hevents : first ++ second = events at h
  induction h generalizing second with
  | created hpart hascending hcreate =>
      rcases List.append_eq_nil_iff.1 hevents with ⟨rfl, -⟩
      exact ⟨_, _, Reached.created hpart hascending hcreate⟩
  | acted hreached hpart hascending hact ih =>
      rcases List.eq_nil_or_concat second with rfl | ⟨most, last, rfl⟩
      · rw [List.append_nil] at hevents
        rw [hevents]
        exact ⟨_, _, hreached.acted hpart hascending hact⟩
      · rw [List.concat_eq_append, ← List.append_assoc] at hevents
        exact ih (List.append_inj_left' hevents rfl)

/-- How the slots of a pool of `config` stand after `events`. -/
structure Partitioned (config : Config) (events : List Event) (pool : Pool) : Prop where
  /-- In every block, the outstanding and the free offsets together are `0`, the slot size, twice
  the slot size and so on up to the last one before the cursor, each exactly once. -/
  partition : ∀ block ∈ pool.blocks, ∃ passed, block.bumpCursor = passed * config.objectSize ∧
    (((Ledger.empty.after events).offsetsIn block.id ++ block.freeStack.toList).map
      UInt32.toNat).Perm ((List.range passed).map (· * config.objectSize))
  /-- Outstanding slots lie in the regions of the blocks of the pool. -/
  inside : ∀ address ∈ (Ledger.empty.after events).outstanding, ∃ block ∈ pool.blocks,
    address.block = block.id ∧ address.offset.toNat + config.objectSize ≤ block.regionBytes
  /-- Outstanding slots do not overlap. -/
  apart : (Ledger.empty.after events).outstanding.Pairwise fun first second =>
    first.block = second.block →
      first.offset.toNat + config.objectSize ≤ second.offset.toNat ∨
        second.offset.toNat + config.objectSize ≤ first.offset.toNat
  /-- No address was handed out while it was outstanding. -/
  unissued : ∀ before later address, events = before ++ ⟨.allocate, .issued address⟩ :: later →
    address ∉ (Ledger.empty.after before).outstanding
  /-- Outstanding addresses can be freed under either check. -/
  freeable : ∀ address ∈ (Ledger.empty.after events).outstanding, ∀ check,
    (pool.free check address).1 = .ok ()

/-- After every careful history the slots that the cursors have passed are divided among the
outstanding addresses and the free stacks. -/
theorem slots_partitioned (h : Reached memory config drawn events pool)
    (hcareful : Careful .empty events) : Partitioned config events pool := by
  have htracks := h.tracks hcareful
  have hids := h.nodup_ids
  refine ⟨?_, ?_, ?_, ?_, ?_⟩
  · intro block hmem
    have hbalanced := htracks.balanced block hmem
    have hsize := (h.sound.sized block hmem).1
    rw [← hsize]
    exact ⟨block.bumpCursor / block.objectSize,
      (Nat.div_mul_cancel hbalanced.wellFormed.dvd_cursor).symm, hbalanced.partition⟩
  · intro address hout
    rcases htracks.exists_block (htracks.outstanding_issued address hout) with
      ⟨index, block, hblock, hid⟩
    have hmem := Array.mem_of_getElem? hblock
    have hoffset : address.offset ∈ (Ledger.empty.after events).offsetsIn block.id :=
      Ledger.mem_offsetsIn_iff.2 (hid ▸ hout)
    rw [← (h.sound.sized block hmem).1]
    exact ⟨block, hmem, hid, (htracks.balanced block hmem).add_le_regionBytes hoffset⟩
  · apply List.Pairwise.imp_of_mem _ htracks.nodup_outstanding
    intro first second hfirst hsecond hne hsame
    rcases htracks.exists_block (htracks.outstanding_issued first hfirst) with
      ⟨index, block, hblock, hid⟩
    have hmem := Array.mem_of_getElem? hblock
    rw [← (h.sound.sized block hmem).1]
    apply (htracks.balanced block hmem).disjoint
    · exact Ledger.mem_offsetsIn_iff.2 (hid ▸ hfirst)
    · exact Ledger.mem_offsetsIn_iff.2 (hid ▸ hsame ▸ hsecond)
    · intro hoffset
      apply hne
      cases first
      cases second
      simp_all
  · intro before later address hevents hout
    -- Just after it was handed out, the address would be outstanding twice.
    rw [List.append_cons] at hevents
    subst hevents
    rcases h.before with ⟨early, middle, hmiddle⟩
    have hnodup := (hmiddle.tracks (careful_append_iff.1 hcareful).1).nodup_outstanding
    rw [Ledger.after_append] at hnodup
    exact (List.nodup_cons.1 hnodup).1 hout
  · intro address hout check
    rcases htracks.free_eq hids check hout with ⟨index, block, -, -, hfree⟩
    rw [hfree]

/-- After the short history one slot of each block is outstanding. -/
theorem slots_partitioned_reusePool :
    Reached .ample ⟨8, 1, 16⟩ [⟨1⟩, ⟨2⟩] reuseEvents reusePool ∧ Careful .empty reuseEvents ∧
      (Ledger.empty.after reuseEvents).outstanding = [⟨⟨2⟩, 0⟩, ⟨⟨1⟩, 0⟩] ∧
      Partitioned ⟨8, 1, 16⟩ reuseEvents reusePool :=
  ⟨reached_reusePool, by decide, by decide, slots_partitioned reached_reusePool (by decide)⟩

end SlotPool.Pool
