import Mathlib.Algebra.Order.BigOperators.Group.List
import Mathlib.Algebra.Order.Floor.Div
import SlotPool.Proofs.Pool.Accounts

/-!
# The high-water mark

A pool adds a block only when all slots of all its blocks are outstanding.  So the number of its
blocks is the number that it was built with, or as many as are needed for the largest number of
addresses that were ever outstanding at once, whichever is larger.  Which slots were taken back,
and in what order, makes no difference.

Main definitions:

- `Config.slotsPerBlock`: the number of slots of every block of a pool.
- `Pool.Filled`: the number of blocks fits the largest number of outstanding addresses so far.

Main results:

- Theorem `Pool.Tracks.length_outstanding_le`: no more addresses are outstanding than there are
  slots, and as many when no block has room.
- Theorem `Pool.Filled.step`: the number of blocks still fits after any careful step.
- Theorem `Pool.blockCount_eq_max`: the number of blocks after every careful history.
-/

namespace SlotPool

/-- Number of slots of every block of a pool of this configuration. -/
def Config.slotsPerBlock (config : Config) : Nat :=
  config.regionBytes / config.objectSize

namespace Pool

open Fresh

variable {memory : Memory} {config : Config} {drawn more : List BlockId} {events : List Event}
variable {pool after : Pool} {ledger : Ledger} {mark : Nat}

/-! ## Counting outstanding addresses -/

/-- Addresses of distinct blocks can be counted block by block. -/
theorem length_eq_sum_filter (ids : List BlockId) (addresses : List Address) (hdistinct : ids.Nodup)
    (hknown : ∀ address ∈ addresses, address.block ∈ ids) :
    addresses.length = (ids.map fun id => (addresses.filter (·.block = id)).length).sum := by
  induction ids generalizing addresses with
  | nil =>
      have hnone : addresses = [] := List.eq_nil_iff_forall_not_mem.2 fun address hmem =>
        List.not_mem_nil (hknown address hmem)
      simp [hnone]
  | cons id rest ih =>
      rcases List.nodup_cons.1 hdistinct with ⟨hnew, hrest⟩
      have hothers := ih (addresses.filter fun address => !decide (address.block = id)) hrest (by
        intro address hmem
        rcases List.mem_filter.1 hmem with ⟨hold, hne⟩
        have hin := hknown address hold
        simp_all)
      have hsame : ∀ other ∈ rest,
          ((addresses.filter fun address => !decide (address.block = id)).filter
            (·.block = other)).length = (addresses.filter (·.block = other)).length := by
        intro other hmem
        rw [List.filter_filter]
        congr 1
        apply List.filter_congr
        intro address _
        by_cases hother : address.block = other
        · have hne : other ≠ id := fun heq => hnew (heq ▸ hmem)
          simp [hother, hne]
        · simp [hother]
      rw [List.map_congr_left hsame] at hothers
      rw [List.map_cons, List.sum_cons, ← hothers]
      exact List.length_eq_length_filter_add _

theorem Tracks.length_outstanding (h : Tracks pool ledger) (hdistinct : pool.ids.Nodup) :
    ledger.outstanding.length =
      (pool.blocks.toList.map fun block => (ledger.offsetsIn block.id).length).sum := by
  rw [length_eq_sum_filter pool.ids ledger.outstanding hdistinct fun address hout =>
    h.known address (h.outstanding_issued address hout), ids, List.map_map]
  congr 1
  apply List.map_congr_left
  intro block _
  simp [Ledger.offsetsIn]

/-- Blocks of a sound pool have the number of slots of its configuration. -/
theorem Sound.capacitySlots_eq (h : Sound config drawn pool) {block : Block}
    (hmem : block ∈ pool.blocks) : block.capacitySlots = config.slotsPerBlock := by
  rw [Block.capacitySlots, Config.slotsPerBlock, (h.sized block hmem).1, (h.sized block hmem).2]

/-- No more addresses are outstanding than there are slots. -/
theorem Tracks.length_outstanding_le (h : Tracks pool ledger) (hsound : Sound config drawn pool)
    (hdistinct : pool.ids.Nodup) :
    ledger.outstanding.length ≤ pool.blocks.size * config.slotsPerBlock := by
  rw [h.length_outstanding hdistinct]
  have hle := List.sum_le_card_nsmul
    (pool.blocks.toList.map fun block => (ledger.offsetsIn block.id).length)
    config.slotsPerBlock (by
      intro count hcount
      rcases List.mem_map.1 hcount with ⟨block, hmem, rfl⟩
      rw [Array.mem_toList_iff] at hmem
      rw [← hsound.capacitySlots_eq hmem]
      exact (h.balanced block hmem).length_le)
  simpa using hle

/-- When no block has room, all slots are outstanding. -/
theorem Tracks.length_outstanding_eq (h : Tracks pool ledger) (hsound : Sound config drawn pool)
    (hdistinct : pool.ids.Nodup) (hfull : ∀ block ∈ pool.blocks, ¬ block.hasRoom = true) :
    ledger.outstanding.length = pool.blocks.size * config.slotsPerBlock := by
  rw [h.length_outstanding hdistinct]
  have heq := List.sum_eq_card_nsmul
    (pool.blocks.toList.map fun block => (ledger.offsetsIn block.id).length)
    config.slotsPerBlock (by
      intro count hcount
      rcases List.mem_map.1 hcount with ⟨block, hmem, rfl⟩
      rw [Array.mem_toList_iff] at hmem
      rw [← hsound.capacitySlots_eq hmem]
      exact (h.balanced block hmem).length_eq_of_not_hasRoom (hfull block hmem))
  simpa using heq

/-! ## The mark -/

/-- One more event raises the mark to the number of addresses outstanding after it. -/
theorem peak_concat (ledger : Ledger) (events : List Event) (event : Event) :
    peak ledger (events ++ [event]) =
      max (peak ledger events) (ledger.after (events ++ [event])).outstanding.length := by
  induction events generalizing ledger with
  | nil => rfl
  | cons first events ih => simp only [List.cons_append, peak, ih, Ledger.after_cons, max_assoc]

/-- The blocks of a pool have at least `mark` slots, and one block less would not have them unless
the pool was built with all of them. -/
structure Filled (config : Config) (mark : Nat) (pool : Pool) : Prop where
  initial_le : config.initialBlocks ≤ pool.blocks.size
  mark_le : mark ≤ pool.blocks.size * config.slotsPerBlock
  lt_mark : config.initialBlocks < pool.blocks.size →
    (pool.blocks.size - 1) * config.slotsPerBlock < mark

namespace Filled

theorem of_create (hcreate : (create memory config).Gives drawn (.ok pool)) :
    Filled config 0 pool := by
  rcases eq_ofBlocks_of_create hcreate with ⟨-, hlength, rfl⟩
  have hsize : (ofBlocks config (drawn.map (Block.fresh · config.objectSize
      config.regionBytes)).toArray).blocks.size = config.initialBlocks := by
    simp [ofBlocks, hlength]
  refine ⟨Nat.le_of_eq hsize.symm, Nat.zero_le _, ?_⟩
  intro hlt
  omega

/-- A higher mark still fits if the blocks have the slots for it. -/
theorem raise (h : Filled config mark pool) {count : Nat}
    (hsize : after.blocks.size = pool.blocks.size)
    (hcount : count ≤ after.blocks.size * config.slotsPerBlock) :
    Filled config (max mark count) after := by
  refine ⟨hsize ▸ h.initial_le, max_le (hsize ▸ h.mark_le) hcount, ?_⟩
  intro hlt
  rw [hsize] at hlt ⊢
  exact Nat.lt_of_lt_of_le (h.lt_mark hlt) (Nat.le_max_left mark count)

/-- The number of blocks still fits the mark after a careful step. -/
theorem step {event : Event} (h : Filled config mark pool) (htracks : Tracks pool ledger)
    (hsound : Sound config drawn pool) (hvalid : config.validate = .ok ())
    (hascending : Ascending (drawn ++ more)) (hcareful : event.action.IsCareful ledger)
    (hstep : Step pool more event after) :
    Filled config (max mark (ledger.note event).outstanding.length) after := by
  have hsound' := hsound.step hvalid hascending hstep
  have hle := (htracks.step hsound hascending hcareful hstep).length_outstanding_le hsound'
    (hsound'.ids_sublist.nodup hascending.nodup)
  cases hstep with
  | taken hindex hblock hnext => exact h.raise (by simp [takeAt, revise]) hle
  | @grew id regionBytes hindex hplan =>
      -- All slots were outstanding, and now there is one more.
      have hall := htracks.length_outstanding_eq hsound
        (hsound.ids_sublist.nodup hascending.left.nodup) (not_hasRoom_of_roomIndex? hindex)
      have hnext : (ledger.note ⟨.allocate, .issued ⟨id, 0⟩⟩).outstanding.length =
          pool.blocks.size * config.slotsPerBlock + 1 := by
        rw [← hall]
        rfl
      have hsize : ((pool.grown id regionBytes).takeAt pool.blocks.size).blocks.size =
          pool.blocks.size + 1 := by
        simp [takeAt, revise, grown]
      have hmark := h.mark_le
      have hinitial := h.initial_le
      rw [hnext, hsize] at hle
      rw [hnext]
      refine ⟨?_, ?_, ?_⟩
      · omega
      · rw [hsize]
        omega
      · intro _
        rw [hsize, Nat.add_sub_cancel]
        omega
  | stuck hindex hmax => exact h.raise rfl hle
  | freed hblock hcontains hpasses => exact h.raise (by simp [revise]) hle
  | refused hrefusal => exact h.raise rfl hle
  | reclaimed => exact h.raise (by simp [reclaim]) hle
  | written hblock hrange => exact h.raise (by simp [revise]) hle
  | unwritten => exact h.raise rfl hle
  | read => exact h.raise rfl hle
  | contains => exact h.raise rfl hle
  | blockIndex => exact h.raise rfl hle
  | elsewhere => exact h.raise rfl hle

/-- What the number of blocks must be in order to fit. -/
theorem size_eq (h : Filled config mark pool) (hpos : 0 < config.slotsPerBlock) :
    pool.blocks.size = max config.initialBlocks (mark ⌈/⌉ config.slotsPerBlock) := by
  have hle : mark ⌈/⌉ config.slotsPerBlock ≤ pool.blocks.size := by
    rw [ceilDiv_le_iff_le_mul hpos, Nat.mul_comm]
    exact h.mark_le
  apply le_antisymm _ (max_le h.initial_le hle)
  rcases Nat.eq_or_lt_of_le h.initial_le with heq | hlt
  · exact heq ▸ Nat.le_max_left _ _
  · have hceil : ¬ mark ⌈/⌉ config.slotsPerBlock ≤ pool.blocks.size - 1 := by
      rw [ceilDiv_le_iff_le_mul hpos, Nat.mul_comm]
      exact Nat.not_le_of_lt (h.lt_mark hlt)
    omega

end Filled

theorem Reached.filled (h : Reached memory config drawn events pool)
    (hcareful : Careful .empty events) : Filled config (peak .empty events) pool := by
  induction h with
  | created _ _ hcreate => exact Filled.of_create hcreate
  | acted hreached hpart hascending hact ih =>
      rcases careful_append_iff.1 hcareful with ⟨hbefore, hlast, -⟩
      rw [peak_concat, Ledger.after_append]
      exact (ih hbefore).step (hreached.tracks hbefore) hreached.sound hreached.valid hascending
        hlast (step_of_act hact)

theorem slotsPerBlock_pos (hvalid : config.validate = .ok ()) : 0 < config.slotsPerBlock := by
  have hwell := Block.wellFormed_of_plan ⟨0⟩ (Config.plan_eq_ok hvalid)
  exact Nat.div_pos hwell.objectSize_le hwell.objectSize_pos

/-- After every careful history a pool has the blocks that it was built with, or as many as its
high-water mark needs if that is more; all of them have the same number of slots. -/
theorem blockCount_eq_max (h : Reached memory config drawn events pool)
    (hcareful : Careful .empty events) :
    (∀ block ∈ pool.blocks, block.capacitySlots = config.slotsPerBlock) ∧
      pool.blockCount =
        max config.initialBlocks (peak .empty events ⌈/⌉ config.slotsPerBlock) := by
  constructor
  · intro block hmem
    exact h.sound.capacitySlots_eq hmem
  · exact (h.filled hcareful).size_eq (slotsPerBlock_pos h.valid)

/-- Three addresses were outstanding at once in the short history, so there are two blocks. -/
theorem blockCount_eq_max_reusePool :
    Reached .ample ⟨8, 1, 16⟩ [⟨1⟩, ⟨2⟩] reuseEvents reusePool ∧ Careful .empty reuseEvents ∧
      peak .empty reuseEvents = 3 ∧ Config.slotsPerBlock ⟨8, 1, 16⟩ = 2 ∧
      reusePool.blockCount = max 1 (3 ⌈/⌉ 2) :=
  ⟨reached_reusePool, by decide, by decide, by decide,
    (blockCount_eq_max reached_reusePool (by decide)).2⟩

end Pool

end SlotPool
