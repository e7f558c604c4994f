import Mathlib.Order.Bounds.Basic
import SlotPool.Proofs.Block.Storage
import SlotPool.Proofs.Pool.HighWater
import SlotPool.Proofs.Pool.Integrity
import SlotPool.Proofs.Pool.Twins

/-!
# The memory that a pool holds

A pool holds its blocks, an array of references to them, and its own header.  The array is doubled
when it is full, so that its capacity is always the least that doubling gives and that suffices.
Adding a block uses up a spare reference, but a block is larger than a reference, and doubling adds
spare references; so a pool never holds less than it did before.

Main definitions:

- `Config.capacitiesFor`: the capacities that doubling gives and that suffice for some blocks.
- `Pool.FootprintLaw`: what a pool holds, and that it never holds less later.

Main results:

- Theorem `Pool.Step.footprint_le`: no step makes the footprint smaller.
- Theorem `Pool.isLeast_nextMaxBlocks`: after doubling, the capacity is again the least that
  suffices.
- Theorem `Pool.Reached.freedUnder`: what is on the free stacks if all frees are under one check.
- Theorem `Pool.footprint_law`: the law holds of every pool that gets the memory it asks for.
-/

namespace SlotPool

open Fresh

/-- The capacities of an array of references that hold `count` blocks: the first capacity, doubled
some number of times. -/
def Config.capacitiesFor (config : Config) (count : Nat) : Set Nat :=
  {capacity | count ≤ capacity ∧ ∃ doublings : Nat, capacity = config.initialBlocks * 2 ^ doublings}

/-! ## Footprints of blocks -/

namespace Block

theorem footprint_take (block : Block) : block.take.footprint = block.footprint := by
  rw [footprint, footprint, take_regionBytes, freeReserved_take]

theorem footprint_le_pushFree (block : Block) (offset : UInt32) :
    block.footprint ≤ (block.pushFree offset).footprint := by
  have hreserved := block.freeReserved_le_pushFree offset
  exact Nat.add_le_add_left (Nat.mul_le_mul_right Memory.offsetBytes hreserved) _

end Block

namespace Pool

variable {memory : Memory} {config : Config} {drawn more : List BlockId} {events : List Event}
variable {pool after : Pool} {event : Event} {check : FreeCheck} {quantity : Block → Nat}

/-! ## Totals over all blocks -/

theorem total_eq_sum (pool : Pool) (quantity : Block → Nat) :
    pool.total quantity = (pool.blocks.toList.map quantity).sum := by
  rw [total, ← Array.foldr_toList, List.sum_eq_foldr, List.foldr_map]

/-- A total does not fall when one of its parts does not. -/
theorem total_le_revise (pool : Pool) (index : Nat) {change : Block → Block}
    (hle : ∀ block, quantity block ≤ quantity (change block)) :
    pool.total quantity ≤ (pool.revise index change).total quantity := by
  rw [total_eq_sum, total_eq_sum, revise, Array.toList_modify]
  induction pool.blocks.toList generalizing index with
  | nil => simp
  | cons block blocks ih =>
      cases index with
      | zero => simpa using hle block
      | succ index => simpa using ih index

/-- A total changes with one of its parts as that part does. -/
theorem total_revise {index : Nat} {block : Block} (hblock : pool.blocks[index]? = some block)
    (change : Block → Block) :
    (pool.revise index change).total quantity + quantity block =
      pool.total quantity + quantity (change block) := by
  rw [← Array.getElem?_toList] at hblock
  rw [total_eq_sum, total_eq_sum, revise, Array.toList_modify]
  generalize pool.blocks.toList = blocks at hblock ⊢
  induction blocks generalizing index with
  | nil => simp at hblock
  | cons first blocks ih =>
      cases index with
      | zero =>
          rw [List.getElem?_cons_zero] at hblock
          rcases Option.some.inj hblock with rfl
          simp only [List.modify_zero_cons, List.map_cons, List.sum_cons]
          omega
      | succ index =>
          have hothers := ih hblock
          simp only [List.modify_succ_cons, List.map_cons, List.sum_cons]
          omega

theorem total_grown (pool : Pool) (id : BlockId) (regionBytes : Nat) :
    (pool.grown id regionBytes).total quantity =
      pool.total quantity + quantity (.fresh id pool.objectSize regionBytes) := by
  simp [total_eq_sum, grown]

/-- The total of a quantity that is the same in all blocks. -/
theorem total_eq_mul {value : Nat} (hsame : ∀ block ∈ pool.blocks, quantity block = value) :
    pool.total quantity = pool.blocks.size * value := by
  have hsum := List.sum_eq_card_nsmul (pool.blocks.toList.map quantity) value (by
    intro part hpart
    rcases List.mem_map.1 hpart with ⟨block, hmem, rfl⟩
    exact hsame block (Array.mem_toList_iff.1 hmem))
  simpa [total_eq_sum] using hsum

/-! ## No step makes the footprint smaller -/

theorem le_nextMaxBlocks (pool : Pool) : pool.maxBlocks ≤ pool.nextMaxBlocks := by
  unfold nextMaxBlocks
  split <;> omega

theorem footprint_le_revise (pool : Pool) (index : Nat) {change : Block → Block}
    (hle : ∀ block, block.footprint ≤ (change block).footprint) :
    pool.footprint ≤ (pool.revise index change).footprint := by
  have htotal := pool.total_le_revise index hle
  have hsize : (pool.revise index change).blocks.size = pool.blocks.size := by simp [revise]
  have hmax : (pool.revise index change).maxBlocks = pool.maxBlocks := rfl
  rw [footprint, footprint, hsize, hmax]
  omega

theorem footprint_le_takeAt (pool : Pool) (index : Nat) :
    pool.footprint ≤ (pool.takeAt index).footprint :=
  pool.footprint_le_revise index fun block => Nat.le_of_eq block.footprint_take.symm

/-- A block is larger than the spare reference that it uses up. -/
theorem footprint_le_grown (pool : Pool) (id : BlockId) (regionBytes : Nat) :
    pool.footprint ≤ (pool.grown id regionBytes).footprint := by
  have hnext := pool.le_nextMaxBlocks
  have hsize : (pool.grown id regionBytes).blocks.size = pool.blocks.size + 1 := by simp [grown]
  have hmax : (pool.grown id regionBytes).maxBlocks = pool.nextMaxBlocks := rfl
  rw [footprint, footprint, total_grown, hsize, hmax]
  simp only [Block.footprint, Memory.blockHeaderBytes]
  omega

theorem footprint_le_of_maxBlocks (pool : Pool) {maxBlocks : Nat}
    (hle : pool.maxBlocks ≤ maxBlocks) :
    pool.footprint ≤ { pool with maxBlocks }.footprint := by
  have hspare := Nat.mul_le_mul_right Memory.blockHeaderBytes
    (Nat.sub_le_sub_right hle pool.blocks.size)
  exact Nat.add_le_add_right (Nat.add_le_add_left hspare _) _

/-- No step makes the footprint of a pool smaller, whether or not there is memory for it. -/
theorem Step.footprint_le (hstep : Step pool more event after) :
    pool.footprint ≤ after.footprint := by
  cases hstep with
  | taken hindex hblock hnext => exact pool.footprint_le_takeAt _
  | @grew id regionBytes hindex hplan =>
      exact Nat.le_trans (pool.footprint_le_grown id regionBytes) (footprint_le_takeAt _ _)
  | stuck hindex hmax =>
      apply footprint_le_of_maxBlocks
      rcases hmax with rfl | rfl
      · exact Nat.le_refl _
      · exact pool.le_nextMaxBlocks
  | freed hblock hcontains hpasses =>
      exact pool.footprint_le_revise _ (Block.footprint_le_pushFree · _)
  | reclaimed => exact Nat.le_of_eq (keptByReclaim pool).footprint_eq.symm
  | written hblock hrange => exact pool.footprint_le_revise _ fun _ => Nat.le_refl _
  | _ => exact Nat.le_refl _

/-! ## The array of references -/

/-- Making room for one more reference leaves the least capacity that suffices, if it was that. -/
theorem isLeast_nextMaxBlocks (hpos : 0 < config.initialBlocks)
    (h : IsLeast (config.capacitiesFor pool.blocks.size) pool.maxBlocks) :
    IsLeast (config.capacitiesFor (pool.blocks.size + 1)) pool.nextMaxBlocks := by
  rcases h with ⟨⟨hcount, doublings, hcapacity⟩, hleast⟩
  unfold nextMaxBlocks
  split
  · next hfull =>
      have hdouble : pool.maxBlocks * 2 = config.initialBlocks * 2 ^ (doublings + 1) := by
        rw [hcapacity, Nat.pow_succ, Nat.mul_assoc]
      have hone : 0 < pool.maxBlocks := by
        rw [hcapacity]
        exact Nat.mul_pos hpos (Nat.two_pow_pos doublings)
      refine ⟨⟨by omega, doublings + 1, hdouble⟩, ?_⟩
      rintro capacity ⟨hlarge, others, rfl⟩
      -- A capacity above the old one takes more doublings.
      have hmore : config.initialBlocks * 2 ^ doublings < config.initialBlocks * 2 ^ others := by
        rw [← hcapacity]
        omega
      have hlt : doublings < others :=
        (Nat.pow_lt_pow_iff_right Nat.one_lt_two).1 (Nat.lt_of_mul_lt_mul_left hmore)
      rw [hdouble]
      exact Nat.mul_le_mul_left _ (Nat.pow_le_pow_right Nat.two_pos hlt)
  · next hspare =>
      refine ⟨⟨by omega, doublings, hcapacity⟩, ?_⟩
      rintro capacity ⟨hlarge, hdoubled⟩
      exact hleast ⟨by omega, hdoubled⟩

theorem isLeast_of_create (hcreate : (create memory config).Gives drawn (.ok pool)) :
    IsLeast (config.capacitiesFor pool.blocks.size) pool.maxBlocks := by
  rcases eq_ofBlocks_of_create hcreate with ⟨-, hlength, rfl⟩
  have hsize : (ofBlocks config (drawn.map (Block.fresh · config.objectSize
      config.regionBytes)).toArray).blocks.size = config.initialBlocks := by
    simp [ofBlocks, hlength]
  rw [hsize]
  refine ⟨⟨Nat.le_refl _, 0, (Nat.mul_one _).symm⟩, ?_⟩
  rintro capacity ⟨hlarge, -⟩
  exact hlarge

/-- A step that refuses no slot leaves the least capacity that suffices. -/
theorem Step.isLeast_maxBlocks (hpos : 0 < config.initialBlocks)
    (hserved : ∀ fault, event ≠ ⟨.allocate, .refused fault⟩)
    (h : IsLeast (config.capacitiesFor pool.blocks.size) pool.maxBlocks)
    (hstep : Step pool more event after) :
    IsLeast (config.capacitiesFor after.blocks.size) after.maxBlocks := by
  cases hstep with
  | taken hindex hblock hnext => simpa [takeAt, Pool.revise] using h
  | @grew id regionBytes hindex hplan =>
      have hsize : ((pool.grown id regionBytes).takeAt pool.blocks.size).blocks.size =
          pool.blocks.size + 1 := by
        simp [takeAt, Pool.revise, grown]
      rw [hsize]
      exact isLeast_nextMaxBlocks hpos h
  | @stuck fault maxBlocks hindex hmax => exact absurd rfl (hserved fault)
  | freed hblock hcontains hpasses => simpa [Pool.revise] using h
  | reclaimed => simpa [reclaim] using h
  | written hblock hrange => simpa [Pool.revise] using h
  | _ => exact h

/-- A pool that gets the memory it asks for has the least capacity that suffices. -/
theorem Reached.isLeast_maxBlocks (h : Reached memory config drawn events pool)
    (hmemory : memory.Provides config.objectSize config.regionBytes (2 * pool.blockCount)) :
    IsLeast (config.capacitiesFor pool.blockCount) pool.maxBlocks := by
  induction h with
  | created _ _ hcreate => exact isLeast_of_create hcreate
  | @acted part drawn more events pool after action answer hreached hpart hascending hact ih =>
      have hstep := step_of_act hact
      have hpos := hreached.initialBlocks_pos
      refine hstep.isLeast_maxBlocks hpos ?_ (ih ?_)
      · intro fault hevent
        have hlast : (⟨.allocate, .refused fault⟩ : Event) ∈ events ++ [⟨action, answer⟩] := by
          simp [hevent]
        rcases (hreached.acted hpart hascending hact).exists_of_allocate hmemory hlast with
          ⟨_, _, hissued, -⟩
        contradiction
      · have hsize : pool.blocks.size ≤ after.blocks.size := by
          rcases hstep.ids_prefix with ⟨added, hids⟩
          rw [← length_ids, ← length_ids, ← hids, List.length_append]
          exact Nat.le_add_right _ _
        exact hmemory.mono (Nat.mul_le_mul_left 2 hsize)

/-! ## Frees under one check -/

/-- An action that frees nothing, or frees under the given check. -/
def Action.IsUnder (check : FreeCheck) : Action → Prop
  | free other _ => other = check
  | _ => True

/-- What frees under one check leave on the free stacks. -/
theorem Step.freedUnder (hdistinct : after.ids.Nodup) (hunder : event.action.IsUnder check)
    (hstep : Step pool more event after)
    (h : ∀ block ∈ pool.blocks, block.FreedUnder check) :
    ∀ block ∈ after.blocks, block.FreedUnder check := by
  cases hstep with
  | @taken index target offset hindex hblock hnext =>
      intro block hmem
      rw [ids_takeAt] at hdistinct
      rcases mem_revise hdistinct hblock hmem with rfl | ⟨hold, -⟩
      · exact (h target (Array.mem_of_getElem? hblock)).take hnext
      · exact h block hold
  | @grew id regionBytes hindex hplan =>
      intro block hmem
      rw [ids_takeAt] at hdistinct
      have hfresh := Block.FreedUnder.of_plan check id hplan
      rcases mem_revise hdistinct Array.getElem?_push_size hmem with rfl | ⟨hold, -⟩
      · exact hfresh.take (nextOffset?_fresh id hplan)
      · rcases Array.mem_push.1 hold with hold | rfl
        · exact h block hold
        · exact hfresh
  | @freed other address index target hblock hcontains hpasses =>
      intro block hmem
      rcases hunder with rfl
      rw [ids_revise pool index (Block.pushFree_id · _)] at hdistinct
      rcases mem_revise hdistinct hblock hmem with rfl | ⟨hold, -⟩
      · exact (h target (Array.mem_of_getElem? hblock)).pushFree hpasses
      · exact h block hold
  | reclaimed =>
      intro block hmem
      rcases Array.mem_map.1 hmem with ⟨old, hold, rfl⟩
      exact (h old hold).reclaim
  | @written address bytes index start stop target hblock hrange =>
      intro block hmem
      rw [ids_revise pool index (Block.overwrite_id · start bytes)] at hdistinct
      rcases mem_revise hdistinct hblock hmem with rfl | ⟨hold, -⟩
      · exact (h target (Array.mem_of_getElem? hblock)).overwrite start bytes
      · exact h block hold
  | _ => exact h

theorem Reached.freedUnder (h : Reached memory config drawn events pool)
    (hunder : ∀ event ∈ events, event.action.IsUnder check) :
    ∀ block ∈ pool.blocks, block.FreedUnder check := by
  induction h with
  | created _ _ hcreate =>
      intro block hmem
      rcases exists_fresh_of_create hcreate hmem with ⟨id, rfl⟩
      exact Block.FreedUnder.of_plan check id (Config.plan_eq_ok (eq_ofBlocks_of_create hcreate).1)
  | acted hreached hpart hascending hact ih =>
      rcases List.forall_mem_append.1 hunder with ⟨hbefore, hlast⟩
      exact (step_of_act hact).freedUnder (hreached.acted hpart hascending hact).nodup_ids
        (hlast _ (List.mem_singleton_self _)) (ih hbefore)

/-! ## The main result -/

/-- A block whose free stack has the storage it was given in the beginning holds its header, its
region, and an entry for every slot. -/
theorem Sound.footprint_eq (h : Sound config drawn pool) {block : Block}
    (hmem : block ∈ pool.blocks) (hreserved : block.freeReserved = block.capacitySlots) :
    block.footprint = 64 + (config.regionBytes + 4 * config.slotsPerBlock) := by
  rw [Block.footprint, hreserved, h.capacitySlots_eq hmem, (h.sized block hmem).2,
    Memory.blockHeaderBytes, Memory.offsetBytes]
  omega

/-- What a pool of `config` holds after `events`, and that it never holds less later. -/
structure FootprintLaw (config : Config) (events : List Event) (pool : Pool) : Prop where
  /-- All blocks are of one size. -/
  sized : ∀ block ∈ pool.blocks,
    block.regionBytes = config.regionBytes ∧ block.capacitySlots = config.slotsPerBlock
  /-- The capacity of the array of references is the least that doubling gives and that suffices. -/
  capacity : IsLeast (config.capacitiesFor pool.blockCount) pool.maxBlocks
  /-- There are no more blocks than references, so that the spare references can be counted. -/
  blockCount_le : pool.blockCount ≤ pool.maxBlocks
  /-- The next action does not make the footprint smaller, even if there is no memory for it. -/
  footprint_le : ∀ memory action ids answer after,
    (pool.act memory action).Gives ids (answer, after) → pool.footprint ≤ after.footprint
  /-- If all frees were under one check, the free stacks have the storage that they were given in
  the beginning, whatever addresses were freed. -/
  footprint_eq : ∀ check, (∀ event ∈ events, event.action.IsUnder check) →
    pool.footprint =
      56 + 64 * pool.maxBlocks + pool.blockCount * (config.regionBytes + 4 * config.slotsPerBlock)

/-- However a pool is used, its footprint obeys the law, as long as it gets the memory it asks
for. -/
theorem footprint_law (h : Reached memory config drawn events pool)
    (hmemory : memory.Provides config.objectSize config.regionBytes (2 * pool.blockCount)) :
    FootprintLaw config events pool := by
  have hsound := h.sound
  have hleast := h.isLeast_maxBlocks hmemory
  refine ⟨?_, hleast, hleast.1.1, ?_, ?_⟩
  · intro block hmem
    exact ⟨(hsound.sized block hmem).2, hsound.capacitySlots_eq hmem⟩
  · intro memory action ids answer after hact
    exact (step_of_act hact).footprint_le
  · intro check hunder
    have hfits := h.freedUnder hunder
    have htotal := total_eq_mul fun block hmem =>
      hsound.footprint_eq hmem (hfits block hmem).reserved
    have hcount : pool.blocks.size ≤ pool.maxBlocks := hleast.1.1
    rw [footprint, htotal, blockCount, Memory.blockHeaderBytes, Memory.poolHeaderBytes,
      Nat.mul_add]
    omega

/-- All frees of the careless history and its sequel are under the quick check, and most of them are
wrong. -/
theorem footprint_law_sequelPool :
    Reached .ample ⟨8, 1, 16⟩ [⟨1⟩, ⟨2⟩] (misuseEvents ++ sequelEvents) sequelPool ∧
      Memory.ample.Provides 8 (Config.regionBytes ⟨8, 1, 16⟩) (2 * sequelPool.blockCount) ∧
      (∀ event ∈ misuseEvents ++ sequelEvents, event.action.IsUnder .quick) ∧
      sequelPool.footprint = 56 + 64 * 2 + 2 * (16 + 4 * 2) ∧
      FootprintLaw ⟨8, 1, 16⟩ (misuseEvents ++ sequelEvents) sequelPool := by
  have hreached := reached_misusedPool.history .all (by decide) gives_sequelPool
  have hmemory : Memory.ample.Provides 8 (Config.regionBytes ⟨8, 1, 16⟩)
      (2 * sequelPool.blockCount) :=
    .of_ample (by decide +kernel) (by decide +kernel) (by decide +kernel)
  have hunder : ∀ event ∈ misuseEvents ++ sequelEvents, event.action.IsUnder .quick := by
    simp [misuseEvents, sequelEvents, Action.IsUnder]
  have hlaw := footprint_law hreached hmemory
  exact ⟨hreached, hmemory, hunder, hlaw.footprint_eq .quick hunder, hlaw⟩

end Pool

end SlotPool
