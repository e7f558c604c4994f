import SlotPool.Proofs.Pool.Contents
import SlotPool.Proofs.Pool.Provision

/-!
# What misuse cannot break

The quick check takes back places that were never handed out, places at which no slot starts, and
the same place many times over.  After such frees a place may be handed out twice, and may not be a
slot at all.  But no address that a pool is given can break the pool itself: it goes on handing out
places of its own blocks, and its cursors and free stacks stay inside the regions.

Main definitions:

- `Pool.OwnedOnce`: an address is one of exactly one block.
- `Pool.Intact`: what holds of a pool after any use, however wrong.

Main results:

- Theorem `Pool.Sound.blockIndex?_of_allocate`: the block that serves is the current one afterwards.
- Theorem `Pool.Step.current_lt`: every step leaves a current block.
- Theorem `Pool.intact_of_reached`: no use of a pool breaks it.
-/

namespace SlotPool

open Fresh

/-- What a block hands out next lies inside its region. -/
theorem Block.WellFormed.nextOffset?_lt {block : Block} {offset : UInt32} (h : block.WellFormed)
    (hnext : block.nextOffset? = some offset) : offset.toNat < block.regionBytes := by
  rcases take_cases hnext with ⟨hinside, rfl, -⟩ | ⟨-, rest, hstack, -⟩
  · rw [h.toNat_cursor hinside]
    exact hinside
  · apply h.stack_lt
    simp [hstack]

/-- Memory is all that can be wanting for a block that was planned. -/
theorem Block.outOfMemory_of_reserve {memory : Memory} {objectSize regionBytes : Nat}
    {fault : Fault} (h : reserve memory objectSize regionBytes = .error fault) :
    ∃ bytes, fault = .outOfMemory bytes := by
  simp only [reserve, Memory.reserve, bind, Except.bind] at h
  split at h
  · next hregion =>
      split at hregion
      · contradiction
      · exact ⟨_, (Except.error.inj (hregion.trans h)).symm⟩
  · split at h
    · contradiction
    · exact ⟨_, (Except.error.inj h).symm⟩

namespace Pool

variable {memory : Memory} {config : Config} {drawn more : List BlockId} {events : List Event}
variable {pool after : Pool} {address : Address}

/-- An address is contained in exactly one block. -/
def OwnedOnce (pool : Pool) (address : Address) : Prop :=
  ∃! index : Nat, ∃ block : Block, pool.blocks[index]? = some block ∧ block.contains address = true

/-- Only one block of a pool can contain an address, namely the one that it resolves to. -/
theorem ownedOnce_of_blockIndex? (hdistinct : pool.ids.Nodup) {index : Nat}
    (hindex : pool.blockIndex? address = some index) : pool.OwnedOnce address := by
  refine ⟨index, contains_of_blockIndex? hindex, ?_⟩
  rintro other ⟨block, hblock, hcontains⟩
  have hother := blockIndex?_eq hdistinct hblock (Block.contains_iff.1 hcontains).1
  rw [if_pos hcontains, hindex] at hother
  exact (Option.some.inj hother).symm

/-! ## Handing out -/

/-- The block that serves is the current one afterwards, and what it hands out resolves to it. -/
theorem Sound.blockIndex?_of_allocate (h : Sound config drawn pool)
    (hvalid : config.validate = .ok ()) (hascending : Ascending (drawn ++ more))
    (hallocate : (pool.allocate memory).Gives more (.ok address, after)) :
    after.blockIndex? address = some after.current := by
  have hafter : Sound config (drawn ++ more) after :=
    h.step hvalid hascending (step_of_allocate hallocate)
  apply (hafter.blockIndex?_eq_some_iff (hafter.ids_sublist.nodup hascending.nodup)).2
  rcases allocate_cases hallocate with
    ⟨index, block, offset, -, -, hblock, hnext, haddress, rfl⟩ | ⟨fault, -, -, hfault, -⟩ |
    ⟨id, regionBytes, -, -, -, haddress, rfl⟩
  · rcases Except.ok.inj haddress with rfl
    have hmem := Array.mem_of_getElem? hblock
    rw [ids_takeAt, ← (h.sized block hmem).2]
    exact ⟨getElem?_ids hblock, (h.wellFormed block hmem).nextOffset?_lt hnext⟩
  · contradiction
  · rcases Except.ok.inj haddress with rfl
    have hwell := Block.wellFormed_of_plan id (Config.plan_eq_ok hvalid)
    have hlast : (pool.ids ++ [id])[pool.blocks.size]? = some id := by simp
    rw [ids_takeAt, ids_grown]
    exact ⟨hlast, Nat.lt_of_lt_of_le hwell.objectSize_pos hwell.objectSize_le⟩

/-- Every step leaves a current block. -/
theorem Step.current_lt {event : Event} (hstep : Step pool more event after)
    (h : pool.current < pool.blocks.size) : after.current < after.blocks.size := by
  cases hstep with
  | taken hindex hblock hnext =>
      simpa [takeAt, Pool.revise] using (Array.getElem?_eq_some_iff.1 hblock).1
  | grew hindex hplan => simp [takeAt, Pool.revise, grown]
  | freed hblock hcontains hpasses => simpa [Pool.revise] using h
  | reclaimed => simpa [reclaim] using Nat.zero_lt_of_lt h
  | written hblock hrange => simpa [Pool.revise] using h
  | stuck hindex hmax => exact h
  | refused hrefusal => exact h
  | unwritten => exact h
  | read => exact h
  | contains => exact h
  | blockIndex => exact h
  | elsewhere => exact h

theorem Reached.current_lt (h : Reached memory config drawn events pool) :
    pool.current < pool.blocks.size := by
  induction h with
  | created _ _ hcreate =>
      rcases eq_ofBlocks_of_create hcreate with ⟨hvalid, hlength, rfl⟩
      simpa [ofBlocks, hlength] using (Config.validate_eq_ok_iff.1 hvalid).2.1
  | acted _ _ _ hact ih => exact (step_of_act hact).current_lt ih

theorem Reached.plan_eq_ok (h : Reached memory config drawn events pool) :
    Block.plan pool.objectSize pool.blockBytes = .ok config.regionBytes :=
  h.sound.plan_eq_ok h.valid

/-- Whoever asked for a slot got one, and the pool still has the block of that slot. -/
theorem Reached.exists_of_allocate (h : Reached memory config drawn events pool)
    (hmemory : memory.Provides config.objectSize config.regionBytes (2 * pool.blockCount))
    {answer : Answer} (hmem : ⟨.allocate, answer⟩ ∈ events) :
    ∃ address index, answer = .issued address ∧ pool.blockIndex? address = some index := by
  induction h with
  | created => contradiction
  | @acted part drawn more events pool after action given hreached hpart hascending hact ih =>
      have hafter := hreached.acted hpart hascending hact
      have hstep := step_of_act hact
      rcases hstep.ids_prefix with ⟨added, hids⟩
      have hsize : pool.blocks.size ≤ after.blocks.size := by
        rw [← length_ids, ← length_ids, ← hids, List.length_append]
        exact Nat.le_add_right _ _
      have hbefore := hmemory.mono (Nat.mul_le_mul_left 2 hsize)
      rcases List.mem_append.1 hmem with hold | hnew
      · rcases ih hbefore hold with ⟨address, index, rfl, hindex⟩
        rcases (hreached.sound.blockIndex?_eq_some_iff hreached.nodup_ids).1 hindex with
          ⟨hid, hinside⟩
        refine ⟨address, index, rfl, ?_⟩
        apply (hafter.sound.blockIndex?_eq_some_iff hafter.nodup_ids).2
        rw [← hids, List.getElem?_append_left (List.getElem?_eq_some_iff.1 hid).1]
        exact ⟨hid, hinside⟩
      · rcases List.mem_singleton.1 hnew with ⟨rfl, rfl⟩
        rcases gives_act_allocate_iff.1 hact with ⟨result, rfl, hallocate⟩
        rw [← hreached.sound.objectSize_eq] at hbefore
        rcases allocate_eq_ok hreached.plan_eq_ok (hbefore.part hpart) hallocate with ⟨address, rfl⟩
        exact ⟨address, after.current, rfl,
          hreached.sound.blockIndex?_of_allocate hreached.valid hascending hallocate⟩

/-! ## The main result -/

/-- What holds of a pool of `config` that gets the memory it asks for, after `events`. -/
structure Intact (memory : Memory) (config : Config) (drawn : List BlockId) (events : List Event)
    (pool : Pool) : Prop where
  /-- Whoever asked for a slot got an address of exactly one block. -/
  served : ∀ answer, ⟨.allocate, answer⟩ ∈ events →
    ∃ address, answer = .issued address ∧ pool.OwnedOnce address
  /-- Whoever asks next gets one. -/
  serves : ∀ part more result after, memory.Part part → Ascending (drawn ++ more) →
    (pool.allocate part).Gives more (result, after) →
      ∃ address, result = .ok address ∧ after.OwnedOnce address
  /-- Even without memory, a slot is refused only as long as no block was added. -/
  ungrown : ∀ scarce more fault after, (pool.allocate scarce).Gives more (.error fault, after) →
    more = [] ∧ after.blocks = pool.blocks
  /-- The sizes of a block to be added are never at fault. -/
  buildable : ∀ scarce ids cause,
    ¬ (Block.create scarce pool.objectSize pool.blockBytes).Gives ids
      (.error (.invalidConfig cause))
  current_lt : pool.current < pool.blocks.size
  stack_lt : ∀ block ∈ pool.blocks, ∀ offset ∈ block.freeStack, offset.toNat < block.regionBytes
  cursor : ∀ block ∈ pool.blocks,
    config.objectSize ∣ block.bumpCursor ∧ block.bumpCursor ≤ block.regionBytes
  /-- A free that is refused changes nothing. -/
  refused : ∀ check address fault after, pool.free check address = (.error fault, after) →
    after = pool

/-- Whatever addresses a pool is given, and however often, it stays intact. -/
theorem intact_of_reached (h : Reached memory config drawn events pool)
    (hmemory : memory.Provides config.objectSize config.regionBytes (2 * pool.blockCount)) :
    Intact memory config drawn events pool := by
  have hsound := h.sound
  refine ⟨?_, ?_, ?_, ?_, h.current_lt, ?_, ?_, ?_⟩
  · intro answer hmem
    rcases h.exists_of_allocate hmemory hmem with ⟨address, index, rfl, hindex⟩
    exact ⟨address, rfl, ownedOnce_of_blockIndex? h.nodup_ids hindex⟩
  · intro part more result after hpart hascending hallocate
    rw [← hsound.objectSize_eq] at hmemory
    rcases allocate_eq_ok h.plan_eq_ok (hmemory.part hpart) hallocate with ⟨address, rfl⟩
    have hafter := h.allocated hpart hascending hallocate
    exact ⟨address, rfl, ownedOnce_of_blockIndex? hafter.nodup_ids
      (hsound.blockIndex?_of_allocate h.valid hascending hallocate)⟩
  · intro scarce more fault after hallocate
    rcases allocate_cases hallocate with
      ⟨_, _, _, -, -, -, -, hok, -⟩ | ⟨_, rfl, -, -, hafter⟩ | ⟨_, _, -, -, -, hok, -⟩
    · contradiction
    · rcases hafter with rfl | rfl
      · exact ⟨rfl, rfl⟩
      · exact ⟨rfl, rfl⟩
    · contradiction
  · intro scarce ids cause hcreate
    simp only [Block.create, h.plan_eq_ok] at hcreate
    cases hreserve : Block.reserve scarce pool.objectSize config.regionBytes with
    | error fault =>
        simp only [hreserve, gives_done_iff] at hcreate
        rcases Block.outOfMemory_of_reserve hreserve with ⟨bytes, rfl⟩
        cases hcreate.2
    | ok _ => simp [hreserve] at hcreate
  · intro block hmem offset hoffset
    exact (hsound.wellFormed block hmem).stack_lt offset hoffset
  · intro block hmem
    rw [← (hsound.sized block hmem).1]
    exact ⟨(hsound.wellFormed block hmem).dvd_cursor, (hsound.wellFormed block hmem).cursor_le⟩
  · intro check address fault after hfree
    rcases free_cases hfree with ⟨_, -, -, rfl⟩ | ⟨_, _, -, -, -, hok, -⟩
    · rfl
    · contradiction

/-- A place at which no slot starts was freed twice over, and the pool is still intact. -/
theorem intact_of_reached_misusedPool :
    Reached .ample ⟨8, 1, 16⟩ [⟨1⟩] misuseEvents misusedPool ∧
      Memory.ample.Provides 8 (Config.regionBytes ⟨8, 1, 16⟩) (2 * misusedPool.blockCount) ∧
      Intact .ample ⟨8, 1, 16⟩ [⟨1⟩] misuseEvents misusedPool := by
  have hmemory : Memory.ample.Provides 8 (Config.regionBytes ⟨8, 1, 16⟩)
      (2 * misusedPool.blockCount) :=
    .of_ample (by decide +kernel) (by decide +kernel) (by decide +kernel)
  exact ⟨reached_misusedPool, hmemory, intact_of_reached reached_misusedPool hmemory⟩

end Pool

end SlotPool
