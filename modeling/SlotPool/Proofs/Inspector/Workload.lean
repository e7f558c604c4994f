import SlotPool.Inspector.Workload
import SlotPool.Proofs.Crew.Failures
import SlotPool.Proofs.Objects
import SlotPool.Proofs.Pool.Footprint

/-!
# The course of the inspector's workload

The workload hands out slots, and then takes a spread of them back.  Its array holds the addresses
that are outstanding, in some order, from the beginning to the end: handing out puts one more at the
end, and each round of pruning takes one out and moves the last one into the gap.  So every address
that pruning comes upon can be freed, none comes up twice, and there are as many rounds as asked for
unless the array runs out of addresses.

While slots are handed out, the pool grows whenever all slots of all its blocks are in use.  So it
is known beforehand which of the slots these are, and what is asked of the system then.  Handing out
fails at the first of these requests that is refused.

Main definitions:

- `Config.blocksFor`: the blocks of a pool that has handed out some slots at once.
- `Memory.RefusesGrowth`: the system refuses a pool what it needs for one more block.
- `Memory.LetsGrow` and `Memory.StopsGrowth`: a pool that hands out slot after slot gets all blocks
  on its way, or is refused one of them.
- `Workload.Pruning`: the pruning loop, round after round.
- `Workload.Accounted`: the accounts of a workload agree with what happened to its pool.
- `Workload.TakesBack`: what a complete pruning did.

Main results:

- Theorem `Workload.prune_eq_ok_iff`: pruning is that loop.
- Theorem `Workload.Accounted.fill_cases`: all slots asked for are handed out, or growth is stopped.
- Theorem `Workload.Accounted.prune`: all rounds asked for are gone through.
-/

namespace SlotPool

open Fresh

/-- The blocks that a pool has once `slots` of its slots were handed out at once. -/
def Config.blocksFor (config : Config) (slots : Nat) : Nat :=
  max config.initialBlocks (slots ⌈/⌉ config.slotsPerBlock)

/-- Blocks with fewer slots than are handed out are not all of the blocks. -/
theorem Config.lt_blocksFor {config : Config} {count slots : Nat} (hpos : 0 < config.slotsPerBlock)
    (hfew : count * config.slotsPerBlock < slots) : count < config.blocksFor slots := by
  have hmore : ¬ slots ⌈/⌉ config.slotsPerBlock ≤ count := by
    rw [ceilDiv_le_iff_le_mul hpos, Nat.mul_comm]
    exact Nat.not_le.2 hfew
  exact Nat.lt_of_lt_of_le (Nat.lt_of_not_le hmore) (Nat.le_max_right _ _)

namespace Memory

/-- The system refuses a pool that has `count` blocks what it needs for one more. -/
inductive RefusesGrowth (memory : Memory) (config : Config) (count : Nat) : Fault → Prop where
  /-- The array of references is full, and cannot be had at twice the length. -/
  | array (hfull : count ∈ config.capacitiesFor count)
      (hrefused : memory.first.grants (count * 2 * blockHeaderBytes) = false) :
      RefusesGrowth memory config count (.outOfMemory (count * 2 * blockHeaderBytes))
  /-- The array is long enough, but there is no memory for a block. -/
  | block {fault : Fault}
      (hgranted : count ∈ config.capacitiesFor count →
        memory.first.grants (count * 2 * blockHeaderBytes) = true)
      (hrefused : Block.reserve memory.rest config.objectSize config.regionBytes = .error fault) :
      RefusesGrowth memory config count fault

/-- What the system answers when a pool hands out slot after slot, and has come to the first slot
that `count` blocks have no room for. -/
def growing (memory : Memory) (config : Config) (count : Nat) : Memory :=
  memory.turn (count * config.slotsPerBlock)

/-- A pool that hands out slot after slot is granted what it needs in order to grow from `least`
blocks to `most`. -/
def LetsGrow (memory : Memory) (config : Config) (least most : Nat) : Prop :=
  ∀ count, least ≤ count → count < most →
    ∀ fault, ¬ (memory.growing config count).RefusesGrowth config count fault

/-- A pool that hands out slot after slot grows for a while from `least` blocks on, but is refused
what it needs before it has got to `most`. -/
def StopsGrowth (memory : Memory) (config : Config) (least most : Nat) (fault : Fault) : Prop :=
  ∃ count, least ≤ count ∧ count < most ∧
    (memory.growing config count).RefusesGrowth config count fault ∧
    memory.LetsGrow config least count

section Growth

variable {memory : Memory} {config : Config} {least most count : Nat} {fault other : Fault}

theorem RefusesGrowth.unique (h : memory.RefusesGrowth config count fault)
    (hother : memory.RefusesGrowth config count other) : fault = other := by
  cases h with
  | array hfull hrefused =>
      cases hother with
      | array _ _ => rfl
      | block hgranted _ =>
          rw [hgranted hfull] at hrefused
          contradiction
  | block hgranted hrefused =>
      cases hother with
      | array hfull hrefused' =>
          rw [hgranted hfull] at hrefused'
          contradiction
      | block _ hrefused' =>
          rw [hrefused] at hrefused'
          exact Except.error.inj hrefused'

theorem LetsGrow.trans (h : memory.LetsGrow config least count)
    (hfurther : memory.LetsGrow config count most) : memory.LetsGrow config least most := by
  intro number hle hlt
  by_cases hbefore : number < count
  · exact h number hle hbefore
  · exact hfurther number (Nat.le_of_not_lt hbefore) hlt

/-- Growth that is stopped later on is stopped in the whole. -/
theorem LetsGrow.stopsGrowth (hle : least ≤ count) (h : memory.LetsGrow config least count)
    (hstops : memory.StopsGrowth config count most fault) :
    memory.StopsGrowth config least most fault := by
  rcases hstops with ⟨number, hle', hlt, hrefuses, hlets⟩
  exact ⟨number, Nat.le_trans hle hle', hlt, hrefuses, h.trans hlets⟩

theorem StopsGrowth.not_letsGrow (h : memory.StopsGrowth config least most fault) :
    ¬ memory.LetsGrow config least most := by
  rcases h with ⟨count, hle, hlt, hrefuses, -⟩
  exact fun hlets => hlets count hle hlt fault hrefuses

/-- Growth is stopped for one reason only. -/
theorem StopsGrowth.unique (h : memory.StopsGrowth config least most fault)
    (hother : memory.StopsGrowth config least most other) : fault = other := by
  rcases h with ⟨count, hle, -, hrefuses, hlets⟩
  rcases hother with ⟨count', hle', -, hrefuses', hlets'⟩
  rcases Nat.lt_trichotomy count count' with hlt | rfl | hlt
  · exact absurd hrefuses (hlets' count hle hlt fault)
  · exact hrefuses.unique hrefuses'
  · exact absurd hrefuses' (hlets count' hle' hlt other)

end Growth

end Memory

namespace Pool

variable {memory : Memory} {config : Config} {drawn : List BlockId} {pool after : Pool}
variable {address : Address} {fault : Fault}

/-! ## Growth that is refused -/

/-- An array of references is full exactly if it has no more room than its blocks need. -/
theorem size_eq_maxBlocks_iff
    (h : IsLeast (config.capacitiesFor pool.blocks.size) pool.maxBlocks) :
    pool.blocks.size = pool.maxBlocks ↔
      pool.blocks.size ∈ config.capacitiesFor pool.blocks.size := by
  constructor
  · intro hfull
    have hcapacity := h.1
    rwa [← hfull] at hcapacity
  · intro hmem
    exact Nat.le_antisymm h.1.1 (h.2 hmem)

/-- What the system refuses a pool in order to grow is what handing out a slot fails for. -/
theorem allocate_of_refusesGrowth (hsound : Sound config drawn pool)
    (hcapacity : IsLeast (config.capacitiesFor pool.blocks.size) pool.maxBlocks)
    (hplan : Block.plan pool.objectSize pool.blockBytes = .ok config.regionBytes)
    (hindex : pool.roomIndex? = none)
    (hrefuses : memory.RefusesGrowth config pool.blocks.size fault) :
    ∃ left, pool.allocate memory = .done (.error fault, left) := by
  have hgrow : ∃ left, pool.grow memory = .done (.error fault, left) := by
    cases hrefuses with
    | array hfull hrefused =>
        rw [← size_eq_maxBlocks_iff hcapacity] at hfull
        have hreserve : pool.reserveReference memory.first =
            .error (.outOfMemory (pool.blocks.size * 2 * Memory.blockHeaderBytes)) := by
          rw [reserveReference, if_pos hfull, ← hfull]
          simp only [Memory.reserve, hrefused, Bool.false_eq_true, if_false]
        exact ⟨pool, by simp only [grow, hreserve]⟩
    | block hgranted hrefused =>
        rw [← size_eq_maxBlocks_iff hcapacity] at hgranted
        have hreserve : pool.reserveReference memory.first =
            .ok { pool with maxBlocks := pool.nextMaxBlocks } := by
          unfold reserveReference nextMaxBlocks
          split
          · next hfull =>
              have hgranted := hgranted hfull
              rw [hfull] at hgranted
              rw [Memory.reserve_eq_ok_iff.2 hgranted]
          · rfl
        rw [← hsound.objectSize_eq] at hrefused
        have hcreate : Block.create memory.rest pool.objectSize pool.blockBytes =
            .done (.error fault) := by
          simp only [Block.create, hplan, hrefused]
        exact ⟨{ pool with maxBlocks := pool.nextMaxBlocks },
          by simp only [grow, hreserve, hcreate, done_bind]⟩
  rcases hgrow with ⟨left, hgrow⟩
  exact ⟨left, by simp only [allocate, hindex, hgrow, done_bind]⟩

/-- A pool to which nothing is refused gets what it needs in order to grow. -/
theorem canGrow_of_not_refusesGrowth (hsound : Sound config drawn pool)
    (hcapacity : IsLeast (config.capacitiesFor pool.blocks.size) pool.maxBlocks)
    (hplan : Block.plan pool.objectSize pool.blockBytes = .ok config.regionBytes)
    (hgranted : ∀ fault, ¬ memory.RefusesGrowth config pool.blocks.size fault) :
    CanGrow memory pool config.regionBytes := by
  have harray : pool.blocks.size ∈ config.capacitiesFor pool.blocks.size →
      memory.first.grants (pool.blocks.size * 2 * Memory.blockHeaderBytes) = true := by
    intro hfull
    by_contra hrefused
    exact hgranted _ (.array hfull (Bool.eq_false_of_not_eq_true hrefused))
  refine ⟨hplan, ?_, ?_⟩
  · rw [hsound.objectSize_eq]
    cases hreserve : Block.reserve memory.rest config.objectSize config.regionBytes with
    | ok _ => rfl
    | error fault => exact absurd (.block harray hreserve) (hgranted fault)
  · intro hfull
    rw [← hfull]
    exact harray ((size_eq_maxBlocks_iff hcapacity).1 hfull)

/-! ## Entries on free stacks -/

theorem total_freeDepth_takeAt_le {index : Nat} {block : Block}
    (hblock : pool.blocks[index]? = some block) :
    (pool.takeAt index).total Block.freeDepth ≤ pool.total Block.freeDepth := by
  have hrevise : (pool.takeAt index).total Block.freeDepth + block.freeDepth =
      pool.total Block.freeDepth + block.take.freeDepth := total_revise hblock Block.take
  have htake : block.take.freeDepth ≤ block.freeDepth := block.size_freeStack_take_le
  omega

/-- Handing out a slot puts nothing on a free stack. -/
theorem total_freeDepth_allocate_le
    (h : (pool.allocate memory).Gives drawn (.ok address, after)) :
    after.total Block.freeDepth ≤ pool.total Block.freeDepth := by
  rcases allocate_cases h with ⟨index, block, offset, -, -, hblock, -, -, rfl⟩ |
    ⟨fault, -, -, hfault, -⟩ | ⟨id, regionBytes, -, -, -, -, rfl⟩
  · exact total_freeDepth_takeAt_le hblock
  · contradiction
  · have hgrown : (pool.grown id regionBytes).total Block.freeDepth =
        pool.total Block.freeDepth := total_grown pool id regionBytes
    rw [← hgrown]
    exact total_freeDepth_takeAt_le Array.getElem?_push_size

/-- Taking a slot back puts one more entry on a free stack. -/
theorem total_freeDepth_pushFree {index : Nat} {block : Block}
    (hblock : pool.blocks[index]? = some block) (offset : UInt32) :
    (pool.revise index (·.pushFree offset)).total Block.freeDepth =
      pool.total Block.freeDepth + 1 := by
  have hrevise : (pool.revise index (·.pushFree offset)).total Block.freeDepth + block.freeDepth =
      pool.total Block.freeDepth + (block.pushFree offset).freeDepth := total_revise hblock _
  have hpush : (block.pushFree offset).freeDepth = block.freeDepth + 1 := Array.size_push ..
  omega

end Pool

namespace Inspector

open Pool

/-! ## Events -/

/-- Slots were handed out. -/
def issueEvents (addresses : List Address) : List Event :=
  addresses.map fun address => ⟨.allocate, .issued address⟩

/-- Slots were taken back. -/
def freeEvents (check : FreeCheck) (addresses : List Address) : List Event :=
  addresses.map fun address => ⟨.free check address, .done⟩

/-- While slots are handed out, more and more addresses are outstanding. -/
theorem peak_issueEvents (ledger : Ledger) (addresses : List Address) :
    peak ledger (issueEvents addresses) = ledger.outstanding.length + addresses.length := by
  induction addresses generalizing ledger with
  | nil => rfl
  | cons address addresses ih =>
      have hrest := ih (ledger.note ⟨.allocate, .issued address⟩)
      have hnote : (ledger.note ⟨.allocate, .issued address⟩).outstanding.length =
          ledger.outstanding.length + 1 := rfl
      rw [hnote] at hrest
      simp only [issueEvents, List.map_cons, peak, List.length_cons] at hrest ⊢
      omega

namespace Workload

variable {memory : Memory} {check : FreeCheck} {config : Config} {drawn more : List BlockId}
variable {events : List Event} {work after : Workload} {pool : Pool} {address : Address}
variable {allocs frees count : Nat}

/-! ## The loop -/

/-- Taking an item out of an array keeps all others. -/
theorem swapRemove_perm {α : Type} (items : Array α) (i : Nat) (h : i < items.size) :
    ((swapRemove items i h).1 :: (swapRemove items i h).2.toList).Perm items.toList := by
  have hlast : items.size - 1 < items.size := by omega
  have hswap : (items.swap i (items.size - 1) h hlast).toList.Perm items.toList :=
    (Array.swap_perm h hlast).toList
  have hnonempty : (items.swap i (items.size - 1) h hlast).toList ≠ [] := by
    rw [← List.length_pos_iff, Array.length_toList, Array.size_swap]
    omega
  have hitem : (items.swap i (items.size - 1) h hlast).toList.getLast hnonempty = items[i] := by
    rw [List.getLast_eq_getElem]
    simp
  rw [← List.dropLast_append_getLast hnonempty, hitem] at hswap
  simp only [swapRemove, Array.toList_pop]
  exact (List.perm_append_singleton _ _).symm.trans hswap

/-- Where pruning goes next: two places further around the array. -/
def nextIndex (work : Workload) : Nat :=
  (work.index + 2) % work.live.size

theorem nextIndex_lt (hlive : 0 < work.live.size) : work.nextIndex < work.live.size :=
  Nat.mod_lt _ hlive

/-- The address that pruning comes upon next. -/
def victim (work : Workload) (hlive : 0 < work.live.size) : Address :=
  (swapRemove work.live work.nextIndex (nextIndex_lt hlive)).1

/-- The workload after a round of pruning that left `pool`. -/
def pruned (work : Workload) (hlive : 0 < work.live.size) (pool : Pool) : Workload where
  pool := pool
  live := (swapRemove work.live work.nextIndex (nextIndex_lt hlive)).2
  freed := work.freed + 1
  index := work.nextIndex

/-- The pruning loop, which takes `taken` back: it goes on until `frees` addresses were taken back
in all, or none is left. -/
inductive Pruning (check : FreeCheck) (frees : Nat) : Workload → List Address → Workload → Prop
  | stop {work : Workload} (hstop : ¬ (work.freed < frees ∧ 0 < work.live.size)) :
      Pruning check frees work [] work
  | round {work after : Workload} {pool : Pool} {taken : List Address}
      (hfreed : work.freed < frees) (hlive : 0 < work.live.size)
      (hfree : work.pool.free check (work.victim hlive) = (.ok (), pool))
      (hrest : Pruning check frees (work.pruned hlive pool) taken after) :
      Pruning check frees work (work.victim hlive :: taken) after

theorem prune_succ (hlive : 0 < work.live.size) :
    prune check (count + 1) work =
      match work.pool.free check (work.victim hlive) with
      | (.ok (), pool) => prune check count (work.pruned hlive pool)
      | (.error fault, _) => .error fault := by
  rw [prune, dif_pos hlive]
  rfl

theorem prune_of_empty (hempty : ¬ 0 < work.live.size) : prune check count work = .ok work := by
  cases count with
  | zero => rfl
  | succ count => rw [prune, dif_neg hempty]

/-- Pruning up to `count` addresses is the loop that stops when this many more were taken back. -/
theorem prune_eq_ok_iff :
    prune check count work = .ok after ↔
      ∃ taken, Pruning check (work.freed + count) work taken after := by
  induction count generalizing work with
  | zero =>
      constructor
      · intro h
        rcases Except.ok.inj h with rfl
        exact ⟨[], Pruning.stop (by omega)⟩
      · rintro ⟨taken, hloop⟩
        cases hloop with
        | stop hstop => rfl
        | round hfreed => omega
  | succ count ih =>
      by_cases hlive : 0 < work.live.size
      · rw [prune_succ hlive]
        -- The bound stays the same while one more address counts as taken back.
        have hbound : work.freed + (count + 1) = work.freed + 1 + count := by omega
        rcases hfree : work.pool.free check (work.victim hlive) with ⟨result, pool⟩
        constructor
        · intro h
          cases result with
          | error fault => contradiction
          | ok _ =>
              rcases ih.1 h with ⟨taken, hloop⟩
              rw [hbound]
              exact ⟨_, Pruning.round (by omega) hlive hfree hloop⟩
        · rintro ⟨taken, hloop⟩
          cases hloop with
          | stop hstop => exact absurd ⟨by omega, hlive⟩ hstop
          | @round _ _ middle rest hfreed hlive' hfree' hrest =>
              rw [hfree] at hfree'
              rcases Prod.mk.inj hfree' with ⟨rfl, rfl⟩
              rw [hbound] at hrest
              exact ih.2 ⟨rest, hrest⟩
      · rw [prune_of_empty hlive]
        constructor
        · intro h
          rcases Except.ok.inj h with rfl
          exact ⟨[], Pruning.stop fun hgoes => hlive hgoes.2⟩
        · rintro ⟨taken, hloop⟩
          cases hloop with
          | stop hstop => rfl
          | round hfreed hlive' => exact absurd hlive' hlive

/-! ## Accounts -/

/-- The accounts of a workload agree with what happened to its pool: the addresses of the array are
those outstanding, and what was taken back waits on the free stacks. -/
structure Accounted (memory : Memory) (config : Config) (drawn : List BlockId)
    (events : List Event) (work : Workload) : Prop where
  reached : Reached memory config drawn events work.pool
  careful : Careful .empty events
  live_perm : work.live.toList.Perm (Ledger.empty.after events).outstanding
  ids_eq : work.pool.ids = drawn
  capacity : IsLeast (config.capacitiesFor work.pool.blocks.size) work.pool.maxBlocks
  depth_eq : work.pool.total Block.freeDepth = work.freed

theorem accounted_idle {part : Memory} (hpart : memory.Part part) (hascending : Ascending drawn)
    (hcreate : (create part config).Gives drawn (.ok pool)) :
    Accounted memory config drawn [] (idle pool) := by
  have hempty : ∀ block ∈ pool.blocks, block.freeDepth = 0 := by
    intro block hmem
    rcases exists_fresh_of_create hcreate hmem with ⟨id, rfl⟩
    rfl
  exact ⟨.created hpart hascending hcreate, trivial, List.Perm.refl _, ids_of_create hcreate,
    isLeast_of_create hcreate, total_eq_mul hempty⟩

namespace Accounted

theorem tracks (h : Accounted memory config drawn events work) :
    Tracks work.pool (Ledger.empty.after events) :=
  h.reached.tracks h.careful

/-- The size of the array is the number of outstanding addresses. -/
theorem length_outstanding (h : Accounted memory config drawn events work) :
    (Ledger.empty.after events).outstanding.length = work.live.size := by
  rw [← h.live_perm.length_eq, Array.length_toList]

theorem length_drawn (h : Accounted memory config drawn events work) :
    drawn.length = work.pool.blocks.size := by
  rw [← h.ids_eq, length_ids]

/-! ## Handing out -/

/-- A pool without room has all slots of all its blocks in use. -/
theorem live_size_eq (h : Accounted memory config drawn events work)
    (hindex : work.pool.roomIndex? = none) :
    work.live.size = work.pool.blocks.size * config.slotsPerBlock := by
  rw [← h.length_outstanding]
  exact h.tracks.length_outstanding_eq h.reached.sound h.reached.nodup_ids
    (not_hasRoom_of_roomIndex? hindex)

/-- The accounts agree after one more slot was handed out, if none was taken back before. -/
theorem issue {part : Memory} (h : Accounted memory config drawn events work)
    (hfreed : work.freed = 0) (hpart : memory.Part part) (hascending : Ascending (drawn ++ more))
    (hallocate : (work.pool.allocate part).Gives more (.ok address, pool)) :
    Accounted memory config (drawn ++ more) (events ++ issueEvents [address])
      { work with pool, live := work.live.push address } := by
  have hreached := h.reached.allocated hpart hascending hallocate
  have hstep := step_of_allocate hallocate
  refine ⟨hreached, careful_append_iff.2 ⟨h.careful, trivial, trivial⟩, ?_, ?_, ?_, ?_⟩
  · rw [Ledger.after_append, Array.toList_push]
    exact (List.perm_append_singleton _ _).trans (h.live_perm.cons address)
  · rw [ids_of_allocate hallocate, h.ids_eq]
  · apply hstep.isLeast_maxBlocks h.reached.initialBlocks_pos _ h.capacity
    intro fault hevent
    cases hevent
  · have hle := total_freeDepth_allocate_le hallocate
    rw [h.depth_eq, hfreed, Nat.le_zero] at hle
    rw [hfreed]
    exact hle

/-- Slots that are handed out in a row stand in the array in this order. -/
theorem issue_append {part : Memory} {issued : List Address} {filled : Pool}
    (h : Accounted memory config drawn (issueEvents issued) ⟨pool, issued.toArray, 0, 0⟩)
    (hpart : memory.Part part) (hascending : Ascending (drawn ++ more))
    (hallocate : (pool.allocate part).Gives more (.ok address, filled)) :
    Accounted memory config (drawn ++ more) (issueEvents (issued ++ [address]))
      ⟨filled, (issued ++ [address]).toArray, 0, 0⟩ := by
  have hissued := h.issue rfl hpart hascending hallocate
  have hevents : issueEvents issued ++ issueEvents [address] = issueEvents (issued ++ [address]) :=
    List.map_append.symm
  rw [hevents] at hissued
  simpa using hissued

/-- As long as none is taken back, the slots handed out tell the number of blocks. -/
theorem size_eq {issued : List Address}
    (h : Accounted memory config drawn (issueEvents issued) work) :
    work.pool.blocks.size = config.blocksFor issued.length := by
  have hsize := (h.reached.filled h.careful).size_eq (slotsPerBlock_pos h.reached.valid)
  rw [peak_issueEvents] at hsize
  simpa [Ledger.empty, Config.blocksFor] using hsize

/-- A slot is handed out unless the pool has to grow and is refused what it needs. -/
theorem allocate_cases {answers : Memory} {result : Except Fault Address}
    (h : Accounted memory config drawn events work)
    (hallocate : (work.pool.allocate (answers.turn work.live.size)).Gives more (result, pool)) :
    (∃ fault, result = .error fault ∧
      work.live.size = work.pool.blocks.size * config.slotsPerBlock ∧
      (answers.growing config work.pool.blocks.size).RefusesGrowth config work.pool.blocks.size
        fault) ∨
    (∃ address, result = .ok address ∧ work.pool.blocks.size ≤ pool.blocks.size ∧
      answers.LetsGrow config work.pool.blocks.size pool.blocks.size) := by
  -- A pool without room asks for just what is asked for after so many blocks.
  have hrefused (hindex : work.pool.roomIndex? = none) {fault : Fault}
      (hrefuses : (answers.growing config work.pool.blocks.size).RefusesGrowth config
        work.pool.blocks.size fault) : result = .error fault := by
    rcases allocate_of_refusesGrowth h.reached.sound h.capacity h.reached.plan_eq_ok hindex
      hrefuses with ⟨left, hleft⟩
    rw [Memory.growing, ← h.live_size_eq hindex] at hleft
    rw [hleft] at hallocate
    exact (Prod.mk.inj hallocate.2).1.symm
  rcases Pool.allocate_cases hallocate with ⟨index, block, offset, -, -, -, -, hissued, hafter⟩ |
    ⟨fault, -, hindex, hfault, -⟩ | ⟨id, regionBytes, -, hindex, -, hissued, hafter⟩
  · have hsize : pool.blocks.size = work.pool.blocks.size := by
      rw [hafter, takeAt, revise, Array.size_modify]
    exact Or.inr ⟨_, hissued, Nat.le_of_eq hsize.symm, fun count hle hlt => by omega⟩
  · refine Or.inl ⟨fault, hfault, h.live_size_eq hindex, ?_⟩
    by_contra hgranted
    have hgrows := canGrow_of_not_refusesGrowth h.reached.sound h.capacity h.reached.plan_eq_ok
      fun cause hrefuses => by
        have hcause := hrefused hindex hrefuses
        rw [hfault] at hcause
        rcases Except.error.inj hcause with rfl
        exact hgranted hrefuses
    rw [Memory.growing, ← h.live_size_eq hindex] at hgrows
    rcases exists_address_of_allocate (fun _ => hgrows) hallocate with ⟨address, hok⟩
    rw [hfault] at hok
    contradiction
  · have hsize : pool.blocks.size = work.pool.blocks.size + 1 := by
      rw [hafter, takeAt, revise, Array.size_modify, grown, Array.size_push]
    refine Or.inr ⟨_, hissued, by omega, fun count hle hlt cause hrefuses => ?_⟩
    have hcount : count = work.pool.blocks.size := by
      omega
    rw [hcount] at hrefuses
    have hcause := hrefused hindex hrefuses
    rw [hissued] at hcause
    contradiction

/-- All slots asked for are handed out, and their addresses stand in the array in this order; or the
growth of the pool is stopped on the way. -/
theorem fill_cases {answers : Memory} {issued : List Address} {result : Except Fault Workload}
    (hpart : memory.Part answers)
    (h : Accounted memory config drawn (issueEvents issued) ⟨pool, issued.toArray, 0, 0⟩)
    (hascending : Ascending (drawn ++ more))
    (hfill : (fill (answers.after issued.length) count ⟨pool, issued.toArray, 0, 0⟩).Gives more
      result) :
    (∃ all filled, all.length = issued.length + count ∧
      result = .ok ⟨filled, all.toArray, 0, 0⟩ ∧
      Accounted memory config (drawn ++ more) (issueEvents all) ⟨filled, all.toArray, 0, 0⟩ ∧
      answers.LetsGrow config pool.blocks.size (config.blocksFor (issued.length + count))) ∨
    (∃ fault, result = .error fault ∧
      answers.StopsGrowth config pool.blocks.size (config.blocksFor (issued.length + count))
        fault) := by
  induction count generalizing issued pool drawn more with
  | zero =>
      rcases hfill with ⟨rfl, rfl⟩
      refine Or.inl ⟨issued, pool, rfl, rfl, by simpa using h, fun count hle hlt => ?_⟩
      have hsize : pool.blocks.size = config.blocksFor issued.length := h.size_eq
      rw [Nat.add_zero, ← hsize] at hlt
      omega
  | succ count ih =>
      rcases gives_bind_iff.1 hfill with ⟨own, rest, ⟨first, middle⟩, rfl, hallocate, hrest⟩
      rw [← List.append_assoc] at hascending ⊢
      have hnext : issued.length + (count + 1) = (issued.length + 1) + count := by omega
      rcases h.allocate_cases hallocate with ⟨fault, rfl, hall, hrefuses⟩ |
        ⟨address, rfl, hmore, hlets⟩
      · rcases hrest with ⟨rfl, rfl⟩
        refine Or.inr ⟨fault, rfl, pool.blocks.size, Nat.le_refl _, ?_, hrefuses, ?_⟩
        · -- All blocks are full, and there is one more slot to hand out.
          have hall : issued.length = pool.blocks.size * config.slotsPerBlock := by
            simpa using hall
          exact Config.lt_blocksFor (slotsPerBlock_pos h.reached.valid) (by omega)
        · intro earlier hle hlt
          omega
      · have hissued := h.issue_append (hpart.turn issued.length) hascending.left hallocate
        have hlive : issued.toArray.push address = (issued ++ [address]).toArray := by
          simp
        have hlength : (issued ++ [address]).length = issued.length + 1 := by simp
        simp only [hlive] at hrest
        rw [Memory.rest_after, ← hlength] at hrest
        rcases ih hissued hascending hrest with ⟨all, filled, hcount, hresult, hafter, hfurther⟩ |
          ⟨fault, hresult, hstops⟩
        · rw [hlength] at hcount hfurther
          rw [hnext]
          exact Or.inl ⟨all, filled, hcount, hresult, hafter, hlets.trans hfurther⟩
        · rw [hlength] at hstops
          rw [hnext]
          exact Or.inr ⟨fault, hresult, hlets.stopsGrowth hmore hstops⟩

/-! ## Taking back -/

/-- The address that pruning comes upon is outstanding. -/
theorem victim_outstanding (h : Accounted memory config drawn events work)
    (hlive : 0 < work.live.size) :
    work.victim hlive ∈ (Ledger.empty.after events).outstanding := by
  rw [← h.live_perm.mem_iff, ← (swapRemove_perm _ _ (nextIndex_lt hlive)).mem_iff]
  exact List.mem_cons_self

/-- The accounts agree after a round of pruning, which never fails. -/
theorem pruned (h : Accounted memory config drawn events work) (check : FreeCheck)
    (hlive : 0 < work.live.size) :
    ∃ pool, work.pool.free check (work.victim hlive) = (.ok (), pool) ∧
      Accounted memory config drawn (events ++ freeEvents check [work.victim hlive])
        (work.pruned hlive pool) := by
  have hout := h.victim_outstanding hlive
  have hpasses := h.tracks.refusal?_eq_none h.reached.nodup_ids check hout
  rcases hfree : work.pool.free check (work.victim hlive) with ⟨result, pool⟩
  rcases free_cases hfree with ⟨fault, hrefusal, -, -⟩ |
    ⟨index, block, hblock, hcontains, hblockPasses, rfl, rfl⟩
  · rw [hpasses] at hrefusal
    contradiction
  have hstep : Step work.pool [] ⟨.free check (work.victim hlive), .done⟩ _ :=
    Step.freed hblock hcontains hblockPasses
  refine ⟨_, rfl, h.reached.acted_done (act_free_eq hfree),
    careful_append_iff.2 ⟨h.careful, ?_, trivial⟩, ?_, ?_, ?_, ?_⟩
  · cases check with
    | quick => exact hout
    | thorough => trivial
  · rw [Ledger.after_append]
    -- Without its next address the array holds what the ledger holds without it.
    have hrest := (swapRemove_perm _ _ (nextIndex_lt hlive)).trans h.live_perm
    exact (hrest.trans (List.perm_cons_erase hout)).cons_inv
  · rw [← h.ids_eq]
    exact ids_revise _ index (Block.pushFree_id · _)
  · apply hstep.isLeast_maxBlocks h.reached.initialBlocks_pos _ h.capacity
    intro fault hevent
    cases hevent
  · have hdepth := total_freeDepth_pushFree hblock (work.victim hlive).offset
    rw [h.depth_eq] at hdepth
    exact hdepth

end Accounted

/-- What a complete pruning did. -/
structure TakesBack (check : FreeCheck) (frees : Nat) (ledger : Ledger) (work : Workload)
    (taken : List Address) (after : Workload) : Prop where
  /-- The loop came to its end. -/
  loop : Pruning check frees work taken after
  /-- Every address was outstanding when its turn came. -/
  outstanding : ∀ before address later, taken = before ++ address :: later →
    address ∈ (ledger.after (freeEvents check before)).outstanding
  /-- What was not taken back is still in the array. -/
  perm : (taken ++ after.live.toList).Perm work.live.toList
  freed_eq : after.freed = frees

/-- All rounds asked for are gone through, if there are addresses for them. -/
theorem Accounted.prune (h : Accounted memory config drawn events work) (check : FreeCheck)
    (hfrees : work.freed + count = frees) (hcount : count ≤ work.live.size) :
    ∃ taken after, taken.length = count ∧
      TakesBack check frees (Ledger.empty.after events) work taken after ∧
      Accounted memory config drawn (events ++ freeEvents check taken) after := by
  induction count generalizing work events with
  | zero =>
      refine ⟨[], work, rfl, ⟨Pruning.stop (by omega), ?_, List.Perm.refl _, by omega⟩, ?_⟩
      · intro before address later hsplit
        simp at hsplit
      · simpa [freeEvents] using h
  | succ count ih =>
      have hlive : 0 < work.live.size := by omega
      have hout := h.victim_outstanding hlive
      rcases h.pruned check hlive with ⟨pool, hfree, hpruned⟩
      have hsize : (work.pruned hlive pool).live.size = work.live.size - 1 := size_swapRemove ..
      have hfreed : (work.pruned hlive pool).freed = work.freed + 1 := rfl
      rcases ih hpruned (by omega) (by omega) with ⟨taken, after, hlength, htakes, hafter⟩
      refine ⟨work.victim hlive :: taken, after, ?_, ⟨?_, ?_, ?_, htakes.freed_eq⟩, ?_⟩
      · rw [List.length_cons, hlength]
      · exact Pruning.round (by omega) hlive hfree htakes.loop
      · intro before address later hsplit
        cases before with
        | nil =>
            rcases List.cons.inj hsplit with ⟨rfl, -⟩
            exact hout
        | cons first before =>
            rcases List.cons.inj hsplit with ⟨rfl, hrest⟩
            have hlater := htakes.outstanding before address later hrest
            rw [Ledger.after_append] at hlater
            exact hlater
      · exact (htakes.perm.cons _).trans (swapRemove_perm _ _ (nextIndex_lt hlive))
      · rw [List.append_assoc events] at hafter
        exact hafter

end Workload

end Inspector

end SlotPool
