import SlotPool.Inspector
import SlotPool.Proofs.Config.Agreement
import SlotPool.Proofs.Inspector.Workload

/-!
# How the inspector's workload ends

Once there is room for the list of addresses, the inspector fails exactly when its pool cannot be
built, or when the system refuses the pool what it needs in order to grow.  Otherwise it goes
through the whole workload, whatever the numbers of slots to hand out and to take back, and under
either check.  What it prints in the end then follows from these numbers, but for the distribution
of the slots taken back among the blocks.

Main definitions:

- `Inspector.dumpText` and `Inspector.printed`: what is printed, told from the numbers of a
  workload.
- `Inspector.Completed`: a workload that was gone through to its end.

Main results:

- Theorem `Pool.text_eq_dumpText`: the dump of a pool whose blocks are numbered from one on.
- Theorem `Inspector.run_cases`: a workload on a pool that was built comes to its end, unless the
  growth of the pool is stopped.
- Theorem `Inspector.workload_completes`: when the workload fails, what it does, and what is
  printed.
-/

namespace SlotPool

open Fresh

/-- The identities of the first `count` blocks that were ever created. -/
def firstIds (count : Nat) : List BlockId :=
  (List.range' 1 count).map BlockId.mk

namespace Inspector

/-! ## What is printed -/

/-- The line on a block of a pool of `config` with `depth` slots on its free stack. -/
def blockText (config : Config) (number depth : Nat) : String :=
  s!"block#{number}" ++
    s!" region_bytes: {config.regionBytes} object_size: {config.objectSize} " ++
    s!"free_list_depth: {depth}"

/-- The dump of a pool of `config` whose blocks are numbered from one on. -/
def dumpText (config : Config) (maxBlocks : Nat) (depths : List Nat) : String :=
  s!"pool blocks: {depths.length} max_blocks: {maxBlocks} object_size: {config.objectSize}\n" ++
    String.join (depths.mapIdx fun index depth =>
      "  " ++ blockText config (index + 1) depth ++ "\n")

/-- What is printed after a workload that left `depths` slots on the free stacks. -/
def printed (config : Config) (allocs frees initialFootprint footprint maxBlocks : Nat)
    (depths : List Nat) (reclaim : Bool) : String :=
  dumpText config maxBlocks depths ++ "\n" ++
    s!"live objects:      {allocs - frees}\n" ++
    s!"freed objects:     {frees}\n" ++
    s!"initial footprint: {initialFootprint} bytes\n" ++
    s!"current footprint: {footprint} bytes\n" ++
    s!"block ids:         1..={depths.length} ({config.objectSize} byte slots)\n" ++
    if reclaim then
      "\nafter reclaim:\n" ++ dumpText config maxBlocks (List.replicate depths.length 0) ++ "\n"
    else ""

example : printed ⟨8, 1, 16⟩ 5 3 144 384 4 [1, 1, 1] false =
    "pool blocks: 3 max_blocks: 4 object_size: 8\n" ++
      "  block#1 region_bytes: 16 object_size: 8 free_list_depth: 1\n" ++
      "  block#2 region_bytes: 16 object_size: 8 free_list_depth: 1\n" ++
      "  block#3 region_bytes: 16 object_size: 8 free_list_depth: 1\n" ++
      "\n" ++
      "live objects:      2\n" ++
      "freed objects:     3\n" ++
      "initial footprint: 144 bytes\n" ++
      "current footprint: 384 bytes\n" ++
      "block ids:         1..=3 (8 byte slots)\n" := by
  decide +kernel

end Inspector

namespace Pool

variable {config : Config} {drawn : List BlockId} {pool : Pool} {count index : Nat}

/-! ## Pools whose blocks are numbered from one on -/

theorem size_of_numbered (hids : pool.ids = firstIds count) :
    pool.blocks.size = count := by
  rw [← length_ids, hids]
  simp [firstIds]

theorem id_of_numbered (hids : pool.ids = firstIds count)
    (hindex : index < pool.blocks.size) : pool.blocks[index].id = ⟨index + 1⟩ := by
  have hget : pool.ids[index]? = some pool.blocks[index].id :=
    getElem?_ids (Array.getElem?_eq_getElem hindex)
  have hlt : index < count := by
    rw [← size_of_numbered hids]
    exact hindex
  rw [hids, firstIds, List.getElem?_map, List.getElem?_range' hlt] at hget
  simpa [Nat.add_comm] using hget.symm

/-- Every line of a dump tells the number of a block, the sizes that all of them have, and what
waits on the free stack. -/
theorem text_eq_dumpText (hsound : Sound config drawn pool)
    (hids : pool.ids = firstIds count) :
    pool.text = Inspector.dumpText config pool.maxBlocks
      (pool.blocks.toList.map Block.freeDepth) := by
  have hlines : (pool.blocks.toList.map fun block => "  " ++ block.text ++ "\n") =
      (pool.blocks.toList.map Block.freeDepth).mapIdx fun index depth =>
        "  " ++ Inspector.blockText config (index + 1) depth ++ "\n" := by
    apply List.ext_getElem
    · simp
    · intro index hlength _
      have hindex : index < pool.blocks.size := by simpa using hlength
      have hsized := hsound.sized _ (Array.getElem_mem hindex)
      simp only [List.getElem_map, Array.getElem_toList, List.getElem_mapIdx, Block.text,
        Inspector.blockText, id_of_numbered hids hindex, hsized, BlockId.text]
  have hcount : pool.blockCount = (pool.blocks.toList.map Block.freeDepth).length := by
    simp [blockCount]
  unfold text Inspector.dumpText
  rw [hlines, hcount, hsound.objectSize_eq]

/-- After a reclaim the dump is the same, with nothing on any free stack. -/
theorem text_reclaim_eq_dumpText (hsound : Sound config drawn pool)
    (hids : pool.ids = firstIds count) :
    pool.reclaim.text =
      Inspector.dumpText config pool.maxBlocks (List.replicate count 0) := by
  have hdepths : pool.reclaim.blocks.toList.map Block.freeDepth = List.replicate count 0 := by
    rw [List.eq_replicate_iff]
    constructor
    · simp [reclaim, size_of_numbered hids]
    · intro depth hdepth
      rcases List.mem_map.1 hdepth with ⟨block, hmem, rfl⟩
      rcases Array.mem_map.1 (Array.mem_toList_iff.1 hmem) with ⟨old, -, rfl⟩
      rfl
  have hids' : pool.reclaim.ids = firstIds count := by
    rw [ids_reclaim, hids]
  rw [text_eq_dumpText hsound.reclaim hids', hdepths]
  rfl

/-- The line on the identities of the blocks, from the first to the last. -/
theorem blockLine_eq (hsound : Sound config drawn pool) (hpos : 0 < count)
    (hids : pool.ids = firstIds count) :
    Inspector.blockLine pool =
      s!"block ids:         1..={count} ({config.objectSize} byte slots)\n" := by
  have hsize := size_of_numbered hids
  have hlt : pool.blocks.size - 1 < pool.blocks.size := by omega
  have hfirst : pool.blocks[0]? = some pool.blocks[0] := Array.getElem?_eq_getElem _
  have hlast : pool.blocks.back? = some pool.blocks[pool.blocks.size - 1] := by
    rw [Array.back?_eq_getElem?]
    exact Array.getElem?_eq_getElem hlt
  have hnumber : pool.blocks.size - 1 + 1 = count := by omega
  have hsized := hsound.sized pool.blocks[0] (Array.getElem_mem _)
  have hprefix : toString "block ids:         " ++ toString (0 + 1) ++ toString "..=" =
      toString "block ids:         1..=" := by
    decide
  simp only [Inspector.blockLine, hfirst, hlast, id_of_numbered hids, hnumber, hsized.1, hprefix]

end Pool

namespace Inspector

open Pool Workload

variable {memory : Memory} {check : FreeCheck} {config : Config}
variable {pool : Pool} {work : Workload} {issued taken : List Address} {allocs frees : Nat}

/-! ## The whole workload -/

/-- A workload that handed out `issued`, one slot after another, and took `taken` of them back. -/
structure Completed (memory : Memory) (check : FreeCheck) (config : Config) (allocs frees : Nat)
    (work : Workload) (issued taken : List Address) : Prop where
  issued_length : issued.length = allocs
  /-- There was a round of pruning for every slot to be taken back. -/
  rounds : taken.length = frees
  nodup : taken.Nodup
  /-- Pruning started with all slots in use. -/
  course : ∃ filled,
    Reached memory config (firstIds (config.blocksFor allocs)) (issueEvents issued) filled ∧
    TakesBack check frees (Ledger.empty.after (issueEvents issued))
      ⟨filled, issued.toArray, 0, 0⟩ taken work
  /-- Nothing else happened to the pool, and no free was refused. -/
  accounted : Accounted memory config (firstIds (config.blocksFor allocs))
    (issueEvents issued ++ freeEvents check taken) work
  live_size : work.live.size = allocs - frees
  freed_eq : work.freed = frees

/-- All slots asked for are handed out of a new pool, or its growth is stopped. -/
theorem filled_cases {next last : Nat} {result : Except Fault Workload}
    (hbuilt : (create memory.first config).runFrom 1 = (.ok pool, next))
    (hfilled : (fill (memory.after 2) allocs (idle pool)).runFrom next = (result, last)) :
    (∃ issued filled, issued.length = allocs ∧ result = .ok ⟨filled, issued.toArray, 0, 0⟩ ∧
      Accounted memory config (firstIds (config.blocksFor allocs)) (issueEvents issued)
        ⟨filled, issued.toArray, 0, 0⟩ ∧
      (memory.after 2).LetsGrow config config.initialBlocks (config.blocksFor allocs)) ∨
    (∃ fault, result = .error fault ∧
      (memory.after 2).StopsGrowth config config.initialBlocks (config.blocksFor allocs)
        fault) := by
  have hcreate := gives_of_runFrom hbuilt
  have hle := le_runFrom (create memory.first config) 1
  have hle' := le_runFrom (fill (memory.after 2) allocs (idle pool)) next
  simp only [hbuilt] at hle
  simp only [hfilled] at hle'
  have hsplit := range'_append_of_le hle hle'
  have hascending := ascending_range' 1 (last - 1)
  rw [hsplit] at hascending
  have hidle : Accounted memory config _ (issueEvents []) ⟨pool, List.toArray [], 0, 0⟩ :=
    accounted_idle Memory.Part.all.first hascending.left hcreate
  have hinitial : pool.blocks.size = config.initialBlocks := by
    rcases eq_ofBlocks_of_create hcreate with ⟨-, hlength, rfl⟩
    simpa [ofBlocks] using hlength
  have hcases := hidle.fill_cases (Memory.Part.all.after 2) hascending (gives_of_runFrom hfilled)
  rw [hinitial, List.length_nil, Nat.zero_add] at hcases
  rcases hcases with ⟨issued, filled, hissued, hresult, haccounted, hlets⟩ | hstops
  · -- Every identity drawn is that of a block, and all of them together have the slots handed out.
    rw [← hsplit] at haccounted
    have hcount : last - 1 = config.blocksFor allocs := by
      rw [← hissued, ← haccounted.size_eq, ← haccounted.length_drawn]
      simp
    rw [hcount] at haccounted
    exact Or.inl ⟨issued, filled, hissued, hresult, haccounted, hlets⟩
  · exact Or.inr hstops

/-- A workload on a pool that was built is gone through to its end, or the growth of the pool is
stopped on the way. -/
theorem run_cases (hfrees : frees ≤ allocs)
    (hlist : (memory.turn 1).grants (allocs * addressBytes) = true)
    (check : FreeCheck) (hcreate : (create memory.first config).run = .ok pool) :
    (∃ work issued taken,
      (Workload.run memory check config allocs frees).run = .finished pool.footprint work ∧
      Completed memory check config allocs frees work issued taken ∧
      (memory.after 2).LetsGrow config config.initialBlocks (config.blocksFor allocs)) ∨
    (∃ fault, (Workload.run memory check config allocs frees).run = .refused fault ∧
      (memory.after 2).StopsGrowth config config.initialBlocks (config.blocksFor allocs)
        fault) := by
  rcases hbuilt : (create memory.first config).runFrom 1 with ⟨result, next⟩
  simp only [Fresh.run, hbuilt] at hcreate
  subst hcreate
  rcases hfilled : (fill (memory.after 2) allocs (idle pool)).runFrom next with ⟨result, last⟩
  rcases filled_cases hbuilt hfilled with ⟨issued, filled, hissued, rfl, hfill, hlets⟩ |
    ⟨fault, rfl, hstops⟩
  · have henough : frees ≤ issued.toArray.size := by
      rw [List.size_toArray, hissued]
      exact hfrees
    rcases hfill.prune check (Nat.zero_add frees) henough with
      ⟨taken, work, hrounds, htakes, hwork⟩
    have hprune : prune check frees ⟨filled, issued.toArray, 0, 0⟩ = .ok work := by
      rw [prune_eq_ok_iff, Nat.zero_add]
      exact ⟨taken, htakes.loop⟩
    refine Or.inl ⟨work, issued, taken, ?_, ⟨hissued, hrounds, ?_,
      ⟨filled, hfill.reached, htakes⟩, hwork, ?_, htakes.freed_eq⟩, hlets⟩
    · simp only [Fresh.run, Workload.run, runFrom_bind, hbuilt, if_pos hlist, hfilled, hprune,
        runFrom_done]
    · -- All addresses in use before pruning are distinct.
      have hdistinct := hfill.live_perm.nodup_iff.2 hfill.tracks.nodup_outstanding
      exact (List.nodup_append.1 (htakes.perm.nodup_iff.2 hdistinct)).1
    · have hlength := htakes.perm.length_eq
      simp only [List.length_append, hrounds, Array.length_toList, hissued] at hlength
      omega
  · refine Or.inr ⟨fault, ?_, hstops⟩
    simp only [Fresh.run, Workload.run, runFrom_bind, hbuilt, if_pos hlist, hfilled, runFrom_done]

/-- The workload fails as building the pool does, or as the growth of the pool does. -/
theorem run_eq_refused_iff (hfrees : frees ≤ allocs)
    (hlist : (memory.turn 1).grants (allocs * addressBytes) = true)
    (check : FreeCheck) (fault : Fault) :
    (Workload.run memory check config allocs frees).run = .refused fault ↔
      (create memory.first config).run = .error fault ∨
      (∃ pool, (create memory.first config).run = .ok pool) ∧
        (memory.after 2).StopsGrowth config config.initialBlocks (config.blocksFor allocs)
          fault := by
  rcases hcreate : (create memory.first config).run with cause | pool
  · have hrun : (Workload.run memory check config allocs frees).run = .refused cause := by
      simp only [Fresh.run] at hcreate
      simp only [Fresh.run, Workload.run, runFrom_bind, hcreate, runFrom_done]
    simp [hrun]
  · rcases run_cases hfrees hlist check hcreate with ⟨work, -, -, hrun, -, hlets⟩ |
      ⟨cause, hrun, hstops⟩
    · have hnever : ¬ (memory.after 2).StopsGrowth config config.initialBlocks
          (config.blocksFor allocs) fault := fun hstops => hstops.not_letsGrow hlets
      simp [hrun, hnever]
    · rw [hrun, Outcome.refused.injEq]
      constructor
      · rintro rfl
        exact Or.inr ⟨⟨pool, rfl⟩, hstops⟩
      · rintro (hbuilt | ⟨-, hother⟩)
        · contradiction
        · exact hstops.unique hother

/-! ## The main result -/

/-- What is printed at the end of a completed workload. -/
theorem Completed.response_eq (h : Completed memory check config allocs frees work issued taken)
    (initialFootprint : Nat) (reclaim : Bool) :
    (Outcome.finished initialFootprint work).response reclaim =
      { exitCode := 0
        stdout := printed config allocs frees initialFootprint work.pool.footprint
          work.pool.maxBlocks (work.pool.blocks.toList.map Block.freeDepth) reclaim
        stderr := "" } := by
  have hsound := h.accounted.reached.sound
  have hids := h.accounted.ids_eq
  have hpos : 0 < config.blocksFor allocs :=
    Nat.lt_of_lt_of_le h.accounted.reached.initialBlocks_pos (Nat.le_max_left ..)
  have hlength : (work.pool.blocks.toList.map Block.freeDepth).length =
      config.blocksFor allocs := by
    rw [List.length_map, Array.length_toList, size_of_numbered hids]
  simp only [Outcome.response, report, printed, text_eq_dumpText hsound hids,
    text_reclaim_eq_dumpText hsound hids, blockLine_eq hsound hpos hids, hlength, h.live_size,
    h.freed_eq]

/-- If there is room for the list of addresses, the workload fails exactly as building the pool
does, or else for the first thing that the system refuses to the pool while it grows, under either
check.  Otherwise pruning takes back as many slots as asked for, round after round, each of them
outstanding when its turn comes and no two the same, and every other slot stays in use.  The dump
then lists the blocks that all slots together need, or those built in the beginning if these are
more, with the slots taken back on their free stacks; and after a reclaim it lists the same blocks
with nothing on any free stack. -/
theorem workload_completes (hfrees : frees ≤ allocs)
    (hlist : (memory.turn 1).grants (allocs * addressBytes) = true) (check : FreeCheck) :
    (∀ fault, (Workload.run memory check config allocs frees).run = .refused fault ↔
      (create memory.first config).run = .error fault ∨
      (∃ pool, (create memory.first config).run = .ok pool) ∧
        (memory.after 2).StopsGrowth config config.initialBlocks (config.blocksFor allocs)
          fault) ∧
    ∀ pool, (create memory.first config).run = .ok pool →
      (∀ fault, ¬ (memory.after 2).StopsGrowth config config.initialBlocks
        (config.blocksFor allocs) fault) →
      ∃ work issued taken maxBlocks depths,
        (Workload.run memory check config allocs frees).run = .finished pool.footprint work ∧
        Completed memory check config allocs frees work issued taken ∧
        IsLeast (config.capacitiesFor (config.blocksFor allocs)) maxBlocks ∧
        depths.length = config.blocksFor allocs ∧ depths.sum = frees ∧
        ∀ reclaim, (Outcome.finished pool.footprint work).response reclaim =
          { exitCode := 0
            stdout := printed config allocs frees pool.footprint work.pool.footprint maxBlocks
              depths reclaim
            stderr := "" } := by
  refine ⟨run_eq_refused_iff hfrees hlist check, fun pool hcreate hnever => ?_⟩
  rcases run_cases hfrees hlist check hcreate with
    ⟨work, issued, taken, hrun, hcompleted, -⟩ | ⟨fault, -, hstops⟩
  · have haccounted := hcompleted.accounted
    have hsize := size_of_numbered haccounted.ids_eq
    refine ⟨work, issued, taken, work.pool.maxBlocks,
      work.pool.blocks.toList.map Block.freeDepth, hrun, hcompleted, ?_, ?_, ?_,
      hcompleted.response_eq pool.footprint⟩
    · rw [← hsize]
      exact haccounted.capacity
    · rw [List.length_map, Array.length_toList, hsize]
    · rw [← total_eq_sum, haccounted.depth_eq, hcompleted.freed_eq]
  · exact absurd hstops (hnever fault)

/-- Five slots were handed out and three of them taken back, one of each block. -/
def fiveSlots : Workload where
  pool :=
    { objectSize := 8
      blockBytes := 16
      blocks := #[{ Block.fresh ⟨1⟩ 8 16 with bumpCursor := 16, freeStack := #[0] },
        { Block.fresh ⟨2⟩ 8 16 with bumpCursor := 16, freeStack := #[0] },
        { Block.fresh ⟨3⟩ 8 16 with bumpCursor := 8, freeStack := #[0] }]
      current := 2
      maxBlocks := 4 }
  live := #[⟨⟨2⟩, 8⟩, ⟨⟨1⟩, 8⟩]
  freed := 3
  index := 2

/-- A system without room for more than a hundred bytes at once. -/
def scarce : Memory :=
  .steady fun bytes => decide (bytes ≤ 100)

/-- A pool that is built with one block of two slots has three of them in the end.  Where memory is
scarce, a pool of one slot cannot grow, since two references take more than there is. -/
theorem workload_completes_fiveSlots :
    3 ≤ 5 ∧ (Memory.ample.turn 1).grants (5 * addressBytes) = true ∧
      (create Memory.ample.first ⟨8, 1, 16⟩).run =
        .ok (ofBlocks ⟨8, 1, 16⟩ #[.fresh ⟨1⟩ 8 16]) ∧
      (∀ fault, ¬ (Memory.ample.after 2).StopsGrowth ⟨8, 1, 16⟩ 1 3 fault) ∧
      (Workload.run .ample .quick ⟨8, 1, 16⟩ 5 3).run = .finished 144 fiveSlots ∧
      (∃ issued taken maxBlocks depths,
        Completed .ample .quick ⟨8, 1, 16⟩ 5 3 fiveSlots issued taken ∧
        IsLeast (Config.capacitiesFor ⟨8, 1, 16⟩ 3) maxBlocks ∧
        depths.length = 3 ∧ depths.sum = 3 ∧
        (Outcome.finished 144 fiveSlots).response true =
          { exitCode := 0
            stdout := printed ⟨8, 1, 16⟩ 5 3 144 384 maxBlocks depths true
            stderr := "" }) ∧
      (scarce.turn 1).grants (2 * addressBytes) = true ∧
      (Workload.run scarce .quick ⟨8, 1, 8⟩ 2 0).run = .refused (.outOfMemory 128) ∧
      (scarce.after 2).StopsGrowth ⟨8, 1, 8⟩ 1 2 (.outOfMemory 128) := by
  have hfrees : 3 ≤ 5 := by decide
  have hlist : (Memory.ample.turn 1).grants (5 * addressBytes) = true := by decide
  have hcreate : (create Memory.ample.first ⟨8, 1, 16⟩).run =
      .ok (ofBlocks ⟨8, 1, 16⟩ #[.fresh ⟨1⟩ 8 16]) := by
    rfl
  have hrun : (Workload.run .ample .quick ⟨8, 1, 16⟩ 5 3).run = .finished 144 fiveSlots := by
    with_unfolding_all rfl
  have hblocks : Config.blocksFor ⟨8, 1, 16⟩ 5 = 3 := by decide
  -- Growth that was stopped would have made the workload fail.
  have hnever : ∀ fault, ¬ (Memory.ample.after 2).StopsGrowth ⟨8, 1, 16⟩ 1
      (Config.blocksFor ⟨8, 1, 16⟩ 5) fault := by
    intro fault hstops
    have hrefused := ((workload_completes hfrees hlist .quick).1 fault).2
      (Or.inr ⟨⟨_, hcreate⟩, hstops⟩)
    rw [hrun] at hrefused
    contradiction
  have hscarce : (scarce.turn 1).grants (2 * addressBytes) = true := by decide
  have hrefused : (Workload.run scarce .quick ⟨8, 1, 8⟩ 2 0).run = .refused (.outOfMemory 128) := by
    with_unfolding_all rfl
  have hstops : (scarce.after 2).StopsGrowth ⟨8, 1, 8⟩ 1 2 (.outOfMemory 128) := by
    rcases ((workload_completes (Nat.zero_le 2) hscarce .quick).1 _).1 hrefused with
      herror | ⟨-, hstops⟩
    · have hbuilt : (create scarce.first ⟨8, 1, 8⟩).run =
          .ok (ofBlocks ⟨8, 1, 8⟩ #[.fresh ⟨1⟩ 8 8]) := by
        rfl
      rw [hbuilt] at herror
      contradiction
    · exact hstops
  rcases (workload_completes hfrees hlist .quick).2 _ hcreate hnever with
    ⟨work, issued, taken, maxBlocks, depths, hfinished, hcompleted, hleast, hlength, hsum, hprinted⟩
  rw [hblocks] at hnever hleast hlength
  rw [hrun] at hfinished
  refine ⟨hfrees, hlist, hcreate, hnever, hrun, ?_, hscarce, hrefused, hstops⟩
  rcases Outcome.finished.inj hfinished with ⟨-, rfl⟩
  exact ⟨issued, taken, maxBlocks, depths, hcompleted, hleast, hlength, hsum, hprinted true⟩

end Inspector

end SlotPool
