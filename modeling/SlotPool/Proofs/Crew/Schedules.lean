import SlotPool.Proofs.Crew.Programs
import SlotPool.Proofs.Crew.Reports

/-!
# Schedules and reports

Threads with private pools share the supply of identities, so that the blocks of a pool are named
differently from schedule to schedule.  Nothing else in the reports depends on the schedule: however
the threads' draws and ends are interleaved, the reports are those of the workers run one after
another, but for the identities.

Main definitions:

- `Ending.unnamed` and `Report.unnamed`: an end and a report without identities.

Main results:

- Theorem `PooledWorker.unnamed_of_thread`: a thread ends in the same way whatever it draws.
- Theorem `reports_independent_of_schedule`: every interleaving yields the reports of one.
-/

namespace SlotPool

open Fresh

universe u

variable {memory : Memory} {check : FreeCheck} {config : Config} {drawn drawn' : List BlockId}

/-! ## Reports without identities -/

section Reporting

variable {R : Type u}

/-- The same end without the identities of blocks. -/
def Ending.unnamed : Ending R → Ending R
  | crashed => .crashed
  | refused fault => .refused fault
  | returned processed pool output => .returned processed (pool.map Pool.Stats.unnamed) output

/-- The report without the identities of blocks. -/
def Report.unnamed (report : Report R) : Report R :=
  { report with pool := report.pool.map Pool.Stats.unnamed }

/-- Reports without identities are the reports on ends without identities. -/
theorem collect_unnamed (number : Nat) (work : List (TaskRange × Ending R)) :
    (collect number work).map (List.map Report.unnamed) =
      collect number (work.map (Prod.map id Ending.unnamed)) := by
  induction work generalizing number with
  | nil => rfl
  | cons entry work ih =>
      rcases entry with ⟨tasks, ending⟩
      rw [List.map_cons]
      cases ending with
      | crashed => rfl
      | refused fault => rfl
      | returned processed pool output =>
          have hrest := ih (number + 1)
          simp only [Prod.map_apply, id_eq, Ending.unnamed, collect, Ending.report]
          rw [← hrest]
          cases collect (number + 1) work <;> rfl

end Reporting

/-! ## Threads -/

section Threads

variable {S R : Type} {shared : S} {total threads : Nat} {worker : PooledWorker S R}
variable {params : TaskParams S} {ending ending' : Ending R}

/-- A thread ends in the same way whatever it draws, but for the identities of its blocks. -/
theorem PooledWorker.unnamed_of_thread (hascending : Ascending drawn)
    (hascending' : Ascending drawn')
    (h : (PooledWorker.thread memory check config worker params).Gives drawn ending)
    (h' : (PooledWorker.thread memory check config worker params).Gives drawn' ending') :
    ending.unnamed = ending'.unnamed := by
  rw [← PooledWorker.thread_use] at h h'
  rcases PoolUse.thread_cases h with ⟨fault, hcreate, rfl⟩ |
    ⟨own, rest, pool, value, after, rfl, hcreate, hrun, rfl⟩
  · rcases PoolUse.thread_cases h' with ⟨fault', hcreate', rfl⟩ |
      ⟨own', rest', pool', value', after', rfl, hcreate', hrun', rfl⟩
    · rw [Except.error.inj (Pool.unnamed_of_create hcreate hcreate')]
    · cases Pool.unnamed_of_create hcreate hcreate'
  · rcases PoolUse.thread_cases h' with ⟨fault', hcreate', rfl⟩ |
      ⟨own', rest', pool', value', after', rfl, hcreate', hrun', rfl⟩
    · cases Pool.unnamed_of_create hcreate hcreate'
    · have hsame : pool.unnamed = pool'.unnamed := by
        simpa [Except.map] using Pool.unnamed_of_create hcreate hcreate'
      have hfirst : memory.Part memory.first := Memory.Part.all.first
      have hreached := Pool.Reached.created hfirst hascending.left hcreate
      have hreached' := Pool.Reached.created hfirst hascending'.left hcreate'
      rcases Program.unnamed_of_run hreached hreached' Memory.Part.all.rest hascending hascending'
        hsame hrun hrun' with ⟨rfl, hafter⟩
      have hstats : after.stats.unnamed = after'.stats.unnamed := by
        rw [← Pool.stats_unnamed, ← Pool.stats_unnamed, hafter]
      cases value with
      | none => rfl
      | some returned => simp only [Ending.unnamed, Option.map_some, hstats]

/-- All threads of a crew end in the same way under every schedule, but for identities. -/
theorem map_unnamed_run (schedule schedule' : List Nat) (first first' : Nat) :
    ((crewOf shared total threads (PooledWorker.thread memory check config worker)).run schedule
        first).1.map Ending.unnamed =
      ((crewOf shared total threads (PooledWorker.thread memory check config worker)).run schedule'
        first').1.map Ending.unnamed := by
  apply List.ext_getElem?
  intro number
  rw [List.getElem?_map, List.getElem?_map]
  cases hthread : (crewOf shared total threads
      (PooledWorker.thread memory check config worker))[number]? with
  | none =>
      rw [List.getElem?_eq_none_iff, length_crewOf] at hthread
      rw [List.getElem?_eq_none (by simpa using hthread),
        List.getElem?_eq_none (by simpa using hthread)]
  | some thread =>
      have hparams := hthread
      rw [getElem?_crewOf] at hparams
      rcases Option.map_eq_some_iff.1 hparams with ⟨range, -, rfl⟩
      -- The two schedules let the thread draw different identities, but it draws them in order.
      rcases Crew.gives_run schedule hthread with ⟨ids, value, hvalue, hascending, hgives⟩
      rcases Crew.gives_run schedule' hthread with ⟨ids', value', hvalue', hascending', hgives'⟩
      rw [hvalue, hvalue', Option.map_some, Option.map_some,
        PooledWorker.unnamed_of_thread hascending hascending' hgives hgives']

/-- Under every schedule the same is computed, but for identities. -/
theorem computePooled_unnamed (schedule schedule' : List Nat) (first first' : Nat) :
    (computePooled memory check config shared total threads worker schedule first).map
        (List.map Report.unnamed) =
      (computePooled memory check config shared total threads worker schedule' first').map
        (List.map Report.unnamed) := by
  rw [computePooled_eq, computePooled_eq]
  split
  · rfl
  · unfold outcomeUnder
    split
    · rfl
    · rw [collect_unnamed, collect_unnamed, ← List.zip_map_right, ← List.zip_map_right,
        PooledWorker.thread_use, map_unnamed_run schedule schedule' first first']

end Threads

/-! ## Every interleaving -/

/-- Workers with private pools report the same under every schedule, but for the identities of
their blocks: what they report when they run one after another.  So they do along every course of
draws and ends that leads to reports at all, and every course can be brought to its end. -/
theorem reports_independent_of_schedule {S R : Type} (memory : Memory) (check : FreeCheck)
    (config : Config) (shared : S) (total threads : Nat) (worker : PooledWorker S R) :
    (∀ schedule first,
      (computePooled memory check config shared total threads worker schedule first).map
          (List.map Report.unnamed) =
        (computePooled memory check config shared total threads worker [] 1).map
          (List.map Report.unnamed)) ∧
    (∀ first events outcome,
      computePooledAlong? memory config shared total threads (worker.use memory check) first
          events = some outcome →
        outcome.map (List.map Report.unnamed) =
          (computePooled memory check config shared total threads worker [] 1).map
            (List.map Report.unnamed)) ∧
    ∀ first events, ∃ more outcome,
      computePooledAlong? memory config shared total threads (worker.use memory check) first
        (events ++ more) = some outcome := by
  refine ⟨?_, ?_, ?_⟩
  · intro schedule first
    exact computePooled_unnamed schedule [] first 1
  · intro first events outcome houtcome
    rw [computePooledAlong?_eq houtcome]
    exact computePooled_unnamed (Shift.draws events) [] first 1
  · exact exists_computePooledAlong? memory config shared total threads (worker.use memory check)

/-- A worker that asks for two slots. -/
def twoSlots : PooledWorker Unit Unit := fun params =>
  .allocate fun _ => .allocate fun _ => .done ((), params)

/-- Two workers that ask for two slots each, in pools with one slot to a block: their blocks are
named in the order in which they draw, and the reports are otherwise the same. -/
theorem reports_independent_of_schedule_twoSlots :
    (computePooled .ample .quick ⟨8, 1, 8⟩ () 2 2 twoSlots [] 1).map reportedBlocks =
        .ok [⟨1⟩, ⟨2⟩, ⟨3⟩, ⟨4⟩] ∧
      (computePooled .ample .quick ⟨8, 1, 8⟩ () 2 2 twoSlots [1, 0, 1, 0] 1).map reportedBlocks =
        .ok [⟨2⟩, ⟨4⟩, ⟨1⟩, ⟨3⟩] ∧
      (computePooled .ample .quick ⟨8, 1, 8⟩ () 2 2 twoSlots [1, 0, 1, 0] 1).map
          (List.map Report.unnamed) =
        (computePooled .ample .quick ⟨8, 1, 8⟩ () 2 2 twoSlots [] 1).map
          (List.map Report.unnamed) :=
  ⟨by decide +kernel, by decide +kernel,
    (reports_independent_of_schedule .ample .quick ⟨8, 1, 8⟩ () 2 2 twoSlots).1 [1, 0, 1, 0] 1⟩

end SlotPool
