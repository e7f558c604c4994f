import SlotPool.Proofs.Crew.Courses

/-!
# Reports of threads that were joined

A computation lets its threads work, joins them, and reports on them in the order of their numbers
or reports the first failure.  This is said here for threads that do anything at all, and for every
course of events; the computations of this library are among them.

Main definitions:

- `outcomeUnder` and `outcomeAlong?`: what threads compute under a schedule, and along a course of
  events.
- `Assigned`: the reports are those of all threads in order, each with its own tasks.
- `PoolUse`: anything that a worker may do with a private pool.
- `computeAlong?` and `computePooledAlong?`: computations along a course of events.

Main results:

- Theorems `collect_eq_ok_iff` and `collect_eq_error_of_first`: what reports say, and which failure
  is reported.
- Theorem `assigned_of_outcomeAlong?`: reports are assigned, whatever the threads do.
- Theorem `PoolUse.thread_cases`: all that a thread with a private pool can do.
- Theorems `computeAlong?_eq` and `computePooledAlong?_eq`: the course of events does not matter.
- Theorem `exists_computePooledAlong?`: every course of events can be brought to its end.
-/

namespace SlotPool

open Fresh

universe u v

/-! ## Reporting on endings -/

section Reporting

variable {R : Type u} {number : Nat} {work : List (TaskRange × Ending R)}

/-- How the thread of a report ended. -/
def Report.ending (report : Report R) : Ending R :=
  .returned report.processed report.pool report.output

/-- The thread did not return. -/
def Ending.Failed : Ending R → Prop
  | returned _ _ _ => False
  | crashed => True
  | refused _ => True

/-- There are reports exactly when all threads returned, and they tell of all endings, numbered in
order. -/
theorem collect_eq_ok_iff {reports : List (Report R)} :
    collect number work = .ok reports ↔
      reports.map (fun report => (report.tasks, report.ending)) = work ∧
        reports.map Report.threadId = List.range' number work.length := by
  induction work generalizing number reports with
  | nil => cases reports <;> simp [collect]
  | cons entry work ih =>
      rcases entry with ⟨tasks, ending⟩
      cases ending with
      | crashed => cases reports <;> simp [collect, Ending.report, Report.ending]
      | refused fault => cases reports <;> simp [collect, Ending.report, Report.ending]
      | returned processed pool output =>
          cases reports with
          | nil =>
              cases hrest : collect (number + 1) work <;>
                simp [collect, Ending.report, hrest, Except.map]
          | cons report reports =>
              have hcollect : collect number ((tasks, .returned processed pool output) :: work) =
                  .ok (report :: reports) ↔
                    report = ⟨number, tasks, processed, pool, output⟩ ∧
                      collect (number + 1) work = .ok reports := by
                cases hrest : collect (number + 1) work <;>
                  simp [collect, Ending.report, hrest, Except.map, eq_comm]
              rw [hcollect, ih, List.length_cons, List.range'_succ]
              rcases report with ⟨own, ownTasks, ownProcessed, ownPool, ownOutput⟩
              simp only [Report.mk.injEq, List.map_cons, List.cons.injEq, Prod.mk.injEq,
                Report.ending, Ending.returned.injEq]
              tauto

/-- The first thread that failed decides which failure is reported. -/
theorem collect_eq_error_of_first {index : Nat} {tasks : TaskRange} {ending : Ending R}
    {fault : CrewFault} (hindex : work[index]? = some (tasks, ending))
    (hfault : ending.report (number + index) tasks = .error fault)
    (hbefore : ∀ earlier < index, ∀ entry, work[earlier]? = some entry → ¬ entry.2.Failed) :
    collect number work = .error fault := by
  induction work generalizing number index with
  | nil => simp at hindex
  | cons entry work ih =>
      cases index with
      | zero =>
          rcases Option.some.inj hindex with rfl
          simp only [collect]
          rw [Nat.add_zero] at hfault
          rw [hfault]
      | succ index =>
          have hrest : collect (number + 1) work = .error fault := by
            apply ih hindex
            · rw [Nat.add_right_comm]
              exact hfault
            · intro earlier hlt
              exact hbefore (earlier + 1) (Nat.succ_lt_succ hlt)
          have hreturned := hbefore 0 (Nat.succ_pos index) entry rfl
          rcases entry with ⟨first, own⟩
          cases own with
          | crashed => exact absurd trivial hreturned
          | refused _ => exact absurd trivial hreturned
          | returned processed pool output =>
              simp only [collect, Ending.report, hrest]
              rfl

/-- If no thread failed, there are reports. -/
theorem exists_collect_eq_ok (hreturned : ∀ entry ∈ work, ¬ entry.2.Failed) (number : Nat) :
    ∃ reports, collect number work = .ok reports := by
  induction work generalizing number with
  | nil => exact ⟨[], rfl⟩
  | cons entry work ih =>
      have hothers : ∀ other ∈ work, ¬ other.2.Failed :=
        fun other hmem => hreturned other (List.mem_cons_of_mem entry hmem)
      rcases ih hothers (number + 1) with ⟨reports, hreports⟩
      have hentry := hreturned entry List.mem_cons_self
      rcases entry with ⟨tasks, ending⟩
      cases ending with
      | crashed => exact absurd trivial hentry
      | refused _ => exact absurd trivial hentry
      | returned processed pool output =>
          refine ⟨⟨number, tasks, processed, pool, output⟩ :: reports, ?_⟩
          simp only [collect, Ending.report, hreports]
          rfl

end Reporting

/-! ## Threads that do anything -/

section Threads

variable {S : Type u} {R : Type v} {shared : S} {total threads first : Nat}
variable {thread : TaskParams S → Fresh (Ending R)} {events : List Shift.Event}

/-- The crew of a computation, if each thread does with its parameters what `thread` says. -/
def crewOf (shared : S) (total threads : Nat) (thread : TaskParams S → Fresh (Ending R)) :
    Crew (Ending R) :=
  (assignments shared total threads).map fun (_, params) => thread params

/-- What threads compute under a schedule. -/
def outcomeUnder (shared : S) (total threads : Nat) (thread : TaskParams S → Fresh (Ending R))
    (schedule : List Nat) (first : Nat) : Except CrewFault (List (Report R)) :=
  if threads = 0 then .error .noWorkers
  else
    collect 0 ((partition total threads).zip
      ((crewOf shared total threads thread).run schedule first).1)

/-- The threads of a computation after some events. -/
def shiftAfter (shared : S) (total threads : Nat) (thread : TaskParams S → Fresh (Ending R))
    (first : Nat) (events : List Shift.Event) : Shift (Ending R) :=
  (Shift.start (crewOf shared total threads thread) first).run events

/-- What threads compute along a course of events; nothing yet while one of them is at work. -/
def outcomeAlong? (shared : S) (total threads : Nat) (thread : TaskParams S → Fresh (Ending R))
    (first : Nat) (events : List Shift.Event) : Option (Except CrewFault (List (Report R))) :=
  if threads = 0 then some (.error .noWorkers)
  else
    (shiftAfter shared total threads thread first events).joinAll?.map fun endings =>
      collect 0 ((partition total threads).zip endings)

theorem getElem?_assignments (shared : S) (total threads number : Nat) :
    (assignments shared total threads)[number]? =
      (partition total threads)[number]?.map fun range =>
        (range, .ofRange number threads range shared) := by
  rw [assignments, List.getElem?_mapIdx]

@[simp]
theorem length_assignments (shared : S) (total threads : Nat) :
    (assignments shared total threads).length = threads := by
  simp [assignments]

@[simp]
theorem map_fst_assignments (shared : S) (total threads : Nat) :
    (assignments shared total threads).map Prod.fst = partition total threads := by
  apply List.ext_getElem?
  intro number
  rw [List.getElem?_map, getElem?_assignments, Option.map_map]
  cases (partition total threads)[number]? <;> rfl

theorem getElem?_crewOf (shared : S) (total threads number : Nat)
    (thread : TaskParams S → Fresh (Ending R)) :
    (crewOf shared total threads thread)[number]? =
      (partition total threads)[number]?.map fun range =>
        thread (.ofRange number threads range shared) := by
  rw [crewOf, List.getElem?_map, getElem?_assignments, Option.map_map]
  rfl

@[simp]
theorem length_crewOf (shared : S) (total threads : Nat)
    (thread : TaskParams S → Fresh (Ending R)) :
    (crewOf shared total threads thread).length = threads := by
  simp [crewOf]

/-- Along every course of events threads compute what they compute under a schedule. -/
theorem outcomeAlong?_eq {outcome : Except CrewFault (List (Report R))}
    (h : outcomeAlong? shared total threads thread first events = some outcome) :
    outcome = outcomeUnder shared total threads thread (Shift.draws events) first := by
  unfold outcomeAlong? at h
  unfold outcomeUnder
  split at h
  · next hzero => rw [if_pos hzero, Option.some.inj h]
  · next hpos =>
      rw [if_neg hpos]
      rcases Option.map_eq_some_iff.1 h with ⟨endings, hjoined, rfl⟩
      rw [Shift.joinAll?_eq_run hjoined]

/-- Every course of events can go on until there is an outcome. -/
theorem exists_outcomeAlong? (shared : S) (total threads : Nat)
    (thread : TaskParams S → Fresh (Ending R)) (first : Nat) (events : List Shift.Event) :
    ∃ more, outcomeAlong? shared total threads thread first (events ++ more) =
      some (outcomeUnder shared total threads thread (Shift.draws events) first) := by
  unfold outcomeAlong? outcomeUnder
  split
  · exact ⟨[], rfl⟩
  · rcases Shift.exists_joinAll? (crewOf shared total threads thread) first events with
      ⟨more, hjoined⟩
    refine ⟨more, ?_⟩
    rw [shiftAfter, hjoined, Option.map_some]

/-- There is one report for every thread, in the order of their numbers, and each tells the tasks
that the thread was assigned. -/
structure Assigned (total threads : Nat) (reports : List (Report R)) : Prop where
  threadIds : reports.map Report.threadId = List.range threads
  tasks : reports.map Report.tasks = partition total threads

theorem Assigned.length_eq {reports : List (Report R)} (h : Assigned total threads reports) :
    reports.length = threads := by
  simpa using congrArg List.length h.threadIds

/-- The reports on a partition are on its ranges. -/
theorem assigned_of_collect {endings : List (Ending R)} {reports : List (Report R)}
    (hlength : endings.length = threads)
    (hreports : collect 0 ((partition total threads).zip endings) = .ok reports) :
    Assigned total threads reports := by
  rcases collect_eq_ok_iff.1 hreports with ⟨hwork, hthreads⟩
  constructor
  · simpa [hlength, List.range_eq_range'] using hthreads
  · have htasks := congrArg (List.map Prod.fst) hwork
    rw [List.map_map, List.map_fst_zip (by simp [hlength])] at htasks
    exact htasks

/-- What threads compute is reported from their ends, and each thread ended as it can end with
identities of its own. -/
theorem exists_endings {outcome : Except CrewFault (List (Report R))} (hthreads : 0 < threads)
    (h : outcomeAlong? shared total threads thread first events = some outcome) :
    ∃ endings : List (Ending R), endings.length = threads ∧
      outcome = collect 0 ((partition total threads).zip endings) ∧
      (∀ number, (shiftAfter shared total threads thread first events).join? number =
        endings[number]?) ∧
      ∀ number range, (partition total threads)[number]? = some range →
        ∃ ids ending, endings[number]? = some ending ∧ Ascending ids ∧
          (thread (.ofRange number threads range shared)).Gives ids ending := by
  unfold outcomeAlong? at h
  rw [if_neg (Nat.ne_of_gt hthreads)] at h
  rcases Option.map_eq_some_iff.1 h with ⟨endings, hjoined, rfl⟩
  have hlength := (Shift.joinAll?_eq_some_iff.1 hjoined).1
  rw [shiftAfter, Shift.length_crew_run, Shift.start, length_crewOf] at hlength
  have hsettled : (shiftAfter shared total threads thread first events).Settled :=
    (Shift.settled_start (crewOf shared total threads thread) first).run events
  refine ⟨endings, hlength, rfl, Shift.join?_of_joinAll? hsettled hjoined, ?_⟩
  intro number range hrange
  have hthread : (crewOf shared total threads thread)[number]? =
      some (thread (.ofRange number threads range shared)) := by
    rw [getElem?_crewOf, hrange, Option.map_some]
  rw [Shift.joinAll?_eq_run hjoined]
  rcases Crew.gives_run (Shift.draws events) hthread with ⟨ids, ending, hending, hrest⟩
  exact ⟨ids, ending, hending, hrest⟩

/-- Reports are of all threads in order, whatever the threads do. -/
theorem assigned_of_outcomeAlong? {reports : List (Report R)}
    (h : outcomeAlong? shared total threads thread first events = some (.ok reports)) :
    Assigned total threads reports := by
  by_cases hthreads : 0 < threads
  · rcases exists_endings hthreads h with ⟨endings, hlength, hreports, -, -⟩
    exact assigned_of_collect hlength hreports.symm
  · simp [outcomeAlong?, Nat.eq_zero_of_not_pos hthreads] at h

end Threads

/-! ## Workers without pools -/

section Plain

variable {S : Type u} {R : Type v}

/-- The computation by workers without pools whose threads end in the given order. -/
def computeAlong? (shared : S) (total threads : Nat) (worker : Worker S R) (order : List Nat) :
    Option (Except CrewFault (List (Report R))) :=
  outcomeAlong? shared total threads (fun params => .done (worker.ending params)) 1
    (order.map .finish)

/-- Whichever order threads end in, the computation is the same. -/
theorem computeAlong?_eq (shared : S) (total threads : Nat) (worker : Worker S R)
    {order : List Nat} (hall : ∀ thread < threads, thread ∈ order) :
    computeAlong? shared total threads worker order =
      some (compute shared total threads worker) := by
  unfold computeAlong? outcomeAlong? compute
  split
  · rfl
  · have hcrew : crewOf shared total threads (fun params => .done (worker.ending params)) =
        ((assignments shared total threads).map fun entry => worker.ending entry.2).map .done := by
      rw [crewOf, List.map_map]
      rfl
    have hjoined : (shiftAfter shared total threads (fun params => .done (worker.ending params)) 1
        (order.map .finish)).joinAll? =
          some ((assignments shared total threads).map fun entry => worker.ending entry.2) :=
      Shift.joinAll?_run_finish hcrew (Shift.settled_start _ _) (by simpa using hall)
    rw [hjoined, Option.map_some, ← map_fst_assignments shared, List.zip_map']

end Plain

/-! ## Workers with private pools -/

/-- Anything that a worker may do with a private pool, also what a program cannot, such as looking
at identities. -/
abbrev PoolUse (S R : Type) := TaskParams S → Pool → Fresh (Option (R × TaskParams S) × Pool)

section Pooled

variable {S R : Type} {memory : Memory} {check : FreeCheck} {config : Config} {shared : S}
variable {total threads first : Nat} {events : List Shift.Event}

/-- The thread of a worker that uses its pool in any way: the pool is built first. -/
def PoolUse.thread (memory : Memory) (config : Config) (use : PoolUse S R)
    (params : TaskParams S) : Fresh (Ending R) :=
  (Pool.create memory.first config).bind fun
    | .error fault => .done (.refused fault)
    | .ok pool =>
      (use params pool).bind fun
        | (some (output, params), pool) =>
          .done (.returned params.processed (some pool.stats) output)
        | (none, _) => .done .crashed

/-- A thread is refused its pool, or it uses the pool that it gets: then it crashes, or it returns
and reports the sizes that its pool has at the end. -/
theorem PoolUse.thread_cases {use : PoolUse S R} {params : TaskParams S} {drawn : List BlockId}
    {ending : Ending R} (h : (use.thread memory config params).Gives drawn ending) :
    (∃ fault, (Pool.create memory.first config).Gives drawn (.error fault) ∧
      ending = .refused fault) ∨
    (∃ own rest pool result after, drawn = own ++ rest ∧
      (Pool.create memory.first config).Gives own (.ok pool) ∧
      (use params pool).Gives rest (result, after) ∧
      ending = match result with
        | some (output, params) => .returned params.processed (some after.stats) output
        | none => .crashed) := by
  rcases gives_bind_iff.1 h with ⟨own, rest, built, rfl, hcreate, hrest⟩
  cases built with
  | error fault =>
      rcases hrest with ⟨rfl, rfl⟩
      rw [List.append_nil]
      exact Or.inl ⟨fault, hcreate, rfl⟩
  | ok pool =>
      rcases gives_bind_iff.1 hrest with ⟨used, none, ⟨result, after⟩, rfl, huse, hdone⟩
      refine Or.inr ⟨own, used, pool, result, after, ?_, hcreate, huse, ?_⟩
      · cases result <;> rw [hdone.1, List.append_nil]
      · cases result <;> exact hdone.2.symm

/-- What a worker does with its pool, once that is built, by running its program. -/
def PooledWorker.use (memory : Memory) (check : FreeCheck) (worker : PooledWorker S R) :
    PoolUse S R :=
  fun params pool => (worker params).run memory.rest check pool

theorem PooledWorker.thread_use (memory : Memory) (check : FreeCheck) (config : Config)
    (worker : PooledWorker S R) :
    (worker.use memory check).thread memory config =
      PooledWorker.thread memory check config worker :=
  rfl

/-- The computation by workers with private pools along a course of events. -/
def computePooledAlong? (memory : Memory) (config : Config) (shared : S) (total threads : Nat)
    (use : PoolUse S R) (first : Nat) (events : List Shift.Event) :
    Option (Except CrewFault (List (Report R))) :=
  match config.validate with
  | .error cause => some (.error (.pool (.invalidConfig cause)))
  | .ok () => outcomeAlong? shared total threads (use.thread memory config) first events

/-- Workers that run programs compute under a schedule what their threads do. -/
theorem computePooled_eq (memory : Memory) (check : FreeCheck) (config : Config) (shared : S)
    (total threads : Nat) (worker : PooledWorker S R) (schedule : List Nat) (first : Nat) :
    computePooled memory check config shared total threads worker schedule first =
      match config.validate with
      | .error cause => .error (.pool (.invalidConfig cause))
      | .ok () =>
        outcomeUnder shared total threads ((worker.use memory check).thread memory config) schedule
          first := by
  unfold computePooled outcomeUnder
  simp only [map_fst_assignments]
  rfl

/-- Whatever the course of events, the computation is the one under the schedule of the draws. -/
theorem computePooledAlong?_eq {worker : PooledWorker S R}
    {outcome : Except CrewFault (List (Report R))}
    (h : computePooledAlong? memory config shared total threads (worker.use memory check) first
      events = some outcome) :
    outcome = computePooled memory check config shared total threads worker (Shift.draws events)
      first := by
  rw [computePooled_eq]
  unfold computePooledAlong? at h
  split at h
  · exact (Option.some.inj h).symm
  · exact outcomeAlong?_eq h

/-- Every course of events can be brought to its end. -/
theorem exists_computePooledAlong? (memory : Memory) (config : Config) (shared : S)
    (total threads : Nat) (use : PoolUse S R) (first : Nat) (events : List Shift.Event) :
    ∃ more outcome, computePooledAlong? memory config shared total threads use first
      (events ++ more) = some outcome := by
  unfold computePooledAlong?
  split
  · exact ⟨[], _, rfl⟩
  · rcases exists_outcomeAlong? shared total threads (use.thread memory config) first events with
      ⟨more, houtcome⟩
    exact ⟨more, _, houtcome⟩

end Pooled

end SlotPool
