import SlotPool.Crew.Worker
import SlotPool.Pool.Stats

/-!
# Crews of workers

A crew runs one worker per thread over the ranges of a partition.  Workers read a
shared input and nothing else of each other; a worker may own a private pool,
which is built when its thread starts and whose sizes are reported at the end.

Threads meet only where they draw identities for their blocks.  A schedule says
which thread draws next; threads that the schedule leaves unfinished run to their
end one after another.  Reports come in the order of thread numbers, and the
first thread that failed decides how a failed computation is reported.

Main definitions:

- `Ending`: how one thread ended.
- `Crew.follow` and `Crew.finish`: a crew under a schedule.
- `compute`: a computation by workers without pools.
- `computePooled`: a computation by workers with private pools.
-/

namespace SlotPool

universe u v

/-! ## Reports and failures -/

/-- What is reported of a worker that returned. -/
structure Report (R : Type u) where
  threadId : Nat
  /-- The tasks the worker was assigned. -/
  tasks : TaskRange
  /-- The tasks the worker counted as done. -/
  processed : Nat
  /-- The sizes of the worker's private pool at the end, if it had one. -/
  pool : Option Pool.Stats
  output : R

/-- Why a computation has no reports. -/
inductive CrewFault where
  | noWorkers
  | workerCrashed (threadId : Nat)
  /-- A private pool could not be built. -/
  | pool (fault : Fault)
deriving DecidableEq

/-- How one thread ended. -/
inductive Ending (R : Type u) where
  | crashed
  /-- The worker's pool could not be built. -/
  | refused (fault : Fault)
  | returned (processed : Nat) (pool : Option Pool.Stats) (output : R)

/-- The report on a thread, or the failure it makes of the computation. -/
def Ending.report {R : Type u} (threadId : Nat) (tasks : TaskRange) :
    Ending R → Except CrewFault (Report R)
  | crashed => .error (.workerCrashed threadId)
  | refused fault => .error (.pool fault)
  | returned processed pool output => .ok ⟨threadId, tasks, processed, pool, output⟩

/-- The reports on threads in order, numbered from `threadId` on, or the first failure. -/
def collect {R : Type u} (threadId : Nat) :
    List (TaskRange × Ending R) → Except CrewFault (List (Report R))
  | [] => .ok []
  | (tasks, ending) :: rest =>
    match ending.report threadId tasks with
    | .error fault => .error fault
    | .ok report => (collect (threadId + 1) rest).map (report :: ·)

/-! ## Threads under a schedule -/

/-- Threads at work: what each has still to do. -/
abbrev Crew (α : Type u) := List (Fresh α)

namespace Crew

variable {α : Type u}

/-- Lets one thread draw the identity of rank `first`, if the thread draws at all; gives the crew
afterwards and the next unused rank. -/
def step (crew : Crew α) (thread first : Nat) : Crew α × Nat :=
  match crew[thread]? with
  | some (.draw next) => (crew.set thread (next ⟨first⟩), first + 1)
  | _ => (crew, first)

/-- Lets threads draw in the order of a schedule. -/
def follow (crew : Crew α) : List Nat → Nat → Crew α × Nat
  | [], first => (crew, first)
  | thread :: schedule, first =>
    match crew.step thread first with
    | (crew, first) => crew.follow schedule first

/-- Runs every thread to its end, one after another. -/
def finish : Crew α → Nat → List α × Nat
  | [], first => ([], first)
  | thread :: crew, first =>
    match thread.runFrom first with
    | (value, first) => (finish crew first).map (value :: ·) id

/-- Runs a crew under a schedule to its end. -/
def run (crew : Crew α) (schedule : List Nat) (first : Nat) : List α × Nat :=
  match crew.follow schedule first with
  | (crew, first) => crew.finish first

end Crew

/-! ## Computations -/

/-- The largest number of threads that a computation can be given, which is that of 32 bits. -/
def maxThreads : Nat :=
  0xffffffff

/-- The number of threads to use by default: as many as the hardware runs at once, and one where
that is not known. -/
def defaultThreads : Option Nat → Nat
  | some hardware => min (max 1 hardware) maxThreads
  | none => 1

/-- There is always a thread to use. -/
theorem defaultThreads_pos (hardware : Option Nat) : 0 < defaultThreads hardware := by
  cases hardware with
  | none => exact Nat.one_pos
  | some n => exact Nat.lt_min.2 ⟨by omega, by decide⟩

/-- The ranges of all threads with the parameters of their workers. -/
def assignments {S : Type u} (shared : S) (total threads : Nat) :
    List (TaskRange × TaskParams S) :=
  (partition total threads).mapIdx fun thread range =>
    (range, .ofRange thread threads range shared)

/-- How the thread of a worker without a pool ends. -/
def Worker.ending {S : Type u} {R : Type v} (worker : Worker S R) (params : TaskParams S) :
    Ending R :=
  match worker params with
  | some (output, params) => .returned params.processed none output
  | none => .crashed

/-- Runs workers without pools on `threads` threads over the tasks below `total`. -/
def compute {S : Type u} {R : Type v} (shared : S) (total threads : Nat) (worker : Worker S R) :
    Except CrewFault (List (Report R)) :=
  if threads = 0 then
    .error .noWorkers
  else
    collect 0 ((assignments shared total threads).map fun (range, params) =>
      (range, worker.ending params))

/-- The thread of a worker with a private pool: the pool is built first.  What threads ask of the
system at the same place of their work is answered alike. -/
def PooledWorker.thread {S R : Type} (memory : Memory) (check : FreeCheck) (config : Config)
    (worker : PooledWorker S R) (params : TaskParams S) : Fresh (Ending R) :=
  (Pool.create memory.first config).bind fun
    | .error fault => .done (.refused fault)
    | .ok pool =>
      ((worker params).run memory.rest check pool).bind fun
        | (some (output, params), pool) =>
          .done (.returned params.processed (some pool.stats) output)
        | (none, _) => .done .crashed

/-- Runs workers with private pools under a schedule, identities being numbered from `first` on.
The configuration is checked before anything else. -/
def computePooled {S R : Type} (memory : Memory) (check : FreeCheck) (config : Config) (shared : S)
    (total threads : Nat) (worker : PooledWorker S R) (schedule : List Nat) (first : Nat) :
    Except CrewFault (List (Report R)) :=
  match config.validate with
  | .error cause => .error (.pool (.invalidConfig cause))
  | .ok () =>
    if threads = 0 then
      .error .noWorkers
    else
      let tasks := assignments shared total threads
      let crew : Crew (Ending R) := tasks.map fun (_, params) =>
        PooledWorker.thread memory check config worker params
      collect 0 ((tasks.map Prod.fst).zip (crew.run schedule first).1)

/-- The identities of all blocks in the pools of some reports. -/
def reportedBlocks {R : Type u} (reports : List (Report R)) : List BlockId :=
  reports.flatMap fun report =>
    match report.pool with
    | some stats => stats.blocks.toList.map (·.id)
    | none => []

/-- No block is reported twice, neither by one worker nor by two. -/
def BlocksPrivate {R : Type u} (reports : List (Report R)) : Prop :=
  (reportedBlocks reports).Nodup

instance {R : Type u} (reports : List (Report R)) : Decidable (BlocksPrivate reports) :=
  inferInstanceAs (Decidable (List.Nodup _))

end SlotPool
