import SlotPool.Crew

/-!
# Jobs for workers

A small catalogue of work that a crew can be given over a shared row of 64-bit
numbers: summing entries, telling parameters, counting, and building nodes in a
private pool.
-/

namespace SlotPool

/-- Work for every worker of a crew. -/
inductive Job where
  /-- Sum up the entries that the tasks number, wrapping at 64 bits. -/
  | sum
  /-- Tell the parameters. -/
  | params
  | crash
  /-- Count the tasks with even numbers. -/
  | even
  /-- Give up the first task and claim to have done everything. -/
  | shift
  /-- For every task fill some slots, give the first ones back, and perhaps reclaim. -/
  | nodes (perTask free : Nat) (reclaim : Bool)
deriving DecidableEq

/-- What a worker returns. -/
inductive JobOutput where
  | nothing
  | number (value : Nat)
  | numbers (values : List Nat)
  | places (values : List Place)
deriving DecidableEq

namespace Job

/-- The count that a worker claims when it claims everything: the largest 32-bit number. -/
def everything : Nat :=
  0xffffffff

/-- The sum of some numbers, wrapping at 64 bits. -/
def wrappingSum (entries : List UInt64) : UInt64 :=
  entries.foldl (· + ·) 0

/-- Sums up the entries of all tasks; a task without an entry is a crash. -/
def sumWorker : Worker (Array UInt64) JobOutput :=
  (Worker.each fun entries task => entries[task]?).mapOutput fun found =>
    .number (wrappingSum found).toNat

/-- Tells the parameters and claims all tasks. -/
def paramsWorker : Worker (Array UInt64) JobOutput := fun params =>
  some (.numbers [params.threadId, params.maxThreads, params.firstId, params.lastId,
    params.taskCount, params.shared.size], { params with processed := params.taskCount })

/-- Counts the tasks with even numbers. -/
def evenWorker : Worker (Array UInt64) JobOutput := fun params =>
  let count (processed task : Nat) : Option Nat :=
    some (if task % 2 = 0 then processed + 1 else processed)
  (params.tasks.fold count params.processed).map fun processed =>
    (.nothing, { params with processed })

/-- Gives up the first task, if there is one, and claims to have done everything. -/
def shiftWorker : Worker (Array UInt64) JobOutput := fun params =>
  let params :=
    if 0 < params.taskCount then { params with firstId := params.firstId + 1 } else params
  some (.numbers [params.tasks.start, params.tasks.stop, params.taskCount],
    { params with processed := everything })

/-! ## Nodes -/

/-- Asks for `count` slots one after another and fills each with the byte `mark`; a pool that has
no slot to give is a crash.  The places go to the end of `filled`. -/
def fillSlots (objectSize : Nat) (mark : UInt8) : Nat → Array Place → Program (Array Place)
  | 0, filled => .done filled
  | count + 1, filled => .allocate fun
    | none => .crash
    | some place =>
      .write place (List.replicate objectSize mark) fun
        | true => fillSlots objectSize mark count (filled.push place)
        | false => .crash

/-- Gives slots back one after another; a refusal is a crash. -/
def freeSlots : List Place → Program Unit
  | [] => .done ()
  | place :: places => .free place fun
    | .ok () => freeSlots places
    | .error _ => .crash

/-- One task: fills slots, gives the first ones back, and perhaps reclaims. -/
def nodesTask (objectSize perTask free : Nat) (reclaim : Bool) (task : Nat) :
    Program (Array Place) :=
  (fillSlots objectSize task.toUInt8 perTask #[]).bind fun filled =>
    (freeSlots (filled.toList.take free)).bind fun () =>
      if reclaim then .reclaim (.done filled) else .done filled

/-- Does `count` tasks from `first` on, and adds their places to the end of `filled`. -/
def nodesTasks (handle : Nat → Program (Array Place)) :
    (count first : Nat) → Array Place → Program (Array Place)
  | 0, _, filled => .done filled
  | count + 1, first, filled =>
    (handle first).bind fun places => nodesTasks handle count (first + 1) (filled ++ places)

/-- Builds nodes for all tasks and counts the tasks. -/
def nodesWorker (objectSize perTask free : Nat) (reclaim : Bool) :
    PooledWorker (Array UInt64) JobOutput := fun params =>
  (nodesTasks (nodesTask objectSize perTask free reclaim) params.taskCount params.firstId
    #[]).bind fun filled =>
      .done (.places filled.toList,
        { params with processed := params.processed + params.taskCount })

/-! ## Jobs as workers -/

/-- The worker of a job that needs no pool; nodes cannot be built without one. -/
def worker : Job → Worker (Array UInt64) JobOutput
  | sum => sumWorker
  | params => paramsWorker
  | crash => fun _ => none
  | even => evenWorker
  | shift => shiftWorker
  | nodes _ _ _ => fun _ => none

/-- The worker of a job that has a pool of `objectSize` byte slots. -/
def pooledWorker (objectSize : Nat) : Job → PooledWorker (Array UInt64) JobOutput
  | nodes perTask free reclaim => nodesWorker objectSize perTask free reclaim
  | job => job.worker.pooled

/-- A worker that crashes at once on the threads listed. -/
def crashingOn {S : Type} {R : Type} (threads : List Nat) (worker : Worker S R) : Worker S R :=
  fun params => if threads.contains params.threadId then none else worker params

/-- A worker with a pool that crashes at once on the threads listed. -/
def pooledCrashingOn {S R : Type} (threads : List Nat) (worker : PooledWorker S R) :
    PooledWorker S R :=
  fun params => if threads.contains params.threadId then .crash else worker params

end Job

end SlotPool
