/-!
# Tasks and their distribution

The tasks of a computation are numbered from zero.  They are dealt out to workers
as consecutive ranges whose lengths differ by at most one; the longer ranges come
first.

Main definitions:

- `TaskRange`: the task numbers from a start up to, and without, a stop.
- `partition`: the ranges of all workers.
- `TaskParams`: what one worker is told.
- `TaskRange.foldFrom`: handling tasks in order, up to the first that fails.
-/

namespace SlotPool

universe u

/-- The task numbers from `start` up to, and without, `stop`. -/
structure TaskRange where
  start : Nat
  stop : Nat
deriving DecidableEq, Inhabited

namespace TaskRange

/-- Number of tasks of a range. -/
def length (range : TaskRange) : Nat :=
  range.stop - range.start

/-- The task numbers of a range in order. -/
def toList (range : TaskRange) : List Nat :=
  List.range' range.start range.length

/-- Consecutive ranges of the given lengths, the first one starting at `start`. -/
def consecutive (start : Nat) : List Nat → List TaskRange
  | [] => []
  | length :: lengths => ⟨start, start + length⟩ :: consecutive (start + length) lengths

/-- Handles `count` tasks from `first` on, in order, up to the first that fails. -/
def foldFrom {σ : Type u} (handle : σ → Nat → Option σ) : (count first : Nat) → σ → Option σ
  | 0, _, state => some state
  | count + 1, first, state =>
    match handle state first with
    | some state => foldFrom handle count (first + 1) state
    | none => none

/-- Handles the tasks of a range in order, up to the first that fails. -/
def fold {σ : Type u} (range : TaskRange) (handle : σ → Nat → Option σ) (state : σ) : Option σ :=
  foldFrom handle range.length range.start state

@[simp] theorem length_consecutive (start : Nat) (lengths : List Nat) :
    (consecutive start lengths).length = lengths.length := by
  induction lengths generalizing start with
  | nil => rfl
  | cons length lengths ih => simp [consecutive, ih]

/-- Handling a range is handling the list of its tasks. -/
theorem foldFrom_eq_foldlM {σ : Type u} (handle : σ → Nat → Option σ) (count first : Nat)
    (state : σ) :
    foldFrom handle count first state = (List.range' first count).foldlM handle state := by
  induction count generalizing first state with
  | zero => rfl
  | succ count ih =>
    simp only [foldFrom, List.range'_succ, List.foldlM_cons]
    cases handle state first with
    | none => rfl
    | some next => exact ih (first + 1) next

theorem fold_eq_foldlM {σ : Type u} (range : TaskRange) (handle : σ → Nat → Option σ) (state : σ) :
    range.fold handle state = range.toList.foldlM handle state :=
  foldFrom_eq_foldlM handle range.length range.start state

end TaskRange

/-- Number of tasks that worker `thread` of `threads` gets out of `total`. -/
def taskShare (total threads thread : Nat) : Nat :=
  total / threads + if thread < total % threads then 1 else 0

/-- The ranges of `threads` workers over the tasks below `total`. -/
def partition (total threads : Nat) : List TaskRange :=
  TaskRange.consecutive 0 ((List.range threads).map (taskShare total threads))

/-- There is one range for every worker. -/
@[simp] theorem length_partition (total threads : Nat) :
    (partition total threads).length = threads := by
  simp [partition]

/-- What a worker is told, and the count it keeps. -/
structure TaskParams (S : Type u) where
  /-- Number of this worker, from zero. -/
  threadId : Nat
  /-- Number of workers. -/
  maxThreads : Nat
  /-- First task of this worker. -/
  firstId : Nat
  /-- One past the last task of this worker. -/
  lastId : Nat
  /-- Tasks the worker has counted as done. -/
  processed : Nat
  /-- Input that all workers read. -/
  shared : S

namespace TaskParams

variable {S : Type u}

/-- What worker `threadId` is told at the start. -/
def ofRange (threadId maxThreads : Nat) (range : TaskRange) (shared : S) : TaskParams S where
  threadId := threadId
  maxThreads := maxThreads
  firstId := range.start
  lastId := range.stop
  processed := 0
  shared := shared

/-- The tasks of this worker. -/
def tasks (params : TaskParams S) : TaskRange where
  start := params.firstId
  stop := params.lastId

/-- Number of tasks of this worker. -/
def taskCount (params : TaskParams S) : Nat :=
  params.tasks.length

@[simp] theorem tasks_ofRange (threadId maxThreads : Nat) (range : TaskRange) (shared : S) :
    (ofRange threadId maxThreads range shared).tasks = range :=
  rfl

end TaskParams

end SlotPool
