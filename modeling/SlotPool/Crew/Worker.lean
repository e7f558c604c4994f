import SlotPool.Crew.Program
import SlotPool.Task

/-!
# Workers

A worker is told its parameters and gives an output together with the parameters as it
leaves them.  It may change all of them; of the parameters it leaves only the count of
tasks done is of interest.  A worker with a private pool is a program over that pool.

Main definitions:

- `Worker` and `PooledWorker`: workers without and with a private pool.
- `Worker.each`: the worker that handles its tasks one by one and counts them.

Main results:

- Theorem `Worker.each_eq`: what such a worker gives, said without its loop.
-/

namespace SlotPool

universe u v

/-- A worker without a pool: an output and its parameters afterwards, or nothing if it crashes. -/
abbrev Worker (S : Type u) (R : Type v) := TaskParams S → Option (R × TaskParams S)

/-- A worker with a private pool. -/
abbrev PooledWorker (S R : Type) := TaskParams S → Program (R × TaskParams S)

namespace Worker

variable {S : Type u} {R : Type v}

/-- The worker that handles its tasks in order, counts every one of them as done and gives what
was made of them.  It crashes at the first task of which nothing can be made. -/
def each (handle : S → Nat → Option R) : Worker S (List R) := fun params =>
  let note (done : Array R × Nat) (task : Nat) : Option (Array R × Nat) :=
    (handle params.shared task).map fun output => (done.1.push output, done.2 + 1)
  (params.tasks.fold note (#[], params.processed)).map fun (outputs, processed) =>
    (outputs.toList, { params with processed })

/-- A worker whose output is changed at the end. -/
def mapOutput {R' : Type v} (change : R → R') (worker : Worker S R) : Worker S R' := fun params =>
  (worker params).map fun (output, params) => (change output, params)

/-- A worker that makes no use of its pool. -/
def pooled {S R : Type} (worker : Worker S R) : PooledWorker S R := fun params =>
  .ofOption (worker params)

/-! ## Handling tasks one by one -/

/-- Noting the outcome of every task is collecting the outcomes and counting them. -/
theorem foldlM_note (handle : Nat → Option R) (tasks : List Nat) (outputs : Array R)
    (processed : Nat) :
    (tasks.foldlM (fun (done : Array R × Nat) task =>
        (handle task).map fun output => (done.1.push output, done.2 + 1)) (outputs, processed)) =
      (tasks.mapM handle).map fun more =>
        (outputs ++ more.toArray, processed + tasks.length) := by
  induction tasks generalizing outputs processed with
  | nil => simp
  | cons task tasks ih =>
    cases found : handle task with
    | none => simp [found]
    | some output =>
      simp only [List.foldlM_cons, List.mapM_cons, found, Option.map_some, Option.bind_eq_bind,
        Option.bind_some, ih]
      cases tasks.mapM handle with
      | none => rfl
      | some more => simp [Nat.add_comm, Nat.add_left_comm]

/-- A worker that handles tasks one by one gives the outcomes of all its tasks in order, and counts
as many tasks as it was given. -/
theorem each_eq (handle : S → Nat → Option R) (params : TaskParams S) :
    each handle params = (params.tasks.toList.mapM (handle params.shared)).map fun outputs =>
      (outputs, { params with processed := params.processed + params.taskCount }) := by
  simp only [each, TaskRange.fold_eq_foldlM]
  rw [foldlM_note (handle params.shared)]
  cases params.tasks.toList.mapM (handle params.shared) with
  | none => rfl
  | some outputs => simp [TaskRange.toList, TaskParams.taskCount]

end Worker

end SlotPool
