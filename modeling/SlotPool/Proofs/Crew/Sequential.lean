import Mathlib.Algebra.BigOperators.Group.List.Basic
import Mathlib.Algebra.GroupWithZero.Nat
import SlotPool.Proofs.Crew.Reports
import SlotPool.Proofs.Task

/-!
# Handling all tasks, on one thread or on many

A crew whose workers handle their tasks one by one does what a single loop over all tasks does: the
outputs, put together in the order of the reports, are those of the loop, and so is whatever is made
of them by an associative operation with a unit, however many threads there are.

Main definitions:

- `Handled`: the reports are those of a crew that handled all tasks.

Main results:

- Theorem `exists_handled`: threads that handle their tasks one by one have handled all tasks.
- Theorem `parallel_eq_sequential`: both, and that the order in which threads end is of no account.
-/

namespace SlotPool

open Fresh

universe u v

/-! ## Handling tasks one by one -/

section Handled

variable {S : Type u} {R : Type v} {total threads : Nat}

/-- The reports of a crew that made `made task` of every task: put together they have the outputs
of all tasks in order, and each task is counted once. -/
structure Handled (total threads : Nat) (made : Nat → R) (reports : List (Report (List R))) :
    Prop where
  assigned : Assigned total threads reports
  outputs : reports.flatMap Report.output = (List.range total).map made
  processed : (reports.map Report.processed).sum = total

/-- The same end with a changed output. -/
def Ending.mapOutput {R' : Type v} (change : R → R') : Ending R → Ending R'
  | crashed => .crashed
  | refused fault => .refused fault
  | returned processed pool output => .returned processed pool (change output)

/-- The thread of a worker that handles tasks one by one, of each of which something can be made. -/
theorem ending_each (handle : S → Nat → R) (number threads : Nat) (range : TaskRange) (shared : S) :
    (Worker.each fun shared task => some (handle shared task)).ending
        (.ofRange number threads range shared) =
      .returned range.length none (range.toList.map (handle shared)) := by
  have hmade : range.toList.mapM (fun task => some (handle shared task)) =
      some (range.toList.map (handle shared)) := by
    rw [mapM_eq_some_iff, List.map_map]
    rfl
  have hworker : Worker.each (fun shared task => some (handle shared task))
      (.ofRange number threads range shared) =
        some (range.toList.map (handle shared),
          { TaskParams.ofRange number threads range shared with
            processed := 0 + range.length }) := by
    rw [Worker.each_eq, TaskParams.tasks_ofRange]
    simp only [TaskParams.ofRange, hmade, Option.map_some]
    rfl
  rw [Worker.ending, hworker, Nat.zero_add]

/-- The thread of a worker whose output is changed at the end. -/
theorem ending_mapOutput {R' : Type v} (change : R → R') (worker : Worker S R)
    (params : TaskParams S) :
    (worker.mapOutput change).ending params = (worker.ending params).mapOutput change := by
  simp only [Worker.ending, Worker.mapOutput]
  cases worker params <;> rfl

/-- Lists that agree when read in one way agree when read in every way that tells less. -/
theorem map_eq_map_of_imp {α β γ δ : Type*} {fine : α → γ} {fine' : β → γ} {coarse : α → δ}
    {coarse' : β → δ} (hcoarse : ∀ a b, fine a = fine' b → coarse a = coarse' b) {items : List α}
    {others : List β} (hfine : items.map fine = others.map fine') :
    items.map coarse = others.map coarse' := by
  rw [← List.forall₂_eq_eq_eq, List.forall₂_map_left_iff, List.forall₂_map_right_iff] at hfine ⊢
  exact hfine.imp hcoarse

/-- A crew whose threads all return, each what `processed` and `output` say of its range. -/
theorem exists_reports {shared : S} {worker : Worker S R} {processed : TaskRange → Nat}
    {output : TaskRange → R} (hthreads : 0 < threads)
    (hending : ∀ number range, worker.ending (.ofRange number threads range shared) =
      .returned (processed range) none (output range)) :
    ∃ reports, compute shared total threads worker = .ok reports ∧ Assigned total threads reports ∧
      reports.map Report.processed = (partition total threads).map processed ∧
      reports.map Report.output = (partition total threads).map output := by
  -- Only the range of a thread decides how it ends, so the parameters can be left out.
  have hendings : (assignments shared total threads).map (fun entry =>
      (entry.1, worker.ending entry.2)) = (partition total threads).map fun range =>
        (range, .returned (processed range) none (output range)) := by
    apply List.ext_getElem?
    intro number
    rw [List.getElem?_map, getElem?_assignments, List.getElem?_map, Option.map_map]
    simp only [Function.comp_def, hending]
  have hcompute : compute shared total threads worker = collect 0 ((partition total threads).map
      fun range => (range, .returned (processed range) none (output range))) := by
    rw [compute, if_neg (Nat.ne_of_gt hthreads)]
    exact congrArg (collect 0) hendings
  have hreturned : ∀ entry ∈ (partition total threads).map fun range =>
      (range, Ending.returned (processed range) none (output range)), ¬ entry.2.Failed := by
    intro entry hentry
    rcases List.mem_map.1 hentry with ⟨range, -, rfl⟩
    exact id
  rcases exists_collect_eq_ok hreturned 0 with ⟨reports, hreports⟩
  rcases collect_eq_ok_iff.1 hreports with ⟨hwork, hids⟩
  refine ⟨reports, hcompute.trans hreports, ⟨?_, ?_⟩, ?_, ?_⟩
  · rw [hids, List.length_map, length_partition, List.range_eq_range']
  · rw [← List.map_id (partition total threads)]
    exact map_eq_map_of_imp (fun report range h => congrArg Prod.fst h) hwork
  · refine map_eq_map_of_imp (fun report range h => ?_) hwork
    exact (Ending.returned.inj (congrArg Prod.snd h)).1
  · refine map_eq_map_of_imp (fun report range h => ?_) hwork
    exact (Ending.returned.inj (congrArg Prod.snd h)).2.2

/-- Threads that handle their tasks one by one have handled all tasks. -/
theorem exists_handled (shared : S) (handle : S → Nat → R) (hthreads : 0 < threads) :
    ∃ reports, Handled total threads (handle shared) reports ∧
      compute shared total threads (Worker.each fun shared task => some (handle shared task)) =
        .ok reports := by
  have hending := fun number range => ending_each handle number threads range shared
  rcases exists_reports hthreads hending with ⟨reports, hcompute, hassigned, hprocessed, houtputs⟩
  refine ⟨reports, ⟨hassigned, ?_, ?_⟩, hcompute⟩
  · calc reports.flatMap Report.output
        = (reports.map Report.output).flatten := List.flatMap_def
      _ = ((partition total threads).map fun range =>
            range.toList.map (handle shared)).flatten := by rw [houtputs]
      _ = ((partition total threads).flatMap TaskRange.toList).map (handle shared) := by
            rw [List.map_flatMap, List.flatMap_def]
      _ = (List.range total).map (handle shared) := by rw [flatMap_toList_partition hthreads]
  · rw [hprocessed, sum_length_partition hthreads]

/-- Threads that combine what they make of their tasks have, all together, combined what is made
of all tasks. -/
theorem exists_combined {M : Type v} [Monoid M] (shared : S) (handle : S → Nat → R) (value : R → M)
    (hthreads : 0 < threads) :
    ∃ reports, Assigned total threads reports ∧
      (reports.map Report.processed).sum = total ∧
      (reports.map Report.output).prod =
        ((List.range total).map fun task => value (handle shared task)).prod ∧
      compute shared total threads
        ((Worker.each fun shared task => some (handle shared task)).mapOutput fun outputs =>
          (outputs.map value).prod) = .ok reports := by
  have hending : ∀ number range,
      ((Worker.each fun shared task => some (handle shared task)).mapOutput fun outputs =>
        (outputs.map value).prod).ending (.ofRange number threads range shared) =
          .returned range.length none ((range.toList.map (handle shared)).map value).prod := by
    intro number range
    rw [ending_mapOutput, ending_each]
    rfl
  rcases exists_reports hthreads hending with ⟨reports, hcompute, hassigned, hprocessed, houtputs⟩
  refine ⟨reports, hassigned, ?_, ?_, hcompute⟩
  · rw [hprocessed, sum_length_partition hthreads]
  · calc (reports.map Report.output).prod
        = ((partition total threads).map fun range =>
            ((range.toList.map (handle shared)).map value).prod).prod := by rw [houtputs]
      _ = (((partition total threads).flatMap TaskRange.toList).map fun task =>
            value (handle shared task)).prod := by
            rw [List.map_flatMap, List.flatMap_def, List.prod_flatten, List.map_map]
            simp only [List.map_map, Function.comp_def]
      _ = ((List.range total).map fun task => value (handle shared task)).prod := by
            rw [flatMap_toList_partition hthreads]

end Handled

/-! ## Parallel and sequential -/

/-- Threads that handle their tasks one by one, counting each, have together done what one loop
over all tasks does, whichever order they end in: the reports are those of all threads in order,
their outputs, put together, are those of all tasks in order, and what is made of them in a monoid
is the same for every number of threads.  That reports are of all threads in order, each with its
own tasks, goes for every worker, whatever it leaves in its parameters. -/
theorem parallel_eq_sequential {S : Type u} {R : Type v} (shared : S) (total threads : Nat)
    (handle : S → Nat → R) (hthreads : 0 < threads) :
    (∃ reports, Handled total threads (handle shared) reports ∧
      ∀ order : List Nat, order.Perm (List.range threads) →
        computeAlong? shared total threads
          (Worker.each fun shared task => some (handle shared task)) order = some (.ok reports)) ∧
    (∀ {M : Type v} [Monoid M] (value : R → M), ∃ reports, Assigned total threads reports ∧
      (reports.map Report.processed).sum = total ∧
      (reports.map Report.output).prod =
        ((List.range total).map fun task => value (handle shared task)).prod ∧
      ∀ order : List Nat, order.Perm (List.range threads) →
        computeAlong? shared total threads
          ((Worker.each fun shared task => some (handle shared task)).mapOutput fun outputs =>
            (outputs.map value).prod) order = some (.ok reports)) ∧
    ∀ {R' : Type v} (worker : Worker S R') (order : List Nat) (reports : List (Report R')),
      computeAlong? shared total threads worker order = some (.ok reports) →
        Assigned total threads reports := by
  have hall : ∀ order : List Nat, order.Perm (List.range threads) →
      ∀ thread < threads, thread ∈ order :=
    fun order hperm thread hlt => hperm.mem_iff.2 (List.mem_range.2 hlt)
  refine ⟨?_, ?_, ?_⟩
  · rcases exists_handled shared handle hthreads with ⟨reports, hhandled, hcompute⟩
    refine ⟨reports, hhandled, ?_⟩
    intro order hperm
    rw [computeAlong?_eq shared total threads _ (hall order hperm), hcompute]
  · intro M _ value
    rcases exists_combined shared handle value hthreads with
      ⟨reports, hassigned, hprocessed, hcombined, hcompute⟩
    refine ⟨reports, hassigned, hprocessed, hcombined, ?_⟩
    intro order hperm
    rw [computeAlong?_eq shared total threads _ (hall order hperm), hcompute]
  · intro R' worker order reports
    exact assigned_of_outcomeAlong?

/-- Five threads share three tasks, so that two of them have none. -/
theorem parallel_eq_sequential_fiveThreads :
    0 < 5 ∧ ∃ reports : List (Report (List Nat)),
      (∀ order : List Nat, order.Perm (List.range 5) →
        computeAlong? 7 3 5 (Worker.each fun shared task => some (shared + task)) order =
          some (.ok reports)) ∧
      reports.map Report.threadId = [0, 1, 2, 3, 4] ∧
      reports.map Report.tasks = [⟨0, 1⟩, ⟨1, 2⟩, ⟨2, 3⟩, ⟨3, 3⟩, ⟨3, 3⟩] ∧
      reports.flatMap Report.output = [7, 8, 9] := by
  rcases parallel_eq_sequential 7 3 5 (· + ·) (by decide) with ⟨⟨reports, hhandled, horders⟩, -, -⟩
  exact ⟨by decide, reports, horders, hhandled.assigned.threadIds, hhandled.assigned.tasks,
    hhandled.outputs⟩

end SlotPool
