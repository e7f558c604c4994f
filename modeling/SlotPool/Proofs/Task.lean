import Mathlib.Algebra.BigOperators.Group.List.Basic
import Mathlib.Algebra.GroupWithZero.Nat
import Mathlib.Data.List.Basic
import SlotPool.Task

/-!
# Dealing out tasks

The ranges of a partition follow one another without gap or overlap, from the first task to the
last, so that putting them together gives all tasks in order.

Main results:

- Theorem `TaskRange.flatMap_toList_consecutive`: consecutive ranges, put together, are one range.
- Theorem `TaskRange.pairwise_consecutive`: every range ends before the later ones start.
- Theorem `flatMap_toList_partition`: the ranges of a partition, put together, are all tasks.
- Theorem `partition_unique`: no task is in two ranges.
-/

namespace SlotPool

namespace TaskRange

theorem mem_toList_iff {range : TaskRange} {task : Nat} :
    task ∈ range.toList ↔ range.start ≤ task ∧ task < range.stop := by
  simp only [toList, length, List.mem_range'_1]
  omega

@[simp]
theorem length_toList (range : TaskRange) : range.toList.length = range.length := by
  simp [toList]

/-- Consecutive ranges, put together, are one range. -/
theorem flatMap_toList_consecutive (start : Nat) (lengths : List Nat) :
    (consecutive start lengths).flatMap toList = List.range' start lengths.sum := by
  induction lengths generalizing start with
  | nil => rfl
  | cons length lengths ih =>
      simp [consecutive, ih, toList, TaskRange.length, List.range'_append_1]

/-- Consecutive ranges start where their row starts, or later. -/
theorem le_start_of_mem_consecutive {start : Nat} {lengths : List Nat} {range : TaskRange}
    (hmem : range ∈ consecutive start lengths) : start ≤ range.start := by
  induction lengths generalizing start with
  | nil => simp [consecutive] at hmem
  | cons length lengths ih =>
      rcases List.mem_cons.1 hmem with rfl | hlater
      · exact Nat.le_refl _
      · exact Nat.le_trans (Nat.le_add_right _ _) (ih hlater)

/-- Every range ends before the later ones start. -/
theorem pairwise_consecutive (start : Nat) (lengths : List Nat) :
    (consecutive start lengths).Pairwise fun range later => range.stop ≤ later.start := by
  induction lengths generalizing start with
  | nil => exact List.Pairwise.nil
  | cons length lengths ih =>
      refine List.Pairwise.cons ?_ (ih _)
      intro later hlater
      exact le_start_of_mem_consecutive hlater

end TaskRange

variable {total threads : Nat}

/-- The first shares add up to as many whole quotients and as much of the remainder. -/
theorem sum_taskShare (total threads count : Nat) :
    ((List.range count).map (taskShare total threads)).sum =
      count * (total / threads) + min count (total % threads) := by
  induction count with
  | zero => simp
  | succ count ih =>
      simp only [List.range_succ, List.map_append, List.sum_append, ih, List.map_cons,
        List.map_nil, List.sum_singleton, taskShare, Nat.succ_mul]
      split <;> omega

/-- The ranges of a partition, put together, are all tasks in order. -/
theorem flatMap_toList_partition (hthreads : 0 < threads) :
    (partition total threads).flatMap TaskRange.toList = List.range total := by
  have hrest := Nat.le_of_lt (Nat.mod_lt total hthreads)
  rw [partition, TaskRange.flatMap_toList_consecutive, sum_taskShare, Nat.min_eq_right hrest,
    Nat.div_add_mod, List.range_eq_range']

/-- The lengths of all ranges add up to the number of tasks. -/
theorem sum_length_partition (hthreads : 0 < threads) :
    ((partition total threads).map TaskRange.length).sum = total := by
  have hlength := congrArg List.length (@flatMap_toList_partition total threads hthreads)
  rw [List.length_flatMap, List.length_range] at hlength
  simpa only [TaskRange.length_toList] using hlength

/-- Every task is in some range. -/
theorem exists_range_of_lt (hthreads : 0 < threads) {task : Nat} (htask : task < total) :
    ∃ (thread : Nat) (range : TaskRange), (partition total threads)[thread]? = some range ∧
      task ∈ range.toList := by
  rw [← List.mem_range, ← flatMap_toList_partition hthreads, List.mem_flatMap] at htask
  rcases htask with ⟨range, hmem, htask⟩
  rcases List.getElem?_of_mem hmem with ⟨thread, hrange⟩
  exact ⟨thread, range, hrange, htask⟩

/-- No range has tasks that there are not. -/
theorem lt_of_mem_partition (hthreads : 0 < threads) {range : TaskRange} {task : Nat}
    (hrange : range ∈ partition total threads) (htask : task ∈ range.toList) : task < total := by
  rw [← List.mem_range, ← flatMap_toList_partition hthreads]
  exact List.mem_flatMap.2 ⟨range, hrange, htask⟩

/-- The tasks of an earlier thread come before those of a later one. -/
theorem lt_of_partition {thread later : Nat} {range after : TaskRange} {task other : Nat}
    (hrange : (partition total threads)[thread]? = some range)
    (hafter : (partition total threads)[later]? = some after) (hlt : thread < later)
    (htask : task ∈ range.toList) (hother : other ∈ after.toList) : task < other := by
  rcases List.getElem?_eq_some_iff.1 hrange with ⟨hthread, rfl⟩
  rcases List.getElem?_eq_some_iff.1 hafter with ⟨hlater, rfl⟩
  have hapart := List.pairwise_iff_getElem.1
    (TaskRange.pairwise_consecutive 0 ((List.range threads).map (taskShare total threads)))
    thread later hthread hlater hlt
  rw [TaskRange.mem_toList_iff] at htask hother
  exact Nat.lt_of_lt_of_le htask.2 (Nat.le_trans hapart hother.1)

/-- No task is in two ranges. -/
theorem partition_unique {thread other : Nat} {range another : TaskRange} {task : Nat}
    (hrange : (partition total threads)[thread]? = some range)
    (hanother : (partition total threads)[other]? = some another)
    (htask : task ∈ range.toList) (htask' : task ∈ another.toList) : thread = other := by
  rcases Nat.lt_trichotomy thread other with hlt | rfl | hgt
  · exact absurd (lt_of_partition hrange hanother hlt htask htask') (Nat.lt_irrefl _)
  · rfl
  · exact absurd (lt_of_partition hanother hrange hgt htask' htask) (Nat.lt_irrefl _)

end SlotPool
