import Mathlib.Order.Monotone.Basic
import SlotPool.Proofs.Task

/-!
# Where the ranges of a partition lie

The first ranges of a partition hold as many whole shares and as many of the tasks left over as
there are ranges, so that the place of a range can be told from its number alone.  Task numbers are
words of 32 bits, and none of the sums by which the ranges are computed one after another leaves
these bits.

Main definitions:

- `firstTask`: the first task of a worker.
- `dealWords?` and `partitionWords?`: dealing out in words of 32 bits, as far as all sums are words.
- `DealtFairly`: the ranges are as even as can be, and follow one another from first to last task.

Main results:

- Theorem `getElem?_partition`: the range of a worker, from its number.
- Theorem `partitionWords?_eq`: in words of 32 bits the ranges are the same.
- Theorem `partition_dealtFairly`: the tasks are dealt out fairly, and within 32 bits.
-/

namespace SlotPool

variable {total threads thread : Nat}

/-! ## The place of a range -/

/-- The first task of a worker, and the one after the last of the worker before it: as many tasks as
the workers before it have. -/
def firstTask (total threads thread : Nat) : Nat :=
  thread * (total / threads) + min thread (total % threads)

@[simp]
theorem firstTask_zero (total threads : Nat) : firstTask total threads 0 = 0 := by
  simp [firstTask]

theorem firstTask_succ (total threads thread : Nat) :
    firstTask total threads (thread + 1) =
      firstTask total threads thread + taskShare total threads thread := by
  simp only [firstTask, taskShare, Nat.succ_mul]
  split <;> omega

/-- The tasks of all workers are all tasks. -/
theorem firstTask_all (hthreads : 0 < threads) : firstTask total threads threads = total := by
  have hrest := Nat.le_of_lt (Nat.mod_lt total hthreads)
  rw [firstTask, Nat.min_eq_right hrest, Nat.div_add_mod]

theorem firstTask_mono (total threads : Nat) : Monotone (firstTask total threads) := by
  apply monotone_nat_of_le_succ
  intro thread
  rw [firstTask_succ]
  exact Nat.le_add_right _ _

theorem firstTask_le (hthreads : 0 < threads) (hthread : thread ≤ threads) :
    firstTask total threads thread ≤ total := by
  calc
    firstTask total threads thread ≤ firstTask total threads threads :=
      firstTask_mono total threads hthread
    _ = total := firstTask_all hthreads

/-- No worker has more tasks than there are. -/
theorem taskShare_le_total (hthread : thread < threads) :
    taskShare total threads thread ≤ total := by
  have hnext : firstTask total threads (thread + 1) ≤ total :=
    firstTask_le (Nat.zero_lt_of_lt hthread) hthread
  rw [firstTask_succ] at hnext
  exact Nat.le_trans (Nat.le_add_left _ _) hnext

/-- Consecutive shares give the ranges between the first tasks of the workers. -/
theorem consecutive_taskShare (total threads thread count : Nat) :
    TaskRange.consecutive (firstTask total threads thread)
        ((List.range' thread count).map (taskShare total threads)) =
      (List.range' thread count).map fun worker =>
        ⟨firstTask total threads worker, firstTask total threads (worker + 1)⟩ := by
  induction count generalizing thread with
  | zero => rfl
  | succ count ih =>
      rw [List.range'_succ, List.map_cons, List.map_cons, TaskRange.consecutive, ← firstTask_succ,
        ih]

/-- The range of a worker, from its number. -/
theorem getElem?_partition (total : Nat) (hthread : thread < threads) :
    (partition total threads)[thread]? =
      some ⟨firstTask total threads thread, firstTask total threads (thread + 1)⟩ := by
  have hranges := consecutive_taskShare total threads 0 threads
  rw [firstTask_zero, ← List.range_eq_range'] at hranges
  rw [partition, hranges]
  simp [hthread]

/-- A range of a partition is that of some worker. -/
theorem range_eq_of_getElem? {range : TaskRange}
    (hrange : (partition total threads)[thread]? = some range) :
    thread < threads ∧
      range = ⟨firstTask total threads thread, firstTask total threads (thread + 1)⟩ := by
  have hthread : thread < threads := by
    simpa using (List.getElem?_eq_some_iff.1 hrange).1
  rw [getElem?_partition total hthread] at hrange
  exact ⟨hthread, (Option.some.inj hrange).symm⟩

theorem length_of_getElem? {range : TaskRange}
    (hrange : (partition total threads)[thread]? = some range) :
    range.length = taskShare total threads thread := by
  rcases range_eq_of_getElem? hrange with ⟨-, rfl⟩
  rw [TaskRange.length, firstTask_succ, Nat.add_sub_cancel_left]

/-- Later shares are not larger, and smaller by one task at most. -/
theorem taskShare_le {later : Nat} (hle : thread ≤ later) :
    taskShare total threads later ≤ taskShare total threads thread ∧
      taskShare total threads thread ≤ taskShare total threads later + 1 := by
  simp only [taskShare]
  split <;> split <;> omega

/-! ## Words of 32 bits -/

/-- The sum of two words, if it is a word. -/
def wordSum? (left right : UInt32) : Option UInt32 :=
  if left.toNat + right.toNat < UInt32.size then some (left + right) else none

/-- The bounds of the ranges of `count` workers from `thread` on, the first one starting at `start`;
each worker gets `base` tasks, and the first `extra` workers get one more. -/
def dealWords? (base extra : UInt32) :
    (count : Nat) → (thread start : UInt32) → Option (List (UInt32 × UInt32))
  | 0, _, _ => some []
  | count + 1, thread, start => do
    let length ← wordSum? base (if thread < extra then 1 else 0)
    let stop ← wordSum? start length
    let later ← dealWords? base extra count (thread + 1) stop
    return (start, stop) :: later

/-- The bounds of the ranges of all workers over the tasks below `total`. -/
def partitionWords? (total threads : UInt32) : Option (List (UInt32 × UInt32)) :=
  if threads = 0 then some []
  else dealWords? (total / threads) (total % threads) threads.toNat 0 0

/-- The range between two words. -/
def TaskRange.ofWords (bounds : UInt32 × UInt32) : TaskRange where
  start := bounds.1.toNat
  stop := bounds.2.toNat

theorem wordSum?_eq {left right : UInt32} {sum : Nat} (hsum : left.toNat + right.toNat = sum)
    (hlt : sum < UInt32.size) :
    ∃ word, wordSum? left right = some word ∧ word.toNat = sum := by
  rw [← hsum] at hlt ⊢
  refine ⟨left + right, if_pos hlt, ?_⟩
  rw [UInt32.toNat_add]
  exact Nat.mod_eq_of_lt hlt

/-- The share of a worker is a word, and so are both its parts. -/
theorem wordSum?_share (total : UInt32) {threads thread : UInt32}
    (hthread : thread.toNat < threads.toNat) :
    ∃ length, wordSum? (total / threads) (if thread < total % threads then 1 else 0) = some length ∧
      length.toNat = taskShare total.toNat threads.toNat thread.toNat := by
  have hshare : (total / threads).toNat + (if thread < total % threads then 1 else 0 : UInt32).toNat
      = taskShare total.toNat threads.toNat thread.toNat := by
    rw [UInt32.toNat_div, taskShare]
    simp only [UInt32.lt_iff_toNat_lt, UInt32.toNat_mod]
    split <;> rfl
  exact wordSum?_eq hshare (Nat.lt_of_le_of_lt (taskShare_le_total hthread) total.toNat_lt_size)

/-- Counting on from a worker that is not past the last one does not leave the words. -/
theorem toNat_add_one {thread threads : UInt32} (hthread : thread.toNat < threads.toNat) :
    (thread + 1).toNat = thread.toNat + 1 := by
  have hfits : thread.toNat + 1 < UInt32.size := Nat.lt_of_le_of_lt hthread threads.toNat_lt_size
  rw [UInt32.toNat_add, UInt32.toNat_one]
  exact Nat.mod_eq_of_lt hfits

/-- Dealing out from some worker on in words gives the ranges from that worker on. -/
theorem dealWords?_eq {total threads : UInt32} {count : Nat} {thread start : UInt32}
    (hcount : thread.toNat + count = threads.toNat)
    (hstart : start.toNat = firstTask total.toNat threads.toNat thread.toNat) :
    ∃ words, dealWords? (total / threads) (total % threads) count thread start = some words ∧
      words.map TaskRange.ofWords = (List.range' thread.toNat count).map fun worker =>
        ⟨firstTask total.toNat threads.toNat worker,
          firstTask total.toNat threads.toNat (worker + 1)⟩ := by
  induction count generalizing thread start with
  | zero => exact ⟨[], rfl, rfl⟩
  | succ count ih =>
      have hthread : thread.toNat < threads.toNat := by omega
      have hnext := toNat_add_one hthread
      rcases wordSum?_share total hthread with ⟨length, hlength, hshare⟩
      have hsum : start.toNat + length.toNat =
          firstTask total.toNat threads.toNat (thread.toNat + 1) := by
        rw [hstart, hshare, firstTask_succ]
      -- The sum counts tasks, of which there are no more than a word can count.
      have hle : firstTask total.toNat threads.toNat (thread.toNat + 1) ≤ total.toNat :=
        firstTask_le (Nat.zero_lt_of_lt hthread) hthread
      rcases wordSum?_eq hsum (Nat.lt_of_le_of_lt hle total.toNat_lt_size) with
        ⟨stop, hstop, hstopNat⟩
      rw [← hnext] at hstopNat
      rcases ih (by omega) hstopNat with ⟨later, hlater, hranges⟩
      refine ⟨(start, stop) :: later, ?_, ?_⟩
      · simp only [dealWords?, hlength, hstop, hlater, Option.bind_eq_bind, Option.bind_some,
          Option.pure_def]
      · rw [List.map_cons, hranges, hnext, List.range'_succ, List.map_cons]
        simp only [TaskRange.ofWords, hstart, hstopNat, hnext]

/-- In words of 32 bits the ranges are the same. -/
theorem partitionWords?_eq (total : UInt32) {threads : UInt32} (hthreads : 0 < threads) :
    ∃ words, partitionWords? total threads = some words ∧
      words.map TaskRange.ofWords = partition total.toNat threads.toNat := by
  have hne : threads ≠ 0 := by
    rintro rfl
    contradiction
  have hzero : (0 : UInt32).toNat = 0 := rfl
  have hcount : (0 : UInt32).toNat + threads.toNat = threads.toNat := by rw [hzero, Nat.zero_add]
  have hstart : (0 : UInt32).toNat = firstTask total.toNat threads.toNat (0 : UInt32).toNat := by
    rw [hzero, firstTask_zero]
  rcases dealWords?_eq hcount hstart with ⟨words, hwords, hranges⟩
  refine ⟨words, ?_, ?_⟩
  · rw [partitionWords?, if_neg hne, hwords]
  · rw [hranges, hzero, ← consecutive_taskShare, firstTask_zero, ← List.range_eq_range', partition]

/-! ## The main result -/

/-- The ranges are those of `threads` workers over the tasks below `total`: they follow one another
from the first task to the last, and are as even as can be. -/
structure DealtFairly (total threads : Nat) (ranges : List TaskRange) : Prop where
  length_eq : ranges.length = threads
  ordered : ∀ range ∈ ranges, range.start ≤ range.stop
  first : ranges.head?.map TaskRange.start = some 0
  /-- Every range starts where the one before it stops. -/
  joined : ∀ (thread : Nat) range next, ranges[thread]? = some range →
    ranges[thread + 1]? = some next → next.start = range.stop
  last : ranges.getLast?.map TaskRange.stop = some total
  /-- Every task is in exactly one range. -/
  covered : ∀ task < total, ∃! thread : Nat, ∃ range,
    ranges[thread]? = some range ∧ task ∈ range.toList
  /-- Nothing else is in any range. -/
  inside : ∀ range ∈ ranges, ∀ task ∈ range.toList, task < total
  /-- The range of a worker, from its number. -/
  place : ∀ thread < threads, ranges[thread]? =
    some ⟨thread * (total / threads) + min thread (total % threads),
      (thread + 1) * (total / threads) + min (thread + 1) (total % threads)⟩
  /-- Later ranges are not longer, and shorter by one task at most. -/
  even : ∀ (thread later : Nat) range after, thread ≤ later → ranges[thread]? = some range →
    ranges[later]? = some after → after.length ≤ range.length ∧ range.length ≤ after.length + 1

/-- The tasks are dealt out fairly, and no sum on the way exceeds 32 bits. -/
theorem partition_dealtFairly (total threads : UInt32) (hthreads : 0 < threads) :
    DealtFairly total.toNat threads.toNat (partition total.toNat threads.toNat) ∧
      ∃ words, partitionWords? total threads = some words ∧
        words.map TaskRange.ofWords = partition total.toNat threads.toNat := by
  have hpos : 0 < threads.toNat := UInt32.lt_iff_toNat_lt.1 hthreads
  refine ⟨⟨length_partition _ _, ?_, ?_, ?_, ?_, ?_, ?_, ?_, ?_⟩, ?_⟩
  · intro range hmem
    rcases List.getElem?_of_mem hmem with ⟨thread, hrange⟩
    rcases range_eq_of_getElem? hrange with ⟨-, rfl⟩
    exact firstTask_mono _ _ (Nat.le_succ thread)
  · rw [List.head?_eq_getElem?, getElem?_partition _ hpos, Option.map_some, firstTask_zero]
  · intro thread range next hrange hnext
    rcases range_eq_of_getElem? hrange with ⟨-, rfl⟩
    rcases range_eq_of_getElem? hnext with ⟨-, rfl⟩
    rfl
  · rw [List.getLast?_eq_getElem?, length_partition, getElem?_partition _ (by omega),
      Option.map_some, Nat.sub_add_cancel hpos, firstTask_all hpos]
  · intro task htask
    rcases exists_range_of_lt hpos htask with ⟨thread, range, hrange, hmem⟩
    refine ⟨thread, ⟨range, hrange, hmem⟩, ?_⟩
    rintro other ⟨another, hother, hmem'⟩
    exact partition_unique hother hrange hmem' hmem
  · intro range hrange task htask
    exact lt_of_mem_partition hpos hrange htask
  · intro thread hthread
    exact getElem?_partition _ hthread
  · intro thread later range after hle hrange hafter
    rw [length_of_getElem? hrange, length_of_getElem? hafter]
    exact taskShare_le hle
  · exact partitionWords?_eq total hthreads

/-- As many tasks as 32 bits can count are dealt out to seven workers. -/
theorem partition_dealtFairly_sevenThreads :
    (0 : UInt32) < 7 ∧ DealtFairly 4294967295 7 (partition 4294967295 7) ∧
      (partition 4294967295 7)[6]? = some ⟨3681400539, 4294967295⟩ ∧
      ∃ words, partitionWords? 4294967295 7 = some words ∧
        words.map TaskRange.ofWords = partition 4294967295 7 := by
  have hdealt := partition_dealtFairly 4294967295 7 (by decide)
  exact ⟨by decide, hdealt.1, hdealt.1.place 6 (by decide), hdealt.2⟩

end SlotPool
