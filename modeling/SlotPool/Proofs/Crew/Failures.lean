import Mathlib.Data.Nat.Find
import Mathlib.Order.Bounds.Basic
import SlotPool.Crew.Job
import SlotPool.Proofs.Crew.Programs
import SlotPool.Proofs.Crew.Reports
import SlotPool.Proofs.Task

/-!
# Which failure is reported

Several things can be wrong with a computation at once: its configuration, the number of its
threads, the memory for the pools, and any of its workers.  Which of them is reported does not
depend on the order in which threads end: it is the first in this order, and among workers that
crash the one of the thread with the least number.  For workers that handle their tasks in order
this is the thread that was assigned the least of the tasks at which they crash.

Main definitions:

- `Pool.Buildable`: the conditions under which pools are built.
- `Verdict` and `PooledVerdict`: what is reported of workers without and with private pools.
- `Worker.loop` and `PooledWorker.loop`: workers that handle their tasks in order.
- `NamesLeastBad`: a failure is reported exactly if there is a bad task, and names the thread of the
  least one.

Main results:

- Theorems `Pool.Buildable.exists_of_create` and `Pool.buildable_of_create`: the pools that can be
  built are those that are built.
- Theorems `verdict_of_computeAlong?` and `pooledVerdict_of_computePooledAlong?`: what is reported.
- Theorem `failure_determined`: all of this, for all courses of events.
-/

namespace SlotPool

open Fresh

universe u v w

variable {memory part : Memory} {check : FreeCheck} {config : Config}
variable {drawn more : List BlockId}

/-! ## Building pools -/

namespace Pool

/-- Pools of a configuration can be built: it is valid, and the system grants the references to
their blocks and then each of the blocks. -/
structure Buildable (memory : Memory) (config : Config) : Prop where
  valid : config.validate = .ok ()
  references : memory.first.grants (config.initialBlocks * Memory.blockHeaderBytes) = true
  block : ∀ number < config.initialBlocks,
    Block.reserve (memory.rest.turn number) config.objectSize config.regionBytes = .ok ()

section Blocks

variable {objectSize blockBytes regionBytes count : Nat} {built : Array Block}
variable {result : Except Fault (Array Block)}

/-- Blocks that can be built are built, one after another. -/
theorem exists_of_createBlocks (hplan : Block.plan objectSize blockBytes = .ok regionBytes)
    (hreserve : ∀ number < count,
      Block.reserve (memory.turn number) objectSize regionBytes = .ok ())
    (h : (createBlocks memory objectSize blockBytes count built).Gives drawn result) :
    ∃ blocks, result = .ok blocks := by
  induction count generalizing memory built drawn with
  | zero => exact ⟨built, h.2.symm⟩
  | succ count ih =>
      rcases gives_bind_iff.1 h with ⟨own, rest, block, rfl, hcreate, hrest⟩
      rcases Block.eq_ok_of_create hplan (hreserve 0 (Nat.succ_pos count)) hcreate with
        ⟨id, rfl, rfl⟩
      exact ih (fun number hlt => hreserve (number + 1) (Nat.succ_lt_succ hlt)) hrest

/-- The first block that cannot be built is the last that is asked for. -/
theorem eq_error_of_createBlocks {number : Nat} {fault : Fault}
    (hplan : Block.plan objectSize blockBytes = .ok regionBytes) (hlt : number < count)
    (hbefore : ∀ earlier < number,
      Block.reserve (memory.turn earlier) objectSize regionBytes = .ok ())
    (hblock : Block.reserve (memory.turn number) objectSize regionBytes = .error fault)
    (h : (createBlocks memory objectSize blockBytes count built).Gives drawn result) :
    result = .error fault := by
  induction number generalizing memory count built drawn with
  | zero =>
      rcases Nat.exists_eq_succ_of_ne_zero (Nat.ne_of_gt hlt) with ⟨others, rfl⟩
      have hfirst : Block.create memory.first objectSize blockBytes = .done (.error fault) := by
        simp only [Block.create, hplan]
        rw [show Block.reserve memory.first objectSize regionBytes = .error fault from hblock]
      rw [createBlocks, hfirst] at h
      exact h.2.symm
  | succ number ih =>
      rcases Nat.exists_eq_succ_of_ne_zero (Nat.ne_of_gt (Nat.lt_of_le_of_lt (Nat.zero_le _) hlt))
        with ⟨others, rfl⟩
      rcases gives_bind_iff.1 h with ⟨own, rest, block, rfl, hcreate, hrest⟩
      rcases Block.eq_ok_of_create hplan (hbefore 0 (Nat.succ_pos number)) hcreate with
        ⟨id, rfl, rfl⟩
      exact ih (Nat.lt_of_succ_lt_succ hlt)
        (fun earlier hearlier => hbefore (earlier + 1) (Nat.succ_lt_succ hearlier)) hblock hrest

end Blocks

/-- A pool that can be built is built. -/
theorem Buildable.exists_of_create (h : Buildable memory config) {result : Except Fault Pool}
    (hcreate : (create memory config).Gives drawn result) : ∃ pool, result = .ok pool := by
  simp only [create, h.valid, Memory.reserve_eq_ok_iff.2 h.references] at hcreate
  rcases gives_bind_iff.1 hcreate with ⟨own, rest, built, rfl, hblocks, hrest⟩
  rcases exists_of_createBlocks (Config.plan_eq_ok h.valid) h.block hblocks with ⟨blocks, rfl⟩
  exact ⟨_, hrest.2.symm⟩

theorem Buildable.not_refused (h : Buildable memory config) (fault : Fault) :
    ¬ (create memory config).Gives drawn (.error fault) := by
  intro hcreate
  rcases h.exists_of_create hcreate with ⟨pool, hpool⟩
  cases hpool

/-- Without memory for the references to its blocks no pool is built. -/
theorem create_eq_of_references (hvalid : config.validate = .ok ())
    (hreferences : memory.first.grants (config.initialBlocks * Memory.blockHeaderBytes) = false) :
    create memory config =
      .done (.error (.outOfMemory (config.initialBlocks * Memory.blockHeaderBytes))) := by
  have hreserve : memory.first.reserve (config.initialBlocks * Memory.blockHeaderBytes) =
      .error (.outOfMemory (config.initialBlocks * Memory.blockHeaderBytes)) := by
    simp [Memory.reserve, hreferences]
  simp only [create, hvalid, hreserve]

/-- Without memory for one of its blocks no pool is built. -/
theorem eq_error_of_create {number : Nat} {fault : Fault} {result : Except Fault Pool}
    (hvalid : config.validate = .ok ())
    (hreferences : memory.first.grants (config.initialBlocks * Memory.blockHeaderBytes) = true)
    (hlt : number < config.initialBlocks)
    (hbefore : ∀ earlier < number,
      Block.reserve (memory.rest.turn earlier) config.objectSize config.regionBytes = .ok ())
    (hblock : Block.reserve (memory.rest.turn number) config.objectSize config.regionBytes =
      .error fault)
    (hcreate : (create memory config).Gives drawn result) : result = .error fault := by
  simp only [create, hvalid, Memory.reserve_eq_ok_iff.2 hreferences] at hcreate
  rcases gives_bind_iff.1 hcreate with ⟨own, rest, built, rfl, hblocks, hrest⟩
  rcases eq_error_of_createBlocks (Config.plan_eq_ok hvalid) hlt hbefore hblock hblocks with rfl
  exact hrest.2.symm

/-- A pool that was built could be built. -/
theorem buildable_of_create {pool : Pool}
    (hcreate : (create memory config).Gives drawn (.ok pool)) :
    Buildable memory config := by
  have hvalid := (eq_ofBlocks_of_create hcreate).1
  have hreferences :
      memory.first.grants (config.initialBlocks * Memory.blockHeaderBytes) = true := by
    cases hgrants : memory.first.grants (config.initialBlocks * Memory.blockHeaderBytes) with
    | true => rfl
    | false =>
        rw [create_eq_of_references hvalid hgrants] at hcreate
        cases hcreate.2
  refine ⟨hvalid, hreferences, fun number => ?_⟩
  -- The first block that were refused would have been reported.
  induction number using Nat.strong_induction_on with
  | _ number ih =>
      intro hlt
      cases hblock : Block.reserve (memory.rest.turn number) config.objectSize
          config.regionBytes with
      | ok _ => rfl
      | error fault =>
          have hbefore := fun earlier hearlier => ih earlier hearlier (Nat.lt_trans hearlier hlt)
          cases eq_error_of_create hvalid hreferences hlt hbefore hblock hcreate

end Pool

/-! ## The first failure -/

section First

variable {R : Type u} {total threads : Nat} {endings : List (Ending R)}

/-- An end of a crew is the end of one of its threads. -/
theorem exists_range_of_ending (hlength : endings.length = threads)
    {number : Nat} {ending : Ending R} (hending : endings[number]? = some ending) :
    ∃ range, (partition total threads)[number]? = some range := by
  have hlt : number < (partition total threads).length := by
    rw [length_partition, ← hlength]
    exact (List.getElem?_eq_some_iff.1 hending).1
  exact ⟨_, List.getElem?_eq_getElem hlt⟩

/-- If threads either returned or crashed, the first that crashed is named, and if none did there
are reports of all threads. -/
theorem collect_of_endings (hlength : endings.length = threads)
    (hbuilt : ∀ (number : Nat) (fault : Fault), endings[number]? ≠ some (.refused fault)) :
    (∀ thread, IsLeast {number | endings[number]? = some .crashed} thread →
      collect 0 ((partition total threads).zip endings) = .error (.workerCrashed thread)) ∧
    ((∀ number : Nat, endings[number]? ≠ some .crashed) →
      ∃ reports, collect 0 ((partition total threads).zip endings) = .ok reports ∧
        reports.length = threads) := by
  have hfailed : ∀ {number : Nat} {ending : Ending R}, endings[number]? = some ending →
      ending.Failed → ending = .crashed := by
    intro number ending hending hfailed
    cases ending with
    | crashed => rfl
    | refused fault => exact absurd hending (hbuilt number fault)
    | returned processed pool output => exact hfailed.elim
  constructor
  · rintro thread ⟨hcrashed, hleast⟩
    rcases exists_range_of_ending hlength hcrashed with ⟨range, hrange⟩
    have hentry : ((partition total threads).zip endings)[thread]? = some (range, .crashed) :=
      List.getElem?_zip_eq_some.2 ⟨hrange, hcrashed⟩
    apply collect_eq_error_of_first hentry
    · rw [Nat.zero_add]
      rfl
    · intro earlier hlt entry hearlier hnot
      have hending := (List.getElem?_zip_eq_some.1 hearlier).2
      rw [hfailed hending hnot] at hending
      exact absurd (hleast hending) (Nat.not_le_of_lt hlt)
  · intro hreturned
    have hnone : ∀ entry ∈ (partition total threads).zip endings, ¬ entry.2.Failed := by
      intro entry hentry hnot
      rcases List.getElem?_of_mem hentry with ⟨number, hnumber⟩
      have hending := (List.getElem?_zip_eq_some.1 hnumber).2
      rw [hfailed hending hnot] at hending
      exact hreturned number hending
    rcases exists_collect_eq_ok hnone 0 with ⟨reports, hreports⟩
    exact ⟨reports, hreports, (assigned_of_collect hlength hreports).length_eq⟩

/-- A failure is reported exactly if one of the tasks is bad, and it names the thread that was
assigned the least of them. -/
structure NamesLeastBad (total threads : Nat) (bad : Nat → Prop)
    (outcome : Except CrewFault (List (Report R))) : Prop where
  error_iff : (∃ fault, outcome = .error fault) ↔ ∃ task < total, bad task
  named : ∀ task, IsLeast {task | task < total ∧ bad task} task →
    ∃ (thread : Nat) (range : TaskRange), (partition total threads)[thread]? = some range ∧
      task ∈ range.toList ∧ outcome = .error (.workerCrashed thread)

/-- If threads crash exactly when they are assigned bad tasks, the thread of the least bad task is
the first that crashes. -/
theorem namesLeastBad_of_endings {bad : Nat → Prop} (hthreads : 0 < threads)
    (hlength : endings.length = threads)
    (hbuilt : ∀ (number : Nat) (fault : Fault), endings[number]? ≠ some (.refused fault))
    (hcrashed : ∀ (number : Nat) (range : TaskRange),
      (partition total threads)[number]? = some range →
      (endings[number]? = some .crashed ↔ ∃ task ∈ range.toList, bad task)) :
    NamesLeastBad total threads bad (collect 0 ((partition total threads).zip endings)) := by
  have hnamed : ∀ task, IsLeast {task | task < total ∧ bad task} task →
      ∃ (thread : Nat) (range : TaskRange), (partition total threads)[thread]? = some range ∧
        task ∈ range.toList ∧
        collect 0 ((partition total threads).zip endings) = .error (.workerCrashed thread) := by
    rintro task ⟨⟨htotal, hbad⟩, hleast⟩
    rcases exists_range_of_lt hthreads htotal with ⟨thread, range, hrange, htask⟩
    refine ⟨thread, range, hrange, htask, (collect_of_endings hlength hbuilt).1 thread ⟨?_, ?_⟩⟩
    · exact (hcrashed thread range hrange).2 ⟨task, htask, hbad⟩
    · -- An earlier thread that crashed would have been assigned a lesser bad task.
      intro other hother
      by_contra hlt
      rcases exists_range_of_ending hlength hother with ⟨earlier, hearlier⟩
      rcases (hcrashed other earlier hearlier).1 hother with ⟨worse, hworse, hbad'⟩
      have hbefore := lt_of_partition hearlier hrange (Nat.lt_of_not_le hlt) hworse htask
      have hle := hleast ⟨Nat.lt_trans hbefore htotal, hbad'⟩
      omega
  refine ⟨⟨?_, ?_⟩, hnamed⟩
  · rintro ⟨fault, hfault⟩
    by_contra hnone
    have hreturned : ∀ number : Nat, endings[number]? ≠ some .crashed := by
      intro number hnumber
      rcases exists_range_of_ending hlength hnumber with ⟨range, hrange⟩
      rcases (hcrashed number range hrange).1 hnumber with ⟨task, htask, hbad⟩
      exact hnone ⟨task, lt_of_mem_partition hthreads (List.mem_of_getElem? hrange) htask, hbad⟩
    rcases (collect_of_endings hlength hbuilt).2 hreturned with ⟨reports, hreports, -⟩
    rw [hreports] at hfault
    cases hfault
  · rintro hbad
    classical
    have hfirst : IsLeast {task | task < total ∧ bad task} (Nat.find hbad) :=
      ⟨Nat.find_spec hbad, fun task htask => Nat.find_min' hbad htask⟩
    rcases hnamed _ hfirst with ⟨thread, -, -, -, hfault⟩
    exact ⟨_, hfault⟩

end First

/-! ## Workers without pools -/

section Plain

variable {S : Type u} {R : Type v} {σ : Type w} {shared : S} {total threads : Nat}

/-- The threads on which a worker without a pool crashes. -/
def Worker.crashes (worker : Worker S R) (shared : S) (total threads : Nat) : Set Nat :=
  {thread | ∃ range : TaskRange, (partition total threads)[thread]? = some range ∧
    worker (.ofRange thread threads range shared) = none}

/-- What is reported of workers without pools. -/
structure Verdict (shared : S) (total threads : Nat) (worker : Worker S R)
    (outcome : Except CrewFault (List (Report R))) : Prop where
  noWorkers : threads = 0 → outcome = .error .noWorkers
  crashed : ∀ thread, IsLeast (worker.crashes shared total threads) thread →
    outcome = .error (.workerCrashed thread)
  returned : 0 < threads → worker.crashes shared total threads = ∅ →
    ∃ reports, outcome = .ok reports ∧ reports.length = threads

/-- The worker that handles its tasks in order, up to the first of which nothing can be made. -/
def Worker.loop (start : TaskParams S → σ) (handle : TaskParams S → σ → Nat → Option σ)
    (finish : TaskParams S → σ → R × TaskParams S) : Worker S R := fun params =>
  (params.tasks.fold (handle params) (start params)).map (finish params)

/-- The worker that collects what is made of its tasks is such a loop. -/
theorem Worker.each_eq_loop (handle : S → Nat → Option R) :
    Worker.each handle = Worker.loop (fun params => (#[], params.processed))
      (fun params done task =>
        (handle params.shared task).map fun output => (done.1.push output, done.2 + 1))
      (fun params done => (done.1.toList, { params with processed := done.2 })) :=
  rfl

theorem ending_eq_crashed_iff {worker : Worker S R} {params : TaskParams S} :
    worker.ending params = .crashed ↔ worker params = none := by
  unfold Worker.ending
  cases worker params <;> simp

theorem ending_ne_refused (worker : Worker S R) (params : TaskParams S) (fault : Fault) :
    worker.ending params ≠ .refused fault := by
  unfold Worker.ending
  cases worker params <;> simp

/-- The threads of workers without pools end as their workers say; none of them is refused. -/
theorem exists_endings_plain {worker : Worker S R} {order : List Nat}
    {outcome : Except CrewFault (List (Report R))} (hthreads : 0 < threads)
    (h : computeAlong? shared total threads worker order = some outcome) :
    ∃ endings : List (Ending R), endings.length = threads ∧
      outcome = collect 0 ((partition total threads).zip endings) ∧
      (∀ (number : Nat) (fault : Fault), endings[number]? ≠ some (.refused fault)) ∧
      ∀ (number : Nat) (range : TaskRange), (partition total threads)[number]? = some range →
        endings[number]? = some (worker.ending (.ofRange number threads range shared)) := by
  rcases exists_endings hthreads h with ⟨endings, hlength, houtcome, -, hgives⟩
  have hendings : ∀ (number : Nat) (range : TaskRange),
      (partition total threads)[number]? = some range →
        endings[number]? = some (worker.ending (.ofRange number threads range shared)) := by
    intro number range hrange
    rcases hgives number range hrange with ⟨ids, ending, hending, -, hdone⟩
    rw [hending, ← hdone.2]
  refine ⟨endings, hlength, houtcome, ?_, hendings⟩
  intro number fault hrefused
  rcases exists_range_of_ending hlength hrefused with ⟨range, hrange⟩
  rw [hendings number range hrange] at hrefused
  exact ending_ne_refused worker _ fault (Option.some.inj hrefused)

/-- Whatever order threads end in, the first that crashes is named, and if none does there are
reports of all. -/
theorem verdict_of_computeAlong? {worker : Worker S R} {order : List Nat}
    {outcome : Except CrewFault (List (Report R))}
    (h : computeAlong? shared total threads worker order = some outcome) :
    Verdict shared total threads worker outcome := by
  by_cases hthreads : 0 < threads
  · rcases exists_endings_plain hthreads h with ⟨endings, hlength, rfl, hbuilt, hendings⟩
    have hcrashes : {number : Nat | endings[number]? = some .crashed} =
        worker.crashes shared total threads := by
      ext number
      constructor
      · intro hcrashed
        rcases exists_range_of_ending hlength hcrashed with ⟨range, hrange⟩
        rw [Set.mem_ofPred_eq, hendings number range hrange, Option.some.injEq,
          ending_eq_crashed_iff] at hcrashed
        exact ⟨range, hrange, hcrashed⟩
      · rintro ⟨range, hrange, hnone⟩
        rw [Set.mem_ofPred_eq, hendings number range hrange, ending_eq_crashed_iff.2 hnone]
    rcases collect_of_endings hlength hbuilt with ⟨hfirst, hreturned⟩
    refine ⟨fun hzero => absurd hzero (Nat.ne_of_gt hthreads), ?_, ?_⟩
    · intro thread hleast
      exact hfirst thread (hcrashes ▸ hleast)
    · intro _ hnone
      apply hreturned
      intro number hcrashed
      have hmem : number ∈ worker.crashes shared total threads := hcrashes ▸ hcrashed
      rw [hnone] at hmem
      exact hmem
  · have hzero := Nat.eq_zero_of_not_pos hthreads
    refine ⟨?_, ?_, fun hpos => absurd hpos hthreads⟩
    · intro _
      simpa [computeAlong?, outcomeAlong?, hzero] using h.symm
    · rintro thread ⟨⟨range, hrange, -⟩, -⟩
      rw [hzero] at hrange
      contradiction

/-- The loop of a worker crashes exactly at the bad tasks, as long as something holds that every
other task keeps. -/
structure Worker.CrashesOnly (shared : S) (bad : Nat → Prop) (Inv : TaskParams S → σ → Prop)
    (start : TaskParams S → σ) (handle : TaskParams S → σ → Nat → Option σ) : Prop where
  start : ∀ params, params.shared = shared → Inv params (start params)
  bad_iff : ∀ params state task, Inv params state → (handle params state task = none ↔ bad task)
  keep : ∀ params state task next, Inv params state → handle params state task = some next →
    Inv params next

variable {bad : Nat → Prop} {Inv : TaskParams S → σ → Prop} {start : TaskParams S → σ}
variable {handle : TaskParams S → σ → Nat → Option σ}

/-- A loop that handles tasks in order ends early exactly if one of them is bad. -/
theorem Worker.CrashesOnly.foldFrom_eq_none_iff
    (h : Worker.CrashesOnly shared bad Inv start handle) {params : TaskParams S} {state : σ}
    (hstate : Inv params state) (count first : Nat) :
    TaskRange.foldFrom (handle params) count first state = none ↔
      ∃ task ∈ List.range' first count, bad task := by
  induction count generalizing first state with
  | zero => simp [TaskRange.foldFrom]
  | succ count ih =>
      have hbad := h.bad_iff params state first hstate
      rw [TaskRange.foldFrom, List.range'_succ]
      cases hnext : handle params state first with
      | none => simp [hbad.1 hnext]
      | some next =>
          have hgood : ¬ bad first := by
            rw [← hbad, hnext]
            exact Option.some_ne_none next
          simp [hgood, ih (h.keep params state first next hstate hnext)]

/-- Workers that handle their tasks in order fail at the least bad task. -/
theorem Worker.CrashesOnly.namesLeastBad (h : Worker.CrashesOnly shared bad Inv start handle)
    (finish : TaskParams S → σ → R × TaskParams S) {order : List Nat}
    {outcome : Except CrewFault (List (Report R))} (hthreads : 0 < threads)
    (houtcome : computeAlong? shared total threads (Worker.loop start handle finish) order =
      some outcome) : NamesLeastBad total threads bad outcome := by
  rcases exists_endings_plain hthreads houtcome with ⟨endings, hlength, rfl, hbuilt, hendings⟩
  apply namesLeastBad_of_endings hthreads hlength hbuilt
  intro number range hrange
  have hstart := h.start (.ofRange number threads range shared) rfl
  rw [hendings number range hrange, Option.some.injEq, ending_eq_crashed_iff, Worker.loop,
    Option.map_eq_none_iff]
  exact h.foldFrom_eq_none_iff hstart range.length range.start

end Plain

/-! ## Workers with private pools -/

section Pooled

variable {S R : Type} {shared : S} {total threads first : Nat} {use : PoolUse S R}
variable {params : TaskParams S} {events : List Shift.Event} {ending : Ending R}
variable {outcome : Except CrewFault (List (Report R))}

/-- What is reported of workers with private pools along a course of events, whatever they do with
their pools.  Every thread first asks for the references to its blocks and then for one block after
another. -/
structure PooledVerdict (memory : Memory) (config : Config) (shared : S) (total threads : Nat)
    (use : PoolUse S R) (first : Nat) (events : List Shift.Event)
    (outcome : Except CrewFault (List (Report R))) : Prop where
  invalid : ∀ cause, config.validate = .error cause →
    outcome = .error (.pool (.invalidConfig cause))
  noWorkers : config.validate = .ok () → threads = 0 → outcome = .error .noWorkers
  /-- Without memory for references no thread comes to use a pool. -/
  unreferenced : config.validate = .ok () → 0 < threads →
    memory.first.first.grants (config.initialBlocks * Memory.blockHeaderBytes) = false →
      outcome =
        .error (.pool (.outOfMemory (config.initialBlocks * Memory.blockHeaderBytes))) ∧
      ∀ params, use.thread memory config params =
        .done (.refused (.outOfMemory (config.initialBlocks * Memory.blockHeaderBytes)))
  /-- Without memory for a block no thread comes to use a pool. -/
  unbuilt : config.validate = .ok () → 0 < threads →
    memory.first.first.grants (config.initialBlocks * Memory.blockHeaderBytes) = true →
    ∀ number < config.initialBlocks, ∀ fault,
      (∀ earlier < number, Block.reserve (memory.first.rest.turn earlier) config.objectSize
        config.regionBytes = .ok ()) →
      Block.reserve (memory.first.rest.turn number) config.objectSize config.regionBytes =
        .error fault →
      (∃ bytes, fault = .outOfMemory bytes) ∧ outcome = .error (.pool fault) ∧
      ∀ params ids ending, (use.thread memory config params).Gives ids ending →
        ending = .refused fault
  crashed : Pool.Buildable memory.first config → 0 < threads →
    ∀ thread, IsLeast {thread | (shiftAfter shared total threads (use.thread memory config) first
      events).join? thread = some .crashed} thread → outcome = .error (.workerCrashed thread)
  returned : Pool.Buildable memory.first config → 0 < threads →
    (∀ thread, (shiftAfter shared total threads (use.thread memory config) first
      events).join? thread ≠ some .crashed) →
        ∃ reports, outcome = .ok reports ∧ reports.length = threads

/-- Where no pool is built, threads end at once. -/
theorem PoolUse.thread_of_refused {fault : Fault}
    (hcreate : Pool.create memory.first config = .done (.error fault)) (use : PoolUse S R)
    (params : TaskParams S) : use.thread memory config params = .done (.refused fault) := by
  rw [PoolUse.thread, hcreate]
  rfl

/-- Where a block is wanting, threads end as soon as they ask for it. -/
theorem PoolUse.eq_refused_of_thread {fault : Fault}
    (hrefused : ∀ ids result, (Pool.create memory.first config).Gives ids result →
      result = .error fault)
    (h : (use.thread memory config params).Gives drawn ending) : ending = .refused fault := by
  rcases thread_cases h with ⟨fault', hcreate, rfl⟩ | ⟨own, _, pool, _, _, -, hcreate, -, -⟩
  · rcases Except.error.inj (hrefused _ _ hcreate) with rfl
    rfl
  · cases hrefused _ _ hcreate

/-- Where pools are built, no thread is refused. -/
theorem PoolUse.ne_refused_of_thread (hbuildable : Pool.Buildable memory.first config)
    (h : (use.thread memory config params).Gives drawn ending) (fault : Fault) :
    ending ≠ .refused fault := by
  rcases thread_cases h with ⟨fault', hcreate, -⟩ | ⟨_, _, _, result, _, -, -, -, rfl⟩
  · exact absurd hcreate (hbuildable.not_refused fault')
  · cases result <;> simp

/-- If no thread gets its pool, that is what is reported. -/
theorem outcome_of_refused {thread : TaskParams S → Fresh (Ending R)} {fault : Fault}
    (hthreads : 0 < threads)
    (hrefused : ∀ params ids ending, (thread params).Gives ids ending → ending = .refused fault)
    (h : outcomeAlong? shared total threads thread first events = some outcome) :
    outcome = .error (.pool fault) := by
  rcases exists_endings hthreads h with ⟨endings, hlength, rfl, -, hgives⟩
  have hrange := List.getElem?_eq_getElem (l := partition total threads) (by simpa using hthreads)
  rcases hgives 0 _ hrange with ⟨ids, ending, hending, -, hthread⟩
  rw [hrefused _ _ _ hthread] at hending
  apply collect_eq_error_of_first (List.getElem?_zip_eq_some.2 ⟨hrange, hending⟩) rfl
  intro earlier hlt
  exact absurd hlt (Nat.not_lt_zero earlier)

/-- Where pools are built, the threads of a computation returned or crashed. -/
theorem exists_endings_pooled (hbuildable : Pool.Buildable memory.first config)
    (hthreads : 0 < threads)
    (h : computePooledAlong? memory config shared total threads use first events = some outcome) :
    ∃ endings : List (Ending R), endings.length = threads ∧
      outcome = collect 0 ((partition total threads).zip endings) ∧
      (∀ (number : Nat) (fault : Fault), endings[number]? ≠ some (.refused fault)) ∧
      (∀ number, (shiftAfter shared total threads (use.thread memory config) first events).join?
        number = endings[number]?) ∧
      ∀ (number : Nat) (range : TaskRange), (partition total threads)[number]? = some range →
        ∃ ids ending, endings[number]? = some ending ∧ Ascending ids ∧
          (use.thread memory config (.ofRange number threads range shared)).Gives ids ending := by
  simp only [computePooledAlong?, hbuildable.valid] at h
  rcases exists_endings hthreads h with ⟨endings, hlength, houtcome, hjoin, hgives⟩
  refine ⟨endings, hlength, houtcome, ?_, hjoin, hgives⟩
  intro number fault hrefused
  rcases exists_range_of_ending hlength hrefused with ⟨range, hrange⟩
  rcases hgives number range hrange with ⟨ids, ending, hending, -, hthread⟩
  rw [hending] at hrefused
  exact PoolUse.ne_refused_of_thread hbuildable hthread fault (Option.some.inj hrefused)

/-- Along every course of events the first failure is reported, whatever the workers do. -/
theorem pooledVerdict_of_computePooledAlong?
    (h : computePooledAlong? memory config shared total threads use first events = some outcome) :
    PooledVerdict memory config shared total threads use first events outcome := by
  have houtcome : config.validate = .ok () →
      outcomeAlong? shared total threads (use.thread memory config) first events =
        some outcome := by
    intro hvalid
    simpa only [computePooledAlong?, hvalid] using h
  refine ⟨?_, ?_, ?_, ?_, ?_, ?_⟩
  · intro cause hinvalid
    simp only [computePooledAlong?, hinvalid, Option.some.injEq] at h
    exact h.symm
  · intro hvalid hzero
    have hnone := houtcome hvalid
    rw [outcomeAlong?, if_pos hzero] at hnone
    exact (Option.some.inj hnone).symm
  · intro hvalid hthreads hreferences
    have hthread := PoolUse.thread_of_refused (Pool.create_eq_of_references hvalid hreferences) use
    refine ⟨outcome_of_refused hthreads ?_ (houtcome hvalid), hthread⟩
    intro params ids ending hending
    rw [hthread, gives_done_iff] at hending
    exact hending.2.symm
  · intro hvalid hthreads hreferences number hlt fault hbefore hblock
    have hthread : ∀ params ids ending, (use.thread memory config params).Gives ids ending →
        ending = .refused fault :=
      fun params ids ending => PoolUse.eq_refused_of_thread fun ids result =>
        Pool.eq_error_of_create hvalid hreferences hlt hbefore hblock
    exact ⟨Block.outOfMemory_of_reserve hblock,
      outcome_of_refused hthreads hthread (houtcome hvalid), hthread⟩
  · intro hbuildable hthreads thread hleast
    rcases exists_endings_pooled hbuildable hthreads h with
      ⟨endings, hlength, rfl, hbuilt, hjoin, -⟩
    simp only [hjoin] at hleast
    exact (collect_of_endings hlength hbuilt).1 thread hleast
  · intro hbuildable hthreads hreturned
    rcases exists_endings_pooled hbuildable hthreads h with
      ⟨endings, hlength, rfl, hbuilt, hjoin, -⟩
    simp only [hjoin] at hreturned
    exact (collect_of_endings hlength hbuilt).2 hreturned

/-! ## Loops over pools -/

/-- Does `count` tasks from `first` on, in order. -/
def Program.loop {σ : Type} (handle : σ → Nat → Program σ) : (count first : Nat) → σ → Program σ
  | 0, _, state => .done state
  | count + 1, first, state => (handle state first).bind (Program.loop handle count (first + 1))

/-- The worker that handles its tasks in order with its pool, up to the first at which it
crashes. -/
def PooledWorker.loop {σ : Type} (start : TaskParams S → σ)
    (handle : TaskParams S → σ → Nat → Program σ)
    (finish : TaskParams S → σ → R × TaskParams S) : PooledWorker S R := fun params =>
  (Program.loop (handle params) params.taskCount params.firstId (start params)).bind fun state =>
    .done (finish params state)

/-- The worker that builds nodes is such a loop. -/
theorem Job.nodesWorker_eq_loop (objectSize perTask free : Nat) (reclaim : Bool) :
    Job.nodesWorker objectSize perTask free reclaim = PooledWorker.loop (fun _ => #[])
      (fun _ filled task => (Job.nodesTask objectSize perTask free reclaim task).bind fun places =>
        .done (filled ++ places))
      (fun params filled => (.places filled.toList,
        { params with processed := params.processed + params.taskCount })) := by
  have hloop : ∀ (count first : Nat) (filled : Array Place),
      Job.nodesTasks (Job.nodesTask objectSize perTask free reclaim) count first filled =
        Program.loop (fun filled task =>
          (Job.nodesTask objectSize perTask free reclaim task).bind fun places =>
            .done (filled ++ places)) count first filled := by
    intro count
    induction count with
    | zero => intro first filled; rfl
    | succ count ih =>
        intro first filled
        rw [Job.nodesTasks, Program.loop, Program.bind_bind]
        simp only [ih, Program.bind]
  funext params
  rw [Job.nodesWorker, PooledWorker.loop, hloop]

/-- The loop of a worker crashes exactly at the bad tasks, as long as something holds of its state
and of its pool that holds at first and that every other task keeps. -/
structure PooledWorker.CrashesOnly {σ : Type} (memory : Memory) (check : FreeCheck)
    (config : Config) (shared : S) (bad : Nat → Prop)
    (Inv : TaskParams S → List BlockId → σ → Pool → Prop) (start : TaskParams S → σ)
    (handle : TaskParams S → σ → Nat → Program σ) : Prop where
  start : ∀ params drawn pool, params.shared = shared → Ascending drawn →
    (Pool.create memory.first config).Gives drawn (.ok pool) → Inv params drawn (start params) pool
  bad_iff : ∀ part params drawn more state task pool result after, memory.Part part →
    Inv params drawn state pool → Ascending (drawn ++ more) →
    ((handle params state task).run part check pool).Gives more (result, after) →
      (result = none ↔ bad task)
  keep : ∀ part params drawn more state task pool next after, memory.Part part →
    Inv params drawn state pool → Ascending (drawn ++ more) →
    ((handle params state task).run part check pool).Gives more (some next, after) →
      Inv params (drawn ++ more) next after

variable {σ : Type} {bad : Nat → Prop} {Inv : TaskParams S → List BlockId → σ → Pool → Prop}
variable {start : TaskParams S → σ} {handle : TaskParams S → σ → Nat → Program σ}

/-- A loop that handles tasks in order crashes exactly if one of them is bad. -/
theorem PooledWorker.CrashesOnly.run_loop_eq_none_iff
    (h : PooledWorker.CrashesOnly memory check config shared bad Inv start handle) {state : σ}
    {pool after : Pool} {result : Option σ} {count task : Nat}
    (hpart : memory.Part part) (hstate : Inv params drawn state pool)
    (hascending : Ascending (drawn ++ more))
    (hrun : ((Program.loop (handle params) count task state).run part check pool).Gives more
      (result, after)) :
    result = none ↔ ∃ other ∈ List.range' task count, bad other := by
  -- The condition is carried along with the identities drawn so far.
  induction count generalizing part drawn more state pool task with
  | zero =>
      rw [← (Prod.mk.inj hrun.2).1]
      simp
  | succ count ih =>
      rw [Program.loop] at hrun
      rw [List.range'_succ]
      rcases Program.gives_run_bind hrun with
        ⟨hcrashed, rfl⟩ | ⟨own, rest, next, middle, piece, rfl, hfirst, hpiece, hrest⟩
      · have hbad := h.bad_iff part params drawn more state task pool none after hpart hstate
          hascending hcrashed
        simp [hbad.1 rfl]
      · rw [← List.append_assoc] at hascending
        have hgood : ¬ bad task := by
          rw [← h.bad_iff part params drawn own state task pool (some next) middle hpart hstate
            hascending.left hfirst]
          exact Option.some_ne_none next
        have hnext := h.keep part params drawn own state task pool next middle hpart hstate
          hascending.left hfirst
        simp [hgood, ih (hpart.trans hpiece) hnext hascending hrest]

/-- The thread of a worker that handles its tasks in order crashes exactly if one of them is bad. -/
theorem PooledWorker.CrashesOnly.thread_crashed_iff
    (h : PooledWorker.CrashesOnly memory check config shared bad Inv start handle)
    (hbuildable : Pool.Buildable memory.first config)
    {finish : TaskParams S → σ → R × TaskParams S}
    (hshared : params.shared = shared) (hascending : Ascending drawn)
    (hthread : (PooledWorker.thread memory check config (PooledWorker.loop start handle finish)
      params).Gives drawn ending) :
    ending = .crashed ↔ ∃ task ∈ params.tasks.toList, bad task := by
  rw [← PooledWorker.thread_use] at hthread
  rcases PoolUse.thread_cases hthread with ⟨fault, hcreate, -⟩ |
    ⟨own, rest, pool, value, after, rfl, hcreate, hrun, rfl⟩
  · exact absurd hcreate (hbuildable.not_refused fault)
  · rw [PooledWorker.use, PooledWorker.loop] at hrun
    have hstart := h.start params own pool hshared hascending.left hcreate
    rcases Program.gives_run_bind hrun with
      ⟨hloop, rfl⟩ | ⟨looped, tail, state, middle, piece, rfl, hloop, -, hfinish⟩
    · have hcrashed : none = none ↔ ∃ task ∈ params.tasks.toList, bad task :=
        h.run_loop_eq_none_iff Memory.Part.all.rest hstart hascending hloop
      simpa using hcrashed
    · rw [← List.append_assoc] at hascending
      have hcrashed : some state = none ↔ ∃ task ∈ params.tasks.toList, bad task :=
        h.run_loop_eq_none_iff Memory.Part.all.rest hstart hascending.left hloop
      rcases Prod.mk.inj hfinish.2 with ⟨rfl, -⟩
      simpa using hcrashed

/-- Workers that handle their tasks in order with their pools fail at the least bad task. -/
theorem PooledWorker.CrashesOnly.namesLeastBad
    (h : PooledWorker.CrashesOnly memory check config shared bad Inv start handle)
    (hbuildable : Pool.Buildable memory.first config) (finish : TaskParams S → σ → R × TaskParams S)
    (hthreads : 0 < threads)
    (houtcome : computePooledAlong? memory config shared total threads
      ((PooledWorker.loop start handle finish).use memory check) first events = some outcome) :
    NamesLeastBad total threads bad outcome := by
  rcases exists_endings_pooled hbuildable hthreads houtcome with
    ⟨endings, hlength, rfl, hbuilt, -, hgives⟩
  apply namesLeastBad_of_endings hthreads hlength hbuilt
  intro number range hrange
  rcases hgives number range hrange with ⟨ids, ending, hending, hascending, hthread⟩
  rw [hending, Option.some.injEq]
  exact h.thread_crashed_iff hbuildable rfl hascending hthread

end Pooled

/-! ## What is reported -/

/-- Which failure is reported is determined, whatever the order in which threads end.  Workers with
private pools may use them in any way: along every course of events, all of which can be brought to
their ends, what is wrong first with the configuration, the number of threads and the memory is
reported, then the crash of the first thread that crashed, and else there are reports of all
threads.  Workers without pools have the same told of them, but for the configuration.  If workers
handle their tasks in order and crash exactly at bad ones, it is the thread of the least bad task
below `total` that is named. -/
theorem failure_determined {S R : Type} (memory : Memory) (check : FreeCheck) (config : Config)
    (shared : S) (total threads first : Nat) :
    (∀ (use : PoolUse S R) (events : List Shift.Event),
      (∃ more outcome, computePooledAlong? memory config shared total threads use first
        (events ++ more) = some outcome) ∧
      ∀ outcome,
        computePooledAlong? memory config shared total threads use first events = some outcome →
          PooledVerdict memory config shared total threads use first events outcome) ∧
    (∀ (worker : Worker S R) (order : List Nat), order.Perm (List.range threads) →
      ∃ outcome, computeAlong? shared total threads worker order = some outcome ∧
        Verdict shared total threads worker outcome) ∧
    (0 < threads → ∀ {σ : Type} (bad : Nat → Prop) (start : TaskParams S → σ)
      (finish : TaskParams S → σ → R × TaskParams S),
      (∀ (Inv : TaskParams S → σ → Prop) (handle : TaskParams S → σ → Nat → Option σ)
        (order : List Nat) (outcome : Except CrewFault (List (Report R))),
        Worker.CrashesOnly shared bad Inv start handle →
        computeAlong? shared total threads (Worker.loop start handle finish) order = some outcome →
          NamesLeastBad total threads bad outcome) ∧
      ∀ (Inv : TaskParams S → List BlockId → σ → Pool → Prop)
        (handle : TaskParams S → σ → Nat → Program σ) (events : List Shift.Event)
        (outcome : Except CrewFault (List (Report R))),
        Pool.Buildable memory.first config →
        PooledWorker.CrashesOnly memory check config shared bad Inv start handle →
        computePooledAlong? memory config shared total threads
          ((PooledWorker.loop start handle finish).use memory check) first events = some outcome →
          NamesLeastBad total threads bad outcome) := by
  refine ⟨?_, ?_, ?_⟩
  · intro use events
    exact ⟨exists_computePooledAlong? memory config shared total threads use first events,
      fun outcome houtcome => pooledVerdict_of_computePooledAlong? houtcome⟩
  · intro worker order hperm
    have hall : ∀ thread < threads, thread ∈ order :=
      fun thread hlt => hperm.mem_iff.2 (List.mem_range.2 hlt)
    have houtcome := computeAlong?_eq shared total threads worker hall
    exact ⟨_, houtcome, verdict_of_computeAlong? houtcome⟩
  · intro hthreads σ bad start finish
    refine ⟨?_, ?_⟩
    · intro Inv handle order outcome hcrashes houtcome
      exact hcrashes.namesLeastBad finish hthreads houtcome
    · intro Inv handle events outcome hbuildable hcrashes houtcome
      exact hcrashes.namesLeastBad hbuildable finish hthreads houtcome

/-! ## Two bad tasks -/

/-- The tasks at which the following workers crash. -/
def badTask (task : Nat) : Bool :=
  task == 4 || task == 5

/-- Counts a task, unless it is bad. -/
def countTask (_ : TaskParams Unit) (count task : Nat) : Option Nat :=
  if badTask task then none else some (count + 1)

/-- Fills a slot for a task and takes it back, unless the task is bad. -/
def slotTask (_ : TaskParams Unit) (count task : Nat) : Program Nat :=
  if badTask task then .crash else .allocate fun _ => .reclaim (.done (count + 1))

theorem countTask_crashesOnly :
    Worker.CrashesOnly () (badTask · = true) (fun _ _ => True) (fun _ => 0) countTask := by
  refine ⟨fun _ _ => trivial, ?_, fun _ _ _ _ _ _ => trivial⟩
  intro params count task _
  unfold countTask
  split
  · next hbad => simp [hbad]
  · next hgood => simp [hgood]

theorem slotTask_crashesOnly :
    PooledWorker.CrashesOnly .ample .quick ⟨8, 1, 16⟩ () (badTask · = true)
      (fun _ _ _ _ => True) (fun _ => 0) slotTask := by
  refine ⟨fun _ _ _ _ _ _ => trivial, ?_, fun _ _ _ _ _ _ _ _ _ _ _ _ _ => trivial⟩
  intro part params drawn more count task pool result after _ _ _ hrun
  unfold slotTask at hrun
  split at hrun
  · next hbad =>
      rw [← (Prod.mk.inj hrun.2).1]
      simp [hbad]
  · next hgood =>
      rw [Program.run_allocate] at hrun
      rcases gives_bind_iff.1 hrun with ⟨own, rest, ⟨place, middle⟩, rfl, -, hrest⟩
      rw [← (Prod.mk.inj hrest.2).1]
      simp [hgood]

/-- Gives the count, and counts the tasks as done. -/
def countedTasks (params : TaskParams Unit) (count : Nat) : Nat × TaskParams Unit :=
  (count, { params with processed := count })

/-- Of seven tasks on three threads two are bad, one of the second thread and one of the third.  The
third ends first, and the second is named. -/
theorem failure_determined_badTask :
    0 < 3 ∧
      Worker.CrashesOnly () (badTask · = true) (fun _ _ => True) (fun _ => 0) countTask ∧
      computeAlong? () 7 3 (Worker.loop (fun _ => 0) countTask countedTasks) [2, 0, 1] =
        some (.error (.workerCrashed 1)) ∧
      NamesLeastBad (R := Nat) 7 3 (badTask · = true) (.error (.workerCrashed 1)) ∧
      Pool.Buildable Memory.ample.first ⟨8, 1, 16⟩ ∧
      PooledWorker.CrashesOnly .ample .quick ⟨8, 1, 16⟩ () (badTask · = true)
        (fun _ _ _ _ => True) (fun _ => 0) slotTask ∧
      computePooledAlong? .ample ⟨8, 1, 16⟩ () 7 3
          ((PooledWorker.loop (fun _ => 0) slotTask countedTasks).use .ample .quick) 1
          [.draw 2, .finish 2, .draw 1, .draw 0, .finish 1, .finish 0] =
        some (.error (.workerCrashed 1)) ∧
      NamesLeastBad (R := Nat) 7 3 (badTask · = true) (.error (.workerCrashed 1)) := by
  have hbuildable : Pool.Buildable Memory.ample.first ⟨8, 1, 16⟩ := by
    refine ⟨rfl, by decide, fun number _ => ?_⟩
    rw [Memory.ample_first, Memory.ample_rest, Memory.ample_turn]
    rfl
  have hplain : computeAlong? () 7 3 (Worker.loop (fun _ => 0) countTask countedTasks) [2, 0, 1] =
      some (.error (.workerCrashed 1)) := by
    rfl
  have hpooled : computePooledAlong? .ample ⟨8, 1, 16⟩ () 7 3
      ((PooledWorker.loop (fun _ => 0) slotTask countedTasks).use .ample .quick) 1
      [.draw 2, .finish 2, .draw 1, .draw 0, .finish 1, .finish 0] =
        some (.error (.workerCrashed 1)) := by
    with_unfolding_all rfl
  rcases (failure_determined .ample .quick ⟨8, 1, 16⟩ () 7 3 1).2.2 (by decide) (badTask · = true)
    (fun _ => 0) countedTasks with ⟨hloop, hpooledLoop⟩
  exact ⟨by decide, countTask_crashesOnly, hplain,
    hloop _ countTask [2, 0, 1] _ countTask_crashesOnly hplain, hbuildable, slotTask_crashesOnly,
    hpooled, hpooledLoop _ slotTask _ _ hbuildable slotTask_crashesOnly hpooled⟩

end SlotPool
