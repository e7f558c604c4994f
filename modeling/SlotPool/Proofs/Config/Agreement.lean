import Mathlib.Order.Bounds.Basic
import SlotPool.Proofs.Config.RoundTrip
import SlotPool.Proofs.Crew.Failures
import SlotPool.Proofs.Pool.Growth

/-!
# Checked configurations and built blocks

A configuration is checked before anything is built.  The check rounds the larger of region and
slot down; the plan of a block rounds the region down and then widens it to one slot.  For all
sizes both come to the same, so a configuration passes exactly if blocks of it can be planned.

Main definitions:

- `Config.regions`: the whole numbers of slots that there is room for.
- `Config.Accepted` and `Config.Rejected`: what comes of a configuration that passes the check,
  and how one is reported that does not.

Main results:

- Theorems `Config.isGreatest_regionBytes` and `Block.isGreatest_regionFor`: both roundings give the
  largest of these regions.
- Theorem `Config.validate_eq_ok_iff_plan`: what passes the check can be planned.
- Theorem `Config.check_agrees_with_blocks`: all of this, for all sizes.
-/

namespace SlotPool

open Fresh

/-! ## Two ways to round -/

/-- Rounding down gives the largest multiple that there is room for. -/
theorem isGreatest_sub_mod (unit room : Nat) :
    IsGreatest {bytes | unit ∣ bytes ∧ bytes ≤ room} (room - room % unit) := by
  constructor
  · exact ⟨Nat.dvd_sub_mod room, Nat.sub_le _ _⟩
  · rintro bytes ⟨hdvd, hle⟩
    rcases hdvd with ⟨count, rfl⟩
    have hcount : unit * (unit * count / unit) ≤ unit * (room / unit) :=
      Nat.mul_le_mul_left unit (Nat.div_le_div_right hle)
    rw [← Nat.mul_div_self_eq_mod_sub_self]
    exact Nat.le_trans (Nat.le_of_eq (Nat.mul_div_cancel' ⟨count, rfl⟩).symm) hcount

/-- The region of a block is the largest whole number of slots that there is room for, where
there is always room for one slot. -/
theorem Block.isGreatest_regionFor (objectSize requested : Nat) :
    IsGreatest {bytes | objectSize ∣ bytes ∧ bytes ≤ max requested objectSize}
      (regionFor objectSize requested) := by
  rcases isGreatest_sub_mod objectSize requested with ⟨-, hgreatest⟩
  constructor
  · refine ⟨dvd_regionFor objectSize requested, ?_⟩
    unfold regionFor
    omega
  · rintro bytes ⟨hdvd, hle⟩
    by_cases hone : bytes ≤ objectSize
    · exact Nat.le_trans hone (le_regionFor objectSize requested)
    · have hfits : bytes ≤ requested := by
        omega
      exact Nat.le_trans (hgreatest ⟨hdvd, hfits⟩) (Nat.le_max_right _ _)

/-- Only the room for a region counts. -/
theorem Block.regionFor_congr {objectSize requested other : Nat}
    (hroom : max requested objectSize = max other objectSize) :
    regionFor objectSize requested = regionFor objectSize other := by
  have hgreatest := isGreatest_regionFor objectSize requested
  rw [hroom] at hgreatest
  exact hgreatest.unique (isGreatest_regionFor objectSize other)

theorem Block.plan_congr {objectSize requested other : Nat}
    (hroom : max requested objectSize = max other objectSize) :
    plan objectSize requested = plan objectSize other := by
  rw [plan, plan, regionFor_congr hroom]

theorem Block.create_congr {memory : Memory} {objectSize requested other : Nat}
    (hroom : max requested objectSize = max other objectSize) :
    create memory objectSize requested = create memory objectSize other := by
  rw [create, create, plan_congr hroom]

/-! ## Blocks that are built -/

section Blocks

variable {memory : Memory} {objectSize requested : Nat}

/-- Blocks are refused for their sizes exactly if they cannot be planned. -/
theorem Block.exists_plan_iff :
    (∃ regionBytes, plan objectSize requested = .ok regionBytes) ↔
      ∀ ids cause,
        ¬ (create memory objectSize requested).Gives ids (.error (.invalidConfig cause)) := by
  cases hplan : plan objectSize requested with
  | error cause =>
      have hrefused : (create memory objectSize requested).Gives []
          (.error (.invalidConfig cause)) := by
        simp only [create, hplan, gives_done_iff, and_self]
      constructor
      · rintro ⟨regionBytes, hok⟩
        contradiction
      · intro hnever
        exact absurd hrefused (hnever [] cause)
  | ok regionBytes =>
      constructor
      · intro _ ids cause hcreate
        rcases outOfMemory_of_create hplan hcreate with ⟨bytes, hfault⟩
        contradiction
      · intro _
        exact ⟨regionBytes, rfl⟩

/-- The system gives whatever can be asked for. -/
def Memory.Unbounded (memory : Memory) : Prop :=
  ∀ bytes ≤ largestReservation, memory.Always bytes

theorem Memory.unbounded_ample : ample.Unbounded :=
  fun _ => ample_always_iff.2

theorem Memory.Unbounded.part {part : Memory} (h : memory.Unbounded) (hpart : memory.Part part) :
    part.Unbounded :=
  fun bytes hbytes => (h bytes hbytes).part hpart

/-- All that is planned can be asked for. -/
theorem Block.reserve_eq_ok (hmemory : memory.Unbounded) {regionBytes : Nat}
    (hplan : plan objectSize requested = .ok regionBytes) :
    reserve memory objectSize regionBytes = .ok () := by
  have hregion : regionBytes < Memory.offsetLimit := (plan_eq_ok_iff.1 hplan).2.2
  have hslots : regionBytes / objectSize ≤ regionBytes := Nat.div_le_self _ _
  have hlimits : Memory.offsetLimit * Memory.offsetBytes ≤ Memory.largestReservation := by
    decide
  have hstack : regionBytes / objectSize * Memory.offsetBytes ≤ Memory.largestReservation := by
    simp only [Memory.offsetBytes] at hlimits ⊢
    omega
  have hbytes : regionBytes ≤ Memory.largestReservation := by
    simp only [Memory.offsetBytes] at hlimits
    omega
  exact reserve_eq_ok_iff.2 ⟨(hmemory _ hbytes).first.grants, (hmemory _ hstack).rest.grants⟩

end Blocks

namespace Config

variable {memory : Memory} {config : Config}

/-! ## The check -/

/-- The regions that hold a whole number of slots and no more bytes than were asked for, or than
one slot has. -/
def regions (config : Config) : Set Nat :=
  {bytes | config.objectSize ∣ bytes ∧ bytes ≤ max config.blockBytes config.objectSize}

theorem isGreatest_regionBytes (config : Config) :
    IsGreatest config.regions config.regionBytes :=
  isGreatest_sub_mod config.objectSize config.effectiveBlockBytes

theorem regionBytes_eq_regionFor (config : Config) :
    config.regionBytes = Block.regionFor config.objectSize config.blockBytes :=
  config.isGreatest_regionBytes.unique (Block.isGreatest_regionFor _ _)

theorem max_effectiveBlockBytes (config : Config) :
    max config.effectiveBlockBytes config.objectSize = max config.blockBytes config.objectSize := by
  unfold effectiveBlockBytes
  omega

/-- A configuration passes exactly if it has blocks and these can be planned. -/
theorem validate_eq_ok_iff_plan :
    config.validate = .ok () ↔
      0 < config.initialBlocks ∧
        ∃ regionBytes, Block.plan config.objectSize config.blockBytes = .ok regionBytes := by
  simp only [validate_eq_ok_iff, Block.plan_eq_ok_iff, regionBytes_eq_regionFor]
  constructor
  · rintro ⟨hpos, hblocks, hregion⟩
    exact ⟨hblocks, _, hpos, rfl, hregion⟩
  · rintro ⟨hblocks, regionBytes, hpos, rfl, hregion⟩
    exact ⟨hpos, hblocks, hregion⟩

/-! ## Pools that are built -/

/-- Blocks that are planned and granted are built, whatever identities they get. -/
theorem gives_createBlocks {objectSize blockBytes regionBytes : Nat}
    (hplan : Block.plan objectSize blockBytes = .ok regionBytes)
    (ids : List BlockId)
    (hreserve : ∀ number < ids.length,
      Block.reserve (memory.turn number) objectSize regionBytes = .ok ())
    (built : Array Block) :
    (Pool.createBlocks memory objectSize blockBytes ids.length built).Gives ids
      (.ok (built ++ (ids.map (Block.fresh · objectSize regionBytes)).toArray)) := by
  induction ids generalizing memory built with
  | nil => simp [Pool.createBlocks]
  | cons id ids ih =>
      have hfirst : Block.reserve memory.first objectSize regionBytes = .ok () :=
        hreserve 0 (Nat.succ_pos _)
      have hcreate : (Block.create memory.first objectSize blockBytes).Gives [id]
          (.ok (Block.fresh id objectSize regionBytes)) := by
        simp only [Block.create, hplan, hfirst, gives_draw_iff, gives_done_iff]
        exact ⟨id, [], rfl, rfl, rfl⟩
      have hrest (number : Nat) (hlt : number < ids.length) :
          Block.reserve (memory.rest.turn number) objectSize regionBytes = .ok () :=
        hreserve (number + 1) (Nat.succ_lt_succ hlt)
      have hothers := ih hrest (built.push (Block.fresh id objectSize regionBytes))
      have hblocks : built.push (Block.fresh id objectSize regionBytes) ++
          (ids.map (Block.fresh · objectSize regionBytes)).toArray =
            built ++ ((id :: ids).map (Block.fresh · objectSize regionBytes)).toArray := by
        apply Array.ext'
        simp
      rw [hblocks] at hothers
      exact gives_bind_iff.2 ⟨[id], ids, _, rfl, hcreate, hothers⟩

theorem buildable_of_unbounded (hmemory : memory.Unbounded) (hvalid : config.validate = .ok ())
    (hblocks : config.initialBlocks * Memory.blockHeaderBytes ≤ Memory.largestReservation) :
    Pool.Buildable memory config where
  valid := hvalid
  references := (hmemory _ hblocks).first.grants
  block number _ := Block.reserve_eq_ok (hmemory.part (Memory.Part.all.rest.turn number))
    (plan_eq_ok hvalid)

/-- A pool that can be built is built of as many blocks as its configuration says. -/
theorem gives_create_iff (hbuildable : Pool.Buildable memory config) {ids : List BlockId}
    {result : Except Fault Pool} :
    (Pool.create memory config).Gives ids result ↔
      ids.length = config.initialBlocks ∧ result = .ok (Pool.ofBlocks config
        (ids.map (Block.fresh · config.objectSize config.regionBytes)).toArray) := by
  constructor
  · intro hcreate
    rcases hbuildable.exists_of_create hcreate with ⟨pool, rfl⟩
    rcases Pool.eq_ofBlocks_of_create hcreate with ⟨-, hlength, rfl⟩
    exact ⟨hlength, rfl⟩
  · rintro ⟨hlength, rfl⟩
    have hblocks := hbuildable.block
    rw [← hlength] at hblocks
    have hbuilt := gives_createBlocks (plan_eq_ok hbuildable.valid) ids hblocks #[]
    have hreferences := Memory.reserve_eq_ok_iff.2 hbuildable.references
    rw [hlength, Array.empty_append] at hbuilt
    simp only [Pool.create, hbuildable.valid, hreferences]
    apply gives_bind_iff.2
    exact ⟨ids, [], _, (List.append_nil ids).symm, hbuilt, rfl, rfl⟩

/-! ## The main result -/

/-- What comes of a configuration that passes the check, if the system gives what is asked for when
pools of it are built. -/
structure Accepted (memory : Memory) (config : Config) : Prop where
  /-- Its pools are built of as many fresh blocks as it says, whatever identities these get. -/
  create : ∀ ids result, (Pool.create memory config).Gives ids result ↔
    ids.length = config.initialBlocks ∧ result = .ok (Pool.ofBlocks config
      (ids.map (Block.fresh · config.objectSize config.regionBytes)).toArray)
  isGreatest : IsGreatest config.regions config.regionBytes
  /-- All blocks that such a pool ever gets are of the same sizes, whatever the system gives. -/
  sized : ∀ later drawn events pool, Pool.Reached later config drawn events pool →
    ∀ block ∈ pool.blocks,
      block.objectSize = config.objectSize ∧ block.regionBytes = config.regionBytes

/-- How a configuration is reported that does not pass the check. -/
structure Rejected (config : Config) (cause : ConfigFault) : Prop where
  /-- No pool is built of it, and no block: no identity is drawn. -/
  create : ∀ memory, Pool.create memory config = .done (.error (.invalidConfig cause))
  /-- No document that describes it is accepted. -/
  described : ∀ library text, parseBy library text = .ok config →
    ofDocumentBy library text = .error cause
  /-- Such a document is made of its lines, in any order, where those may be missing whose defaults
  are its sizes. -/
  written : ∀ library : Toml.Library, library.Faithful →
    ∀ kept : List Toml.Assignment, kept.Subperm config.assignments →
      (∀ assignment ∈ kept, assignment.value ≤ Toml.numberLimit) →
        ⟨objectSizeKey, config.objectSize⟩ ∈ kept → config.keeping kept = config →
          ofDocumentBy library (Toml.documentOf kept) = .error cause
  /-- No worker is started with pools of it. -/
  crew : ∀ {S R : Type} memory check (shared : S) total threads (worker : PooledWorker S R)
    schedule first, computePooled memory check config shared total threads worker schedule first =
      .error (.pool (.invalidConfig cause))
  course : ∀ {S R : Type} memory (shared : S) total threads (use : PoolUse S R) first events,
    computePooledAlong? memory config shared total threads use first events =
      some (.error (.pool (.invalidConfig cause)))

theorem ofDocumentBy_eq_error {cause : ConfigFault} (hinvalid : config.validate = .error cause)
    {library : Toml.Library} {text : String} (hparse : parseBy library text = .ok config) :
    ofDocumentBy library text = .error cause := by
  rw [ofDocumentBy_of_parseBy hparse, hinvalid]

theorem rejected_of_validate {cause : ConfigFault} (hinvalid : config.validate = .error cause) :
    Rejected config cause where
  create memory := by
    simp only [Pool.create, hinvalid]
  described library text hparse := ofDocumentBy_eq_error hinvalid hparse
  written library hlibrary kept hkept hvalues hsize hdefaults := by
    have hparse := parseBy_kept hlibrary hvalues hkept hsize
    rw [hdefaults] at hparse
    exact ofDocumentBy_eq_error hinvalid hparse
  crew memory check shared total threads worker schedule first := by
    simp only [computePooled, hinvalid]
  course memory shared total threads use first events := by
    simp only [computePooledAlong?, hinvalid]

/-- The check of a configuration agrees with the blocks that can be built of its sizes. -/
theorem check_agrees_with_blocks (hmemory : memory.Unbounded) (config : Config) :
    (config.validate = .ok () ↔ 0 < config.initialBlocks ∧ ∀ ids cause,
      ¬ (Block.create memory config.objectSize config.blockBytes).Gives ids
        (.error (.invalidConfig cause))) ∧
    (Block.create memory config.objectSize config.blockBytes =
        Block.create memory config.objectSize config.effectiveBlockBytes ∧
      ∀ ids block, (Block.create memory config.objectSize config.blockBytes).Gives ids (.ok block) →
        IsGreatest config.regions block.regionBytes) ∧
    (config.validate = .ok () →
      config.initialBlocks * Memory.blockHeaderBytes ≤ Memory.largestReservation →
        Accepted memory config) ∧
    ∀ cause, config.validate = .error cause → Rejected config cause := by
  refine ⟨?_, ⟨?_, ?_⟩, ?_, fun cause hinvalid => rejected_of_validate hinvalid⟩
  · rw [validate_eq_ok_iff_plan, Block.exists_plan_iff]
  · exact Block.create_congr config.max_effectiveBlockBytes.symm
  · intro ids block hcreate
    rcases Block.create_cases hcreate with ⟨fault, -, hfault⟩ | ⟨id, regionBytes, -, hplan, hblock⟩
    · contradiction
    · rcases Except.ok.inj hblock with rfl
      rcases (Block.plan_eq_ok_iff.1 hplan).2.1 with rfl
      exact Block.isGreatest_regionFor config.objectSize config.blockBytes
  · intro hvalid hblocks
    have hbuildable := buildable_of_unbounded hmemory hvalid hblocks
    exact {
      create := fun ids result => gives_create_iff hbuildable
      isGreatest := config.isGreatest_regionBytes
      sized := fun later drawn events pool hreached => hreached.sound.sized }

/-- A region of twenty bytes is cut down to two slots of eight; one of more than four gibibytes
is refused, also when a document asks for it. -/
theorem check_agrees_with_blocks_rounded :
    Memory.ample.Unbounded ∧
      (∀ ids result, (Pool.create .ample ⟨8, 3, 20⟩).Gives ids result ↔ ids.length = 3 ∧
        result = .ok (Pool.ofBlocks ⟨8, 3, 20⟩ (ids.map (Block.fresh · 8 16)).toArray)) ∧
      Rejected ⟨8, 1, 0x100000007⟩ (.regionBeyondOffsets 0x100000000) ∧
      ofDocument "block_bytes = 4294967303\nobject_size = 8\ninitial_blocks = 1\n" =
        .error (.regionBeyondOffsets 0x100000000) := by
  have haccepted := (check_agrees_with_blocks Memory.unbounded_ample ⟨8, 3, 20⟩).2.2.1
    (by decide) (by decide)
  have hrejected := (check_agrees_with_blocks Memory.unbounded_ample ⟨8, 1, 0x100000007⟩).2.2.2
    (.regionBeyondOffsets 0x100000000) (by decide)
  have hdocument := hrejected.written .standard Toml.Library.faithful_standard
    [⟨blockBytesKey, 0x100000007⟩, ⟨objectSizeKey, 8⟩, ⟨initialBlocksKey, 1⟩]
    (by decide) (by decide) (by decide) (by decide)
  exact ⟨Memory.unbounded_ample, haccepted.create, hrejected, hdocument⟩

end Config

end SlotPool
