import SlotPool.Proofs.Objects

/-!
# Many users of one supply of identities

A fleet is a growing number of objects and of workers with private pools, all of which draw the
identities of their blocks from one supply.  Nothing is shared but this supply, so it is enough
to say who draws next: between two draws of one member any others may be built, asked, given up,
or draw themselves.  A worker goes on by single instructions, so that its pool can be looked at
between any two of them; by `Program.run_eq_advance` this is how its program runs.  A fleet
remembers who drew which identity, also for members that are gone.

Main definitions:

- `Fleet.Move`: one thing that happens in a fleet.
- `Fleet.run`: a fleet after some moves.
- `Fleet.Orderly`: what identities say about the members of a fleet.

Main results:

- Theorem `Fleet.Orderly.step`: every move keeps a fleet orderly.
- Theorem `Fleet.blocks_never_confused`: identities are never used twice, and no member ever
  accepts an address of another one's block.
-/

namespace SlotPool

open Fresh Session

/-- What a member of a fleet has while it is not in the middle of something. -/
inductive Holding : Type 1 where
  /-- Nothing could be built, or it was given up. -/
  | nothing
  | item (object : Object)
  /-- A private pool, and what its worker has still to do. -/
  | worker {α : Type} (program : Program α) (pool : Pool)

namespace Holding

/-- The object that a member has, a worker having its pool. -/
def object? : Holding → Option Object
  | nothing => none
  | item object => some object
  | worker _ pool => some (.pool pool)

/-- The outcome of a construction. -/
def ofBuilt : Except Fault Object → Holding
  | .ok object => item object
  | .error _ => nothing

/-- The start of a worker whose pool was built, or not. -/
def ofHired {α : Type} (program : Program α) : Except Fault Pool → Holding
  | .ok pool => worker program pool
  | .error _ => nothing

/-- What is left of an object after a request. -/
def ofLeft : Option Object → Holding
  | some object => item object
  | none => nothing

/-- Asks something of an object. -/
def ask (memory : Memory) (plain : FreeCheck) (request : Request Address) :
    Holding → Fresh Holding
  | item object => (object.answer memory plain request).bind fun outcome =>
      .done (ofLeft outcome.object)
  | holding => .done holding

/-- Lets a worker carry out one instruction; one that has none left gives its pool up. -/
def work (memory : Memory) (check : FreeCheck) : Holding → Fresh Holding
  | worker (.done _) _ => .done nothing
  | worker .crash _ => .done nothing
  | worker program pool => (program.advance memory check pool).bind fun (rest, pool) =>
      .done (worker rest pool)
  | holding => .done holding

end Holding

/-- Objects and workers that draw from one supply. -/
structure Fleet : Type 1 where
  /-- What every member has, or what it is in the middle of. -/
  members : Crew Holding
  /-- The rank of the next identity. -/
  next : Nat
  /-- All identities drawn, in order, each with the number of the member that drew it. -/
  drawn : List (Nat × BlockId)

namespace Fleet

/-- One thing that happens in a fleet. -/
inductive Move : Type 1 where
  /-- A new member begins to build an object. -/
  | build (memory : Memory) (construction : Construction)
  /-- A new member begins to build a private pool for its work. -/
  | employ {S R : Type} (memory : Memory) (config : Config) (worker : PooledWorker S R)
    (params : TaskParams S)
  /-- An object is asked something, or given up. -/
  | ask (number : Nat) (memory : Memory) (plain : FreeCheck) (request : Request Address)
  /-- A worker goes on. -/
  | work (number : Nat) (memory : Memory) (check : FreeCheck)
  /-- A member that is in the middle of something draws the next identity. -/
  | draw (number : Nat)

/-- A fleet without members, none of whose identities was drawn. -/
def start : Fleet where
  members := []
  next := 1
  drawn := []

/-- One more member begins something. -/
def enroll (fleet : Fleet) (member : Fresh Holding) : Fleet :=
  { fleet with members := fleet.members ++ [member] }

/-- A member that is not in the middle of something begins something. -/
def begin (fleet : Fleet) (number : Nat) (next : Holding → Fresh Holding) : Fleet :=
  match fleet.members[number]? with
  | some (.done holding) => { fleet with members := fleet.members.set number (next holding) }
  | _ => fleet

/-- A member that is in the middle of something draws the next identity. -/
def draw (fleet : Fleet) (number : Nat) : Fleet :=
  match fleet.members[number]? with
  | some (.draw _) => {
      members := (fleet.members.step number fleet.next).1
      next := (fleet.members.step number fleet.next).2
      drawn := fleet.drawn ++ [(number, ⟨fleet.next⟩)] }
  | _ => fleet

/-- A fleet after one move.  Nothing happens if the member is not there, or not ready for it. -/
def step (fleet : Fleet) : Move → Fleet
  | .build memory construction =>
    fleet.enroll ((construction.build memory).bind fun built => .done (.ofBuilt built))
  | .employ memory config worker params =>
    fleet.enroll ((Pool.create memory config).bind fun built =>
      .done (.ofHired (worker params) built))
  | .ask number memory plain request => fleet.begin number (Holding.ask memory plain request)
  | .work number memory check => fleet.begin number (Holding.work memory check)
  | .draw number => fleet.draw number

/-- A fleet after some moves. -/
def run (fleet : Fleet) (moves : List Move) : Fleet :=
  moves.foldl step fleet

/-- The object of a member, if it has one and is not in the middle of something. -/
def object? (fleet : Fleet) (number : Nat) : Option Object :=
  match fleet.members[number]? with
  | some (.done holding) => holding.object?
  | _ => none

/-- The identities drawn by one member, in order. -/
def idsOf (fleet : Fleet) (number : Nat) : List BlockId :=
  (fleet.drawn.filter (·.1 = number)).map (·.2)

variable {fleet : Fleet} {number : Nat} {ids : List BlockId} {member : Fresh Holding}

/-! ## What members owe -/

/-- Whatever object a member will have when it is done, the blocks of that object are those of the
identities that the member has drawn and of the ones that it is still to draw. -/
def Owes (ids : List BlockId) (member : Fresh Holding) : Prop :=
  ∀ more holding object, member.Gives more holding → holding.object? = some object →
    object.ids = ids ++ more

theorem owes_done_iff {holding : Holding} :
    Owes ids (done holding) ↔ ∀ object, holding.object? = some object → object.ids = ids := by
  constructor
  · intro howes object hobject
    rw [howes [] holding object ⟨rfl, rfl⟩ hobject, List.append_nil]
  · rintro hids more _ object ⟨rfl, rfl⟩ hobject
    rw [hids object hobject, List.append_nil]

/-- An identity is owed until it is drawn. -/
theorem Owes.draw {next : BlockId → Fresh Holding} (howes : Owes ids (.draw next)) (id : BlockId) :
    Owes (ids ++ [id]) (next id) := by
  intro more holding object hgives hobject
  rw [List.append_assoc]
  exact howes (id :: more) holding object hgives hobject

theorem owes_build (memory : Memory) (construction : Construction) :
    Owes [] ((construction.build memory).bind fun built => .done (.ofBuilt built)) := by
  intro more holding object hgives hobject
  rcases gives_bind_iff.1 hgives with ⟨own, rest, built, rfl, hbuild, rfl, rfl⟩
  cases built with
  | error fault => contradiction
  | ok object' =>
      rcases Option.some.inj hobject with rfl
      rw [List.append_nil]
      exact Construction.ids_of_build hbuild

theorem owes_employ {α : Type} (memory : Memory) (config : Config) (program : Program α) :
    Owes [] ((Pool.create memory config).bind fun built => .done (.ofHired program built)) := by
  intro more holding object hgives hobject
  rcases gives_bind_iff.1 hgives with ⟨own, rest, built, rfl, hcreate, rfl, rfl⟩
  cases built with
  | error fault => contradiction
  | ok pool =>
      rcases Option.some.inj hobject with rfl
      rw [List.append_nil]
      exact Pool.ids_of_create hcreate

theorem Owes.ask {holding : Holding} (howes : Owes ids (done holding)) (memory : Memory)
    (plain : FreeCheck) (request : Request Address) :
    Owes ids (holding.ask memory plain request) := by
  cases holding with
  | nothing => exact howes
  | worker program pool => exact howes
  | item object =>
      have hids := owes_done_iff.1 howes object rfl
      intro more holding after hgives hafter
      rcases gives_bind_iff.1 hgives with ⟨own, rest, outcome, rfl, hanswer, rfl, rfl⟩
      cases hleft : outcome.object with
      | none =>
          rw [hleft] at hafter
          contradiction
      | some left =>
          rw [hleft] at hafter
          rcases Option.some.inj hafter with rfl
          rw [List.append_nil, Object.ids_of_answer hanswer hleft, hids]

theorem Owes.work {holding : Holding} (howes : Owes ids (done holding)) (memory : Memory)
    (check : FreeCheck) : Owes ids (holding.work memory check) := by
  have hadvance : ∀ {α : Type} (program : Program α) (pool : Pool), pool.ids = ids →
      Owes ids ((program.advance memory check pool).bind fun (rest, pool) =>
        .done (.worker rest pool)) := by
    intro α program pool hids more holding object hgives hobject
    rcases gives_bind_iff.1 hgives with ⟨own, none, ⟨rest, after⟩, rfl, hadvance, rfl, rfl⟩
    rcases Option.some.inj hobject with rfl
    rw [List.append_nil, ← hids]
    exact Program.ids_of_advance hadvance
  cases holding with
  | nothing => exact howes
  | item object => exact howes
  | worker program pool =>
      have hids : pool.ids = ids := owes_done_iff.1 howes (.pool pool) rfl
      cases program with
      | done value => exact owes_done_iff.2 fun object hobject => nomatch hobject
      | crash => exact owes_done_iff.2 fun object hobject => nomatch hobject
      | allocate next => exact hadvance (.allocate next) pool hids
      | free place next => exact hadvance (.free place next) pool hids
      | write place bytes next => exact hadvance (.write place bytes next) pool hids
      | reclaim next => exact hadvance (.reclaim next) pool hids

/-! ## Order -/

/-- Ranks only go up along the identities drawn, and every member has drawn all but what it owes. -/
structure Orderly (fleet : Fleet) : Prop where
  ascending : Ascending (fleet.drawn.map Prod.snd)
  drawn_lt : ∀ entry ∈ fleet.drawn, entry.2.number < fleet.next
  known : ∀ entry ∈ fleet.drawn, entry.1 < fleet.members.length
  owes : ∀ number member, fleet.members[number]? = some member → Owes (fleet.idsOf number) member

namespace Orderly

theorem start : Orderly start := by
  refine ⟨List.Pairwise.nil, ?_, ?_, ?_⟩
  · intro entry hmem
    exact absurd hmem List.not_mem_nil
  · intro entry hmem
    exact absurd hmem List.not_mem_nil
  · intro number member hmember
    exact absurd hmember (by simp [Fleet.start])

theorem enroll (h : Orderly fleet) (howes : Owes [] member) : Orderly (fleet.enroll member) := by
  refine ⟨h.ascending, h.drawn_lt, ?_, ?_⟩
  · intro entry hmem
    have hlt := h.known entry hmem
    simp only [Fleet.enroll, List.length_append, List.length_singleton]
    omega
  · intro number other hother
    simp only [Fleet.enroll] at hother
    rcases Nat.lt_trichotomy number fleet.members.length with hlt | rfl | hgt
    · rw [List.getElem?_append_left hlt] at hother
      exact h.owes number other hother
    · have hnone : fleet.idsOf fleet.members.length = [] := by
        simp only [idsOf, List.map_eq_nil_iff, List.filter_eq_nil_iff, decide_eq_true_eq]
        intro entry hmem
        exact Nat.ne_of_lt (h.known entry hmem)
      rw [List.getElem?_concat_length] at hother
      rcases Option.some.inj hother with rfl
      exact hnone ▸ howes
    · have hlength : (fleet.members ++ [member]).length ≤ number := by
        rw [List.length_append, List.length_singleton]
        exact hgt
      rw [List.getElem?_eq_none hlength] at hother
      contradiction

/-- A member that begins something owes what it did before. -/
theorem begin (h : Orderly fleet) {next : Holding → Fresh Holding}
    (hnext : ∀ ids holding, Owes ids (done holding) → Owes ids (next holding)) :
    Orderly (fleet.begin number next) := by
  unfold Fleet.begin
  split
  · next holding hholding =>
      refine ⟨h.ascending, h.drawn_lt, ?_, ?_⟩
      · intro entry hmem
        rw [List.length_set]
        exact h.known entry hmem
      · intro other member hmember
        rw [List.getElem?_set] at hmember
        split at hmember
        · next heq =>
            split at hmember
            · rcases Option.some.inj hmember with rfl
              subst heq
              exact hnext _ holding (h.owes number _ hholding)
            · contradiction
        · exact h.owes other member hmember
  · exact h

/-- A draw is one identity more for the member that draws, and nothing for the others. -/
theorem draw (h : Orderly fleet) : Orderly (fleet.draw number) := by
  unfold Fleet.draw
  split
  · next next hnext =>
      have hstep : fleet.members.step number fleet.next =
          (fleet.members.set number (next ⟨fleet.next⟩), fleet.next + 1) := by
        simp only [Crew.step, hnext]
      rw [hstep]
      refine ⟨?_, ?_, ?_, ?_⟩
      · rw [List.map_append, ascending_append_iff]
        refine ⟨h.ascending, List.pairwise_singleton _ _, ?_⟩
        intro id hid later hlater
        rcases List.mem_map.1 hid with ⟨entry, hentry, rfl⟩
        rcases List.mem_singleton.1 hlater with rfl
        exact h.drawn_lt entry hentry
      · intro entry hentry
        rcases List.mem_append.1 hentry with hold | hnew
        · exact Nat.lt_succ_of_lt (h.drawn_lt entry hold)
        · rcases List.mem_singleton.1 hnew with rfl
          exact Nat.lt_succ_self _
      · intro entry hentry
        rw [List.length_set]
        rcases List.mem_append.1 hentry with hold | hnew
        · exact h.known entry hold
        · rcases List.mem_singleton.1 hnew with rfl
          exact (List.getElem?_eq_some_iff.1 hnext).1
      · intro other member hmember
        simp only [idsOf, List.filter_append, List.map_append]
        rw [List.getElem?_set] at hmember
        split at hmember
        · next heq =>
            split at hmember
            · rcases Option.some.inj hmember with rfl
              subst heq
              simpa [idsOf] using (h.owes number _ hnext).draw ⟨fleet.next⟩
            · contradiction
        · next hne =>
            simpa [hne, idsOf] using h.owes other member hmember
  · exact h

/-- Every move keeps a fleet orderly. -/
theorem step (h : Orderly fleet) (move : Move) : Orderly (fleet.step move) := by
  cases move with
  | build memory construction => exact h.enroll (owes_build memory construction)
  | employ memory config worker params => exact h.enroll (owes_employ memory config (worker params))
  | ask number memory plain request =>
      exact h.begin fun ids holding howes => howes.ask memory plain request
  | work number memory check => exact h.begin fun ids holding howes => howes.work memory check
  | draw number => exact h.draw

theorem run (h : Orderly fleet) (moves : List Move) : Orderly (fleet.run moves) := by
  induction moves generalizing fleet with
  | nil => exact h
  | cons move moves ih => exact ih (h.step move)

/-- The blocks of an object are those of the identities that its member drew. -/
theorem ids_eq (h : Orderly fleet) {object : Object}
    (hobject : fleet.object? number = some object) :
    object.ids = fleet.idsOf number := by
  unfold object? at hobject
  split at hobject
  · next holding hmember => exact owes_done_iff.1 (h.owes number _ hmember) object hobject
  · contradiction

/-- What one member drew no other member drew. -/
theorem number_unique (h : Orderly fleet) {first second : Nat} {id : BlockId}
    (hfirst : (first, id) ∈ fleet.drawn) (hsecond : (second, id) ∈ fleet.drawn) :
    first = second := by
  have hinj := List.inj_on_of_nodup_map h.ascending.nodup hfirst hsecond rfl
  exact congrArg Prod.fst hinj

end Orderly

/-! ## Confusion -/

/-- What was drawn is remembered. -/
theorem drawn_subset_run (fleet : Fleet) (moves : List Move) :
    fleet.drawn ⊆ (fleet.run moves).drawn := by
  induction moves generalizing fleet with
  | nil => exact List.Subset.refl _
  | cons move moves ih =>
      apply List.Subset.trans _ (ih (fleet.step move))
      cases move with
      | build memory construction => exact List.Subset.refl _
      | employ memory config worker params => exact List.Subset.refl _
      | ask number memory plain request =>
          simp only [step, begin]
          split <;> exact List.Subset.refl _
      | work number memory check =>
          simp only [step, begin]
          split <;> exact List.Subset.refl _
      | draw number =>
          simp only [step, draw]
          split
          · exact List.subset_append_left _ _
          · exact List.Subset.refl _

/-- However objects are built, used and given up side by side, no identity is drawn twice; the
blocks of an object have exactly the identities drawn for it, in the order of their creation; a
block that cannot be built draws none; and what was drawn for one member names nothing that any
other member has, then or later. -/
theorem blocks_never_confused (moves : List Move) :
    ((start.run moves).drawn.map Prod.snd).Nodup ∧
    (∀ number object, (start.run moves).object? number = some object →
      object.ids = (start.run moves).idsOf number ∧ Ascending object.ids) ∧
    (∀ memory objectSize requested ids fault,
      (Block.create memory objectSize requested).Gives ids (.error fault) → ids = []) ∧
    (∀ later number other object address, (number, address.block) ∈ (start.run moves).drawn →
      other ≠ number → ((start.run moves).run later).object? other = some object →
      object.Refuses address) := by
  have horderly := Orderly.start.run moves
  refine ⟨horderly.ascending.nodup, ?_, ?_, ?_⟩
  · intro number object hobject
    have hids := horderly.ids_eq hobject
    refine ⟨hids, ?_⟩
    rw [hids]
    exact horderly.ascending.sublist (List.filter_sublist.map Prod.snd)
  · intro memory objectSize requested ids fault hcreate
    rcases Block.create_cases hcreate with ⟨_, rfl, -⟩ | ⟨id, bytes, -, -, hresult⟩
    · rfl
    · contradiction
  · intro later number other object address hdrawn hne hobject
    have hlater := horderly.run later
    apply Object.refuses_of_not_mem
    intro hmem
    rw [hlater.ids_eq hobject, idsOf] at hmem
    rcases List.mem_map.1 hmem with ⟨⟨owner, id⟩, hentry, rfl⟩
    rcases List.mem_filter.1 hentry with ⟨hentry, howner⟩
    apply hne
    rw [← of_decide_eq_true howner]
    exact hlater.number_unique hentry (drawn_subset_run _ later hdrawn)

/-- A pool needs a second block, and while it waits for the identity another member draws one;
then the pool is given up. -/
def interruptedGrowth : List Move :=
  [.build .ample (.pool ⟨8, 1, 16⟩), .draw 0, .ask 0 .ample .quick (.allocate 3 []),
    .build .ample (.block 8 16), .draw 1, .draw 0, .ask 0 .ample .quick .drop]

/-- Another pool that is built later refuses an address of the second block of that pool. -/
theorem blocks_never_confused_interruptedGrowth :
    (start.run interruptedGrowth).drawn = [(0, ⟨1⟩), (1, ⟨2⟩), (0, ⟨3⟩)] ∧
    (start.run interruptedGrowth).object? 0 = none ∧
    ∃ object, ((start.run interruptedGrowth).run
        [.build .ample (.pool ⟨8, 1, 8⟩), .draw 2]).object? 2 = some object ∧
      object.ids = [⟨4⟩] ∧ object.Refuses ⟨⟨3⟩, 0⟩ := by
  have hdrawn : (start.run interruptedGrowth).drawn = [(0, ⟨1⟩), (1, ⟨2⟩), (0, ⟨3⟩)] := by
    with_unfolding_all rfl
  have hgone : (start.run interruptedGrowth).object? 0 = none := by
    with_unfolding_all rfl
  have hobject : ((start.run interruptedGrowth).run
      [.build .ample (.pool ⟨8, 1, 8⟩), .draw 2]).object? 2 =
        some (.pool (.ofBlocks ⟨8, 1, 8⟩ #[.fresh ⟨4⟩ 8 8])) := by
    with_unfolding_all rfl
  refine ⟨hdrawn, hgone, _, hobject, rfl, ?_⟩
  apply (blocks_never_confused interruptedGrowth).2.2.2 _ 0 2 _ ⟨⟨3⟩, 0⟩ _ (by decide) hobject
  rw [hdrawn]
  decide

end Fleet

end SlotPool
