import SlotPool.Crew
import SlotPool.Proofs.Draws

/-!
# Courses of events among threads

A schedule says which thread of a crew draws next.  Here it is also said when threads come to
their ends, which they may do in any order and between any two draws of others, and how they are
joined: one after another in the order of their numbers, each join waiting for its thread and
giving what came of it.  What all joins give together does not depend on who ended before whom; it
is what the crew gives under the schedule of its draws alone.

Main definitions:

- `Shift`: threads at work, some of which may have ended.
- `Shift.run`: a shift after some events.
- `Shift.joinAll?`: what joining all threads gives.

Main results:

- Theorem `Crew.gives_run`: under every schedule each thread gives a value that it can give with
  identities of its own.
- Theorem `Shift.joinAll?_eq_run`: joining all threads gives what the crew gives under a schedule.
- Theorem `Shift.exists_joinAll?`: every course of events can be brought to its end.
-/

namespace SlotPool

open Fresh

universe u

variable {α : Type u}

/-! ## Threads under a schedule -/

namespace Crew

variable {threads crew : Crew α} {thread first next : Nat}

theorem step_draw {rest : BlockId → Fresh α} (hthread : crew[thread]? = some (.draw rest)) :
    crew.step thread first = (crew.set thread (rest ⟨first⟩), first + 1) := by
  simp only [step, hthread]

theorem step_done {value : α} (hthread : crew[thread]? = some (.done value)) :
    crew.step thread first = (crew, first) := by
  simp only [step, hthread]

@[simp]
theorem length_step (crew : Crew α) (thread first : Nat) :
    (crew.step thread first).1.length = crew.length := by
  unfold step
  split <;> simp

theorem follow_cons (crew : Crew α) (thread : Nat) (schedule : List Nat) (first : Nat) :
    crew.follow (thread :: schedule) first =
      (crew.step thread first).1.follow schedule (crew.step thread first).2 :=
  rfl

@[simp]
theorem length_follow (crew : Crew α) (schedule : List Nat) (first : Nat) :
    (crew.follow schedule first).1.length = crew.length := by
  induction schedule generalizing crew first with
  | nil => rfl
  | cons thread schedule ih => rw [follow_cons, ih, length_step]

theorem follow_append (crew : Crew α) (schedule more : List Nat) (first : Nat) :
    crew.follow (schedule ++ more) first =
      (crew.follow schedule first).1.follow more (crew.follow schedule first).2 := by
  induction schedule generalizing crew first with
  | nil => rfl
  | cons thread schedule ih => rw [List.cons_append, follow_cons, follow_cons, ih]

theorem finish_cons (thread : Fresh α) (crew : Crew α) (first : Nat) :
    finish (thread :: crew) first =
      ((thread.runFrom first).1 :: (finish crew (thread.runFrom first).2).1,
        (finish crew (thread.runFrom first).2).2) :=
  rfl

@[simp]
theorem length_finish (crew : Crew α) (first : Nat) :
    (crew.finish first).1.length = crew.length := by
  induction crew generalizing first with
  | nil => rfl
  | cons thread crew ih => rw [finish_cons, List.length_cons, ih, List.length_cons]

theorem run_eq (crew : Crew α) (schedule : List Nat) (first : Nat) :
    crew.run schedule first =
      (crew.follow schedule first).1.finish (crew.follow schedule first).2 :=
  rfl

@[simp]
theorem length_run (crew : Crew α) (schedule : List Nat) (first : Nat) :
    (crew.run schedule first).1.length = crew.length := by
  rw [run, length_finish, length_follow]

/-- Threads that have ended have nothing left to do. -/
theorem finish_done (values : List α) (first : Nat) :
    finish (values.map .done) first = (values, first) := by
  induction values with
  | nil => rfl
  | cons value values ih => rw [List.map_cons, finish_cons, runFrom_done, ih]

/-- The threads left to do, each of which goes on after identities that were drawn before the rank
`next`. -/
def Continues (threads crew : Crew α) (next : Nat) : Prop :=
  ∀ (number : Nat) (thread : Fresh α), threads[number]? = some thread →
    ∃ rest ids, crew[number]? = some rest ∧ Ascending ids ∧ (∀ id ∈ ids, id.number < next) ∧
      ∀ more value, rest.Gives more value → thread.Gives (ids ++ more) value

theorem continues_refl (crew : Crew α) (first : Nat) : Continues crew crew first := by
  intro number thread hthread
  refine ⟨thread, [], hthread, List.Pairwise.nil, ?_, fun _ _ hgives => hgives⟩
  intro id hmem
  exact absurd hmem List.not_mem_nil

/-- Whoever draws goes on with one identity more, and the others go on as before. -/
theorem Continues.step (h : Continues threads crew next) (thread : Nat) :
    Continues threads (crew.step thread next).1 (crew.step thread next).2 := by
  cases hthread : crew[thread]? with
  | none => simpa only [Crew.step, hthread] using h
  | some drawing =>
      cases drawing with
      | done value => simpa only [step_done hthread] using h
      | draw goOn =>
          rw [step_draw hthread]
          intro number origin horigin
          rcases h number origin horigin with ⟨rest, ids, hrest, hascending, hlt, hgives⟩
          by_cases hnumber : number = thread
          · subst hnumber
            rcases Option.some.inj (hrest.symm.trans hthread) with rfl
            refine ⟨goOn ⟨next⟩, ids ++ [⟨next⟩], ?_, ?_, ?_, ?_⟩
            · exact List.getElem?_set_self (List.getElem?_eq_some_iff.1 hthread).1
            · refine ascending_append_iff.2 ⟨hascending, List.pairwise_singleton _ _, ?_⟩
              intro id hid later hlater
              rcases List.mem_singleton.1 hlater with rfl
              exact hlt id hid
            · intro id hid
              rcases List.mem_append.1 hid with hold | hnew
              · exact Nat.lt_succ_of_lt (hlt id hold)
              · rcases List.mem_singleton.1 hnew with rfl
                exact Nat.lt_succ_self _
            · intro more value hmore
              rw [List.append_assoc]
              exact hgives (⟨next⟩ :: more) value hmore
          · refine ⟨rest, ids, ?_, hascending, ?_, hgives⟩
            · rw [List.getElem?_set_ne (Ne.symm hnumber)]
              exact hrest
            · intro id hid
              exact Nat.lt_succ_of_lt (hlt id hid)

theorem Continues.follow (h : Continues threads crew next) (schedule : List Nat) :
    Continues threads (crew.follow schedule next).1 (crew.follow schedule next).2 := by
  induction schedule generalizing crew next with
  | nil => exact h
  | cons thread schedule ih => exact ih (h.step thread)

/-- Every thread that runs to its end runs on its own from some rank on. -/
theorem getElem?_finish {number : Nat} {rest : Fresh α} (hrest : crew[number]? = some rest)
    (first : Nat) :
    ∃ start, first ≤ start ∧ (crew.finish first).1[number]? = some (rest.runFrom start).1 := by
  induction crew generalizing number first with
  | nil => simp at hrest
  | cons thread crew ih =>
      rw [finish_cons]
      cases number with
      | zero =>
          rcases Option.some.inj hrest with rfl
          exact ⟨first, Nat.le_refl first, rfl⟩
      | succ number =>
          rcases ih hrest (thread.runFrom first).2 with ⟨start, hle, hvalue⟩
          exact ⟨start, Nat.le_trans (le_runFrom thread first) hle, hvalue⟩

/-- Under every schedule each thread gives a value that it can give with identities of its own. -/
theorem gives_run (schedule : List Nat) {number : Nat} {thread : Fresh α}
    (hthread : threads[number]? = some thread) :
    ∃ ids value, (threads.run schedule first).1[number]? = some value ∧ Ascending ids ∧
      thread.Gives ids value := by
  have hcontinues := (continues_refl threads first).follow schedule
  rcases hcontinues number thread hthread with ⟨rest, ids, hrest, hascending, hlt, hgives⟩
  rcases getElem?_finish hrest (threads.follow schedule first).2 with
    ⟨start, hle, hvalue⟩
  refine ⟨_, _, hvalue, ?_, hgives _ _ (gives_runFrom rest start)⟩
  -- What a thread draws at the end comes after all that was drawn under the schedule.
  refine ascending_append_iff.2 ⟨hascending, ascending_range' start _, ?_⟩
  intro id hid later hlater
  rcases List.mem_map.1 hlater with ⟨rank, hrank, rfl⟩
  have hrank := (List.mem_range'_1.1 hrank).1
  have hlt := hlt id hid
  simp only
  omega

/-- A thread can draw one identity after another until it has ended. -/
theorem exists_follow_runFrom (before after : Crew α) (thread : Fresh α) (first : Nat) :
    ∃ schedule, follow (before ++ thread :: after) schedule first =
      (before ++ .done (thread.runFrom first).1 :: after, (thread.runFrom first).2) := by
  induction thread generalizing first with
  | done value => exact ⟨[], rfl⟩
  | draw next ih =>
      rcases ih ⟨first⟩ (first + 1) with ⟨schedule, hschedule⟩
      refine ⟨before.length :: schedule, ?_⟩
      have hthread : (before ++ .draw next :: after)[before.length]? = some (.draw next) := by simp
      rw [follow_cons, step_draw hthread, List.set_append_right _ _ (Nat.le_refl _)]
      simpa using hschedule

/-- A schedule can let all threads run to their ends, one after another. -/
theorem exists_follow_finish (before crew : Crew α) (first : Nat) :
    ∃ schedule, follow (before ++ crew) schedule first =
      (before ++ (crew.finish first).1.map .done, (crew.finish first).2) := by
  induction crew generalizing before first with
  | nil => exact ⟨[], rfl⟩
  | cons thread crew ih =>
      rcases exists_follow_runFrom before crew thread first with
        ⟨own, hown⟩
      rcases ih (before ++ [.done (thread.runFrom first).1]) (thread.runFrom first).2 with
        ⟨others, hothers⟩
      refine ⟨own ++ others, ?_⟩
      rw [follow_append, hown]
      simpa [finish_cons] using hothers

end Crew

/-! ## Shifts -/

/-- Threads at work, some of which may have ended. -/
structure Shift (α : Type u) where
  /-- What each thread has still to do. -/
  crew : Crew α
  /-- The rank of the next identity. -/
  next : Nat
  /-- The threads that have ended, in the order in which they did, and what came of them. -/
  ended : List (Nat × α)

namespace Shift

/-- One thing that happens on a shift. -/
inductive Event where
  /-- A thread draws the next identity. -/
  | draw (thread : Nat)
  /-- A thread with nothing left to draw comes to its end. -/
  | finish (thread : Nat)
deriving DecidableEq

/-- The threads of a crew before anything has happened. -/
def start (crew : Crew α) (first : Nat) : Shift α where
  crew := crew
  next := first
  ended := []

/-- What joining a thread gives, once the thread has ended. -/
def join? (shift : Shift α) (thread : Nat) : Option α :=
  shift.ended.lookup thread

/-- A shift after one event.  Nothing happens if the thread is not there, or not ready for it. -/
def step (shift : Shift α) : Event → Shift α
  | .draw thread =>
    { shift with
      crew := (shift.crew.step thread shift.next).1
      next := (shift.crew.step thread shift.next).2 }
  | .finish thread =>
    match shift.crew[thread]?, shift.join? thread with
    | some (.done value), none => { shift with ended := shift.ended ++ [(thread, value)] }
    | _, _ => shift

/-- A shift after some events. -/
def run (shift : Shift α) (events : List Event) : Shift α :=
  events.foldl step shift

/-- Joins all threads in the order of their numbers; nothing is given while one is at work. -/
def joinAll? (shift : Shift α) : Option (List α) :=
  (List.range shift.crew.length).mapM shift.join?

/-- The threads that drew, in the order in which they did. -/
def draws (events : List Event) : List Nat :=
  events.filterMap fun
    | .draw thread => some thread
    | .finish _ => none

variable {shift : Shift α} {events : List Event} {first : Nat}

theorem run_append (shift : Shift α) (events more : List Event) :
    shift.run (events ++ more) = (shift.run events).run more :=
  List.foldl_append

theorem draws_append (events more : List Event) :
    draws (events ++ more) = draws events ++ draws more :=
  List.filterMap_append

@[simp]
theorem draws_map_draw (schedule : List Nat) : draws (schedule.map .draw) = schedule := by
  simp [draws, List.filterMap_map]

theorem crew_finish (shift : Shift α) (thread : Nat) :
    (shift.step (.finish thread)).crew = shift.crew ∧
      (shift.step (.finish thread)).next = shift.next := by
  simp only [step]
  split <;> exact ⟨rfl, rfl⟩

/-- What threads have still to do depends on their draws alone. -/
theorem crew_run (shift : Shift α) (events : List Event) :
    ((shift.run events).crew, (shift.run events).next) =
      shift.crew.follow (draws events) shift.next := by
  induction events generalizing shift with
  | nil => rfl
  | cons event events ih =>
      rw [run, List.foldl_cons, ← run, ih]
      cases event with
      | draw thread => rfl
      | finish thread =>
          rw [(shift.crew_finish thread).1, (shift.crew_finish thread).2]
          rfl

@[simp]
theorem length_crew_run (shift : Shift α) (events : List Event) :
    (shift.run events).crew.length = shift.crew.length := by
  have hcrew : (shift.run events).crew = (shift.crew.follow (draws events) shift.next).1 :=
    congrArg Prod.fst (shift.crew_run events)
  rw [hcrew, Crew.length_follow]

theorem crew_run_finish (shift : Shift α) (order : List Nat) :
    (shift.run (order.map .finish)).crew = shift.crew := by
  induction order generalizing shift with
  | nil => rfl
  | cons thread order ih =>
      rw [List.map_cons, run, List.foldl_cons, ← run, ih, (shift.crew_finish thread).1]

/-! ## Ends -/

/-- Threads that have ended have nothing left to do, and what came of them is their value. -/
def Settled (shift : Shift α) : Prop :=
  ∀ thread value, shift.join? thread = some value → shift.crew[thread]? = some (.done value)

theorem settled_start (crew : Crew α) (first : Nat) : (start crew first).Settled := by
  intro thread value hjoin
  simp [join?, start] at hjoin

/-- What joining threads gives after one more of them has ended. -/
theorem join?_finish (shift : Shift α) (thread other : Nat) :
    (shift.step (.finish thread)).join? other =
      (shift.join? other).or
        (match shift.crew[thread]? with
          | some (.done value) => if other = thread then some value else none
          | _ => none) := by
  simp only [step]
  split
  · next value hvalue hnone =>
      by_cases hother : other = thread
      · subst hother
        have hlookup : shift.ended.lookup other = none := hnone
        simp [join?, List.lookup_append, hlookup, hvalue]
      · have hdistinct : (other == thread) = false := by simpa using hother
        simp [join?, List.lookup_append, List.lookup_cons, hdistinct, hvalue, hother]
  · next hready =>
      cases hvalue : shift.crew[thread]? with
      | none => simp
      | some rest =>
          cases rest with
          | draw next => simp
          | done value =>
              by_cases hother : other = thread
              · subst hother
                cases hjoin : shift.join? other with
                | none => exact absurd hjoin (hready value hvalue)
                | some old => rfl
              · simp [hother]

theorem Settled.step (h : shift.Settled) (event : Event) : (shift.step event).Settled := by
  intro thread value hjoin
  cases event with
  | draw drawing =>
      have hdone := h thread value hjoin
      cases hdrawing : shift.crew[drawing]? with
      | none => simpa only [Shift.step, Crew.step, hdrawing] using hdone
      | some rest =>
          cases rest with
          | done other => simpa only [Shift.step, Crew.step_done hdrawing] using hdone
          | draw next =>
              have hne : drawing ≠ thread := by
                rintro rfl
                rw [hdrawing] at hdone
                cases hdone
              simp only [Shift.step, Crew.step_draw hdrawing]
              rw [List.getElem?_set_ne hne]
              exact hdone
  | finish finishing =>
      rw [join?_finish] at hjoin
      rw [(shift.crew_finish finishing).1]
      rcases Option.or_eq_some_iff.1 hjoin with hold | ⟨-, hnew⟩
      · exact h thread value hold
      · split at hnew
        · next last hlast =>
            split at hnew
            · next heq =>
                rw [heq, hlast, Option.some.inj hnew]
            · contradiction
        · contradiction

theorem Settled.run (h : shift.Settled) (events : List Event) : (shift.run events).Settled := by
  induction events generalizing shift with
  | nil => exact h
  | cons event events ih => exact ih (h.step event)

/-- What joining gives after the threads of a list have ended in its order. -/
theorem join?_run_finish {values : List α} (hdone : shift.crew = values.map .done)
    (hsettled : shift.Settled) (order : List Nat) (thread : Nat) :
    (shift.run (order.map .finish)).join? thread =
      if thread ∈ order then values[thread]? else shift.join? thread := by
  have hvalue : ∀ {shift : Shift α} {value : α}, shift.Settled → shift.crew = values.map .done →
      shift.join? thread = some value → values[thread]? = some value := by
    intro shift value hsettled hdone hjoin
    have hthread := hsettled thread value hjoin
    rw [hdone, List.getElem?_map] at hthread
    rcases Option.map_eq_some_iff.1 hthread with ⟨other, hother, heq⟩
    rw [hother, Fresh.done.inj heq]
  induction order generalizing shift with
  | nil => simp [run]
  | cons finishing order ih =>
      have hcrew := (shift.crew_finish finishing).1.trans hdone
      rw [List.map_cons, run, List.foldl_cons, ← run, ih hcrew (hsettled.step _), join?_finish,
        hdone]
      by_cases hmem : thread ∈ order
      · simp [hmem]
      · by_cases heq : thread = finishing
        · subst heq
          cases hold : shift.join? thread with
          | none => cases hfound : values[thread]? <;> simp [hmem, hfound]
          | some old => simp [hmem, hvalue hsettled hdone hold]
        · cases hfound : values[finishing]? <;> simp [hmem, heq, hfound]

end Shift

/-- A list of options that all have values. -/
theorem mapM_eq_some_iff {β : Type*} {γ : Type*} {f : β → Option γ} {items : List β}
    {values : List γ} : items.mapM f = some values ↔ items.map f = values.map some := by
  induction items generalizing values with
  | nil => cases values <;> simp
  | cons item items ih =>
      rw [List.mapM_cons, List.map_cons]
      cases values with
      | nil => cases f item <;> cases items.mapM f <;> simp
      | cons value values =>
          rw [List.map_cons, List.cons.injEq, ← ih]
          cases f item <;> cases items.mapM f <;> simp

namespace Shift

variable {shift : Shift α} {first : Nat}

theorem joinAll?_eq_some_iff {values : List α} :
    shift.joinAll? = some values ↔
      values.length = shift.crew.length ∧
        ∀ thread < shift.crew.length, shift.join? thread = values[thread]? := by
  rw [joinAll?, mapM_eq_some_iff]
  constructor
  · intro hjoined
    have hlength : values.length = shift.crew.length := by
      simpa using (congrArg List.length hjoined).symm
    refine ⟨hlength, ?_⟩
    intro thread hthread
    have hat := congrArg (·[thread]?) hjoined
    simpa [hthread, hlength ▸ hthread] using hat
  · rintro ⟨hlength, hjoin⟩
    apply List.ext_getElem (by simp [hlength])
    intro thread hthread hthread'
    have hlt : thread < shift.crew.length := by simpa using hthread
    have hlt' : thread < values.length := hlength ▸ hlt
    simpa [hlt'] using hjoin thread hlt

/-- A shift can only be joined when all of its threads have ended. -/
theorem crew_of_joinAll? {values : List α} (hsettled : shift.Settled)
    (hjoined : shift.joinAll? = some values) : shift.crew = values.map .done := by
  rcases joinAll?_eq_some_iff.1 hjoined with ⟨hlength, hjoin⟩
  apply List.ext_getElem?
  intro thread
  by_cases hthread : thread < shift.crew.length
  · have hvalue : values[thread]? = some values[thread] :=
      List.getElem?_eq_getElem (hlength ▸ hthread)
    rw [List.getElem?_map, hvalue]
    exact hsettled thread _ ((hjoin thread hthread).trans hvalue)
  · rw [List.getElem?_eq_none (Nat.le_of_not_lt hthread), List.getElem?_eq_none]
    simpa [hlength] using hthread

/-- Joining one thread gives what it contributes when all are joined. -/
theorem join?_of_joinAll? {values : List α} (hsettled : shift.Settled)
    (hjoined : shift.joinAll? = some values) (thread : Nat) :
    shift.join? thread = values[thread]? := by
  rcases joinAll?_eq_some_iff.1 hjoined with ⟨hlength, hjoin⟩
  by_cases hthread : thread < shift.crew.length
  · exact hjoin thread hthread
  · rw [List.getElem?_eq_none (by omega)]
    cases hended : shift.join? thread with
    | none => rfl
    | some value =>
        have hdone := hsettled thread value hended
        exact absurd (List.getElem?_eq_some_iff.1 hdone).1 hthread

/-- Whatever the order of draws and ends, joining all threads gives what the crew gives under the
schedule of the draws. -/
theorem joinAll?_eq_run {crew : Crew α} {events : List Event} {values : List α}
    (hjoined : ((start crew first).run events).joinAll? = some values) :
    values = (crew.run (draws events) first).1 := by
  have hdone := crew_of_joinAll? ((settled_start crew first).run events) hjoined
  have hcrew := crew_run (start crew first) events
  rw [hdone, start] at hcrew
  rw [Crew.run_eq, ← hcrew, Crew.finish_done]

/-- Threads with nothing left to draw can be joined when each of them has ended, in any order. -/
theorem joinAll?_run_finish {values : List α} (hdone : shift.crew = values.map .done)
    (hsettled : shift.Settled) {order : List Nat}
    (hall : ∀ thread < values.length, thread ∈ order) :
    (shift.run (order.map .finish)).joinAll? = some values := by
  rw [joinAll?_eq_some_iff, crew_run_finish, hdone, List.length_map]
  refine ⟨rfl, ?_⟩
  intro thread hthread
  rw [join?_run_finish hdone hsettled, if_pos (hall thread hthread)]

/-- Every course of events can go on until all threads have ended. -/
theorem exists_joinAll? (crew : Crew α) (first : Nat) (events : List Event) :
    ∃ more, ((start crew first).run (events ++ more)).joinAll? =
      some (crew.run (draws events) first).1 := by
  rcases Crew.exists_follow_finish [] (crew.follow (draws events) first).1
    (crew.follow (draws events) first).2 with ⟨schedule, hschedule⟩
  -- First all draws are made that are left, and then the threads end one after another.
  refine ⟨schedule.map .draw ++ (List.range crew.length).map .finish, ?_⟩
  rw [← List.append_assoc, run_append]
  apply joinAll?_run_finish
  · have hcrew := crew_run (start crew first) (events ++ schedule.map .draw)
    rw [draws_append, draws_map_draw, start, Crew.follow_append] at hcrew
    exact congrArg Prod.fst (hcrew.trans hschedule)
  · exact (settled_start crew first).run _
  · intro thread hthread
    simpa using hthread

end Shift

end SlotPool
