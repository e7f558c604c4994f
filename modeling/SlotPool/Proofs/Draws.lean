import Mathlib.Data.List.Basic
import SlotPool.Fresh

/-!
# The identities that a computation draws

A computation that shares its supply of identities with others cannot tell which ranks it
will get, only that each is higher than all before.  This file relates a computation to the
identities it draws and to the value it gives, for every choice of the identities.

Main definitions:

- `Fresh.Gives`: a computation that draws certain identities gives a certain value.
- `Fresh.Ascending`: identities as one of several users of a supply gets them.

Main results:

- Theorem `Fresh.gives_bind_iff`: a sequence of two computations draws first what the former
  draws and then what the latter draws.
- Theorem `Fresh.gives_runFrom`: running a computation on its own is one of the cases.
-/

namespace SlotPool

universe u v

namespace Fresh

variable {α : Type u} {β : Type v}

/-- A computation draws exactly `ids`, in this order, and then gives a value. -/
def Gives : Fresh α → List BlockId → α → Prop
  | done value, ids, given => ids = [] ∧ value = given
  | draw _, [], _ => False
  | draw next, id :: ids, given => (next id).Gives ids given

/-- Ranks only go up along these identities, as they do for everyone who draws from a shared
supply. -/
def Ascending (ids : List BlockId) : Prop :=
  ids.Pairwise fun earlier later => earlier.number < later.number

instance (ids : List BlockId) : Decidable (Ascending ids) :=
  inferInstanceAs (Decidable (List.Pairwise _ _))

@[simp]
theorem gives_done_iff {value given : α} {ids : List BlockId} :
    (done value).Gives ids given ↔ ids = [] ∧ value = given :=
  Iff.rfl

@[simp]
theorem gives_draw_iff {next : BlockId → Fresh α} {ids : List BlockId} {given : α} :
    (draw next).Gives ids given ↔ ∃ id rest, ids = id :: rest ∧ (next id).Gives rest given := by
  cases ids with
  | nil => simp [Gives]
  | cons id rest => simp [Gives]

/-- What a sequence of two computations draws is what the former draws and then the latter. -/
theorem gives_bind_iff {x : Fresh α} {f : α → Fresh β} {ids : List BlockId} {given : β} :
    (x.bind f).Gives ids given ↔
      ∃ before after value, ids = before ++ after ∧ x.Gives before value ∧
        (f value).Gives after given := by
  induction x generalizing ids with
  | done value =>
      constructor
      · intro h
        exact ⟨[], ids, value, rfl, ⟨rfl, rfl⟩, h⟩
      · rintro ⟨before, after, _, rfl, ⟨rfl, rfl⟩, h⟩
        exact h
  | draw next ih =>
      constructor
      · intro h
        rcases gives_draw_iff.1 h with ⟨id, rest, rfl, hrest⟩
        rcases (ih id).1 hrest with ⟨before, after, value, rfl, hbefore, hafter⟩
        exact ⟨id :: before, after, value, rfl, hbefore, hafter⟩
      · rintro ⟨before, after, value, rfl, hbefore, hafter⟩
        rcases gives_draw_iff.1 hbefore with ⟨id, rest, rfl, hrest⟩
        exact (ih id).2 ⟨rest, after, value, rfl, hrest, hafter⟩

/-- A computation on its own draws consecutive ranks. -/
theorem gives_runFrom (x : Fresh α) (first : Nat) :
    x.Gives ((List.range' first ((x.runFrom first).2 - first)).map BlockId.mk)
      (x.runFrom first).1 := by
  induction x generalizing first with
  | done value => simp
  | draw next ih =>
      have hle : first + 1 ≤ ((next ⟨first⟩).runFrom (first + 1)).2 :=
        le_runFrom (next ⟨first⟩) (first + 1)
      have hcount : ((next ⟨first⟩).runFrom (first + 1)).2 - first =
          ((next ⟨first⟩).runFrom (first + 1)).2 - (first + 1) + 1 := by
        omega
      rw [runFrom_draw, hcount, List.range'_succ, List.map_cons]
      exact ih ⟨first⟩ (first + 1)

/-- A computation that leaves `last` unused when it runs on its own draws all ranks before it. -/
theorem gives_of_runFrom {x : Fresh α} {first last : Nat} {given : α}
    (h : x.runFrom first = (given, last)) :
    x.Gives ((List.range' first (last - first)).map BlockId.mk) given := by
  have hgives := gives_runFrom x first
  rw [h] at hgives
  exact hgives

/-- Consecutive ranks can be cut into two anywhere. -/
theorem range'_append_of_le {first next last : Nat} (hnext : first ≤ next) (hlast : next ≤ last) :
    (List.range' first (last - first)).map BlockId.mk =
      (List.range' first (next - first)).map BlockId.mk ++
        (List.range' next (last - next)).map BlockId.mk := by
  have hstart : next = first + (next - first) := by omega
  have hcount : last - first = (next - first) + (last - next) := by omega
  rw [hcount, ← List.range'_append_1, ← hstart, List.map_append]

/-! ## Ascending identities -/

theorem ascending_append_iff {ids more : List BlockId} :
    Ascending (ids ++ more) ↔
      Ascending ids ∧ Ascending more ∧ ∀ id ∈ ids, ∀ later ∈ more, id.number < later.number :=
  List.pairwise_append

theorem Ascending.left {ids more : List BlockId} (h : Ascending (ids ++ more)) : Ascending ids :=
  (ascending_append_iff.1 h).1

/-- Identities whose ranks only go up are distinct. -/
theorem Ascending.nodup {ids : List BlockId} (h : Ascending ids) : ids.Nodup := by
  apply List.Pairwise.imp _ h
  intro earlier later hlt heq
  subst heq
  exact Nat.lt_irrefl _ hlt

theorem ascending_range' (first count : Nat) :
    Ascending ((List.range' first count).map BlockId.mk) :=
  List.pairwise_map.2 List.pairwise_lt_range'

end Fresh

end SlotPool
