import SlotPool.Proofs.Pool.Steps
import SlotPool.TypedPool

/-!
# What one operation of a typed pool can do

A typed pool does nothing that its pool does not do: it is built as a pool is, and storing a record
is handing out a slot and writing to it.

Main results:

- Theorem `TypedPool.pool_of_create`: what a typed pool is built of.
- Theorem `TypedPool.store_cases`: all that storing can do.
-/

namespace SlotPool.TypedPool

open Fresh

variable {memory : Memory} {layout : Layout} {config : Config} {drawn : List BlockId}
variable {typed after : TypedPool layout}

/-- A typed pool is a pool whose objects are as large as the records. -/
theorem pool_of_create (h : (create memory layout config).Gives drawn (.ok typed)) :
    config.objectSize = layout.size ∧ (Pool.create memory config).Gives drawn (.ok typed.pool) := by
  unfold create at h
  split at h
  · next hsize =>
      rcases gives_bind_iff.1 h with ⟨own, rest, result, rfl, hcreate, hrest⟩
      cases result with
      | error fault => simp at hrest
      | ok pool =>
          rcases hrest with ⟨rfl, htyped⟩
          rw [← Except.ok.inj htyped, List.append_nil]
          exact ⟨hsize, hcreate⟩
  · simp at h

/-- Storing hands out a slot and writes the record into it; or nothing is handed out; or what is
handed out is not a slot, which is reported. -/
theorem store_cases {record : Record layout} {result : Except Fault Address}
    (h : (typed.store memory record).Gives drawn (result, after)) :
    (∃ address pool, result = .ok address ∧
      (typed.pool.allocate memory).Gives drawn (.ok address, pool) ∧
      pool.write address record.encode = (true, after.pool)) ∨
    (∃ fault, result = .error fault ∧
      (typed.pool.allocate memory).Gives drawn (.error fault, after.pool)) ∨
    (∃ address, result = .error (.invalidFree address) ∧
      (typed.pool.allocate memory).Gives drawn (.ok address, after.pool) ∧
      after.pool.write address record.encode = (false, after.pool)) := by
  rcases gives_bind_iff.1 h with ⟨own, rest, ⟨issued, pool⟩, rfl, hallocate, hrest⟩
  cases issued with
  | error fault =>
      simp only [gives_done_iff, Prod.mk.injEq] at hrest
      rcases hrest with ⟨rfl, rfl, rfl⟩
      rw [List.append_nil]
      exact Or.inr (Or.inl ⟨fault, rfl, hallocate⟩)
  | ok address =>
      rcases hwrite : pool.write address record.encode with ⟨written, pool'⟩
      cases written with
      | true =>
          simp only [hwrite, gives_done_iff, Prod.mk.injEq] at hrest
          rcases hrest with ⟨rfl, rfl, rfl⟩
          rw [List.append_nil]
          exact Or.inl ⟨address, pool, rfl, hallocate, hwrite⟩
      | false =>
          have hsame : pool' = pool := by
            rcases Pool.write_cases hwrite with ⟨-, hsame⟩ | ⟨_, _, _, _, -, -, htrue, -⟩
            · exact hsame
            · contradiction
          rw [hsame] at hwrite
          simp only [hwrite, gives_done_iff, Prod.mk.injEq] at hrest
          rcases hrest with ⟨rfl, rfl, rfl⟩
          rw [List.append_nil]
          exact Or.inr (Or.inr ⟨address, rfl, hallocate, hwrite⟩)

end SlotPool.TypedPool
