import SlotPool.Pool.History
import SlotPool.Proofs.Draws

/-!
# Traces of a pool

A history tells what a pool answered and shows the pool at the end.  A trace shows the pool after
every single action as well, so that two pools, or one pool used in two ways, can be compared step
by step.

Main definitions:

- `Pool.trace`: the answers to a list of actions, each with the pool after it.

Main results:

- Theorem `Pool.history_eq_trace`: a history is what a trace tells of answers and of the last pool.
- Theorem `Pool.gives_trace_cons_iff`: a trace is made of single actions.
-/

namespace SlotPool.Pool

open Fresh

variable {memory : Memory} {pool : Pool} {drawn : List BlockId}

/-- Does things with a pool one after another, and shows each answer with the pool after it. -/
def trace (memory : Memory) (pool : Pool) : List Action → Fresh (List (Answer × Pool))
  | [] => .done []
  | action :: actions =>
    (pool.act memory.first action).bind fun (answer, after) =>
      (after.trace memory.rest actions).bind fun moments =>
        .done ((answer, after) :: moments)

/-- A history is what a trace tells of the answers and of the last pool. -/
theorem history_eq_trace (memory : Memory) (pool : Pool) (actions : List Action) :
    pool.history memory actions =
      (pool.trace memory actions).bind fun moments =>
        .done (List.zipWith (fun action moment => ⟨action, moment.1⟩) actions moments,
          (moments.getLast?.map Prod.snd).getD pool) := by
  induction actions generalizing memory pool with
  | nil => rfl
  | cons action actions ih =>
      simp only [history_cons, trace, ih, bind_bind, done_bind, List.zipWith_cons_cons,
        List.getLast?_cons, Option.map_some, Option.getD_some, Option.getD_map]

/-- A trace is the first action and its answer, and the trace of the others on the pool that the
first leaves. -/
theorem gives_trace_cons_iff {action : Action} {actions : List Action}
    {moments : List (Answer × Pool)} :
    (pool.trace memory (action :: actions)).Gives drawn moments ↔
      ∃ own rest answer after later, drawn = own ++ rest ∧
        (pool.act memory.first action).Gives own (answer, after) ∧
        (after.trace memory.rest actions).Gives rest later ∧
          moments = (answer, after) :: later := by
  rw [trace, gives_bind_iff]
  constructor
  · rintro ⟨own, rest, ⟨answer, after⟩, rfl, hact, htail⟩
    rcases gives_bind_iff.1 htail with ⟨rest, none, later, rfl, hlater, rfl, rfl⟩
    exact ⟨own, rest, answer, after, later, by rw [List.append_nil], hact, hlater, rfl⟩
  · rintro ⟨own, rest, answer, after, later, rfl, hact, hlater, rfl⟩
    exact ⟨own, rest, (answer, after), rfl, hact,
      gives_bind_iff.2 ⟨rest, [], later, (List.append_nil rest).symm, hlater, rfl, rfl⟩⟩

end SlotPool.Pool
