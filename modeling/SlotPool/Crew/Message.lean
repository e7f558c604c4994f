import SlotPool.Crew
import SlotPool.Fault.Message

/-!
# The wording of failed computations

One sentence for every way in which a computation fails.
-/

namespace SlotPool

/-- Wording of a failed computation. -/
def CrewFault.message : CrewFault → String
  | noWorkers => "at least one worker thread is required"
  | workerCrashed threadId => s!"worker thread {threadId} panicked"
  | pool fault => "worker pool: " ++ fault.message

end SlotPool
