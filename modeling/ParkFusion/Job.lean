import ParkFusion.Instant

namespace ParkFusion

inductive JobKind
  /-- Reconcile the mappings of a park once more. The external ids stand under their sources. -/
  | resyncMappings (parkName : String) (externalIds : List (String × String))
  deriving DecidableEq, Repr

/-- Follow-up work. Jobs of higher priority run first. -/
structure Job where
  kind : JobKind
  priority : UInt8
  attempts : UInt32 := 0
  enqueuedAt : Instant
  deriving DecidableEq, Repr

structure JobQueue where
  jobs : List Job := []
  deriving DecidableEq, Repr

namespace JobQueue

def enqueue (q : JobQueue) (job : Job) : JobQueue :=
  ⟨q.jobs ++ [job]⟩

/-- Empties the queue. Its jobs come by descending priority, and those of one priority in the order
in which they were enqueued. -/
def drain (q : JobQueue) : List Job × JobQueue :=
  (q.jobs.mergeSort fun a b ↦ b.priority ≤ a.priority, {})

end JobQueue

/-- Where follow-up work goes. -/
inductive JobSink
  | absent
  | queue (jobs : JobQueue)
  | broken
  deriving DecidableEq, Repr

/-- Hands over a job. That a sink is broken does no harm. -/
def JobSink.enqueue (job : Job) : JobSink → JobSink
  | queue jobs => queue (jobs.enqueue job)
  | sink => sink

end ParkFusion
