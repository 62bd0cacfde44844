import CorpusTally.CorpusError
import CorpusTally.Log

/-!
How many files are counted at once, and how many chunks of a file.
-/

namespace CorpusTally

def workerLimit : Nat := 10

structure Concurrency where
  workers : Nat
  counters : Nat
  workers_pos : 0 < workers
  workers_le : workers ≤ workerLimit
  counters_pos : 0 < counters

namespace Concurrency

def cappedEvent (workers : Nat) : LogEvent :=
  ⟨.warn, s!"worker_count {workers} exceeds maximum, capping at {workerLimit}"⟩

/-- Refuses a count of zero, and lowers too many workers to the maximum. -/
def ofCounts (workers counters : Nat) : Except CorpusError (Concurrency × Log) :=
  if hw : workers = 0 then .error (.config "worker_count must be at least 1")
  else if hc : counters = 0 then .error (.config "counter_count must be at least 1")
  else if hm : workers ≤ workerLimit then .ok (⟨workers, counters, by omega, hm, by omega⟩, [])
  else .ok (⟨workerLimit, counters, by decide, by decide, by omega⟩, [cappedEvent workers])

end Concurrency

end CorpusTally
