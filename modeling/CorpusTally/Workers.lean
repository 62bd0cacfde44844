import CorpusTally.Barrier
import CorpusTally.Concurrency
import CorpusTally.FileCounter
import CorpusTally.Report

/-!
A pool of workers for a list of files. Each path is taken once and becomes a result or a failure; a
crash fails its file only. The outcomes are listed here in the order of the paths, which is how a single
worker delivers them.
-/

namespace CorpusTally

abbrev Outcome := Except FailedFile FileTally

namespace Workers

def work (p : FileCounter) (w : Workbench) (path : Path) : Outcome × Workbench :=
  match p.count w path with
  | .ok (.ok result, w) => (.ok result, w)
  | .ok (.error e, w) => (.error ⟨path, e⟩, w)
  | .error crash => (.error ⟨path, .workerCrash path crash.message⟩, w.record .fileFailed)

def runFrom (p : FileCounter) (w : Workbench) : List Path → List Outcome × Workbench
  | [] => ([], w)
  | path :: rest =>
    let (outcome, w) := work p w path
    let (outcomes, w) := runFrom p w rest
    (outcome :: outcomes, w)

def results (outcomes : List Outcome) : List FileTally := outcomes.filterMap Except.toOption

def failures (outcomes : List Outcome) : List FailedFile :=
  outcomes.filterMap fun
    | .error failure => some failure
    | .ok _ => none

/-- A report of everything that nobody has taken before. -/
def gather (results : List FileTally) (failures : List FailedFile) : Except Crash Report := do
  let counted ← results.foldlM Report.addTally .empty
  failures.foldlM Report.addFailed counted

def report (outcomes : List Outcome) : Except Crash Report :=
  gather (results outcomes) (failures outcomes)

def startEvent (workers files : Nat) : LogEvent :=
  ⟨.debug, s!"Starting {workers} workers for {files} files"⟩

def started (workers : Nat) : Barrier := workers.repeat Barrier.enter {}

end Workers

end CorpusTally
