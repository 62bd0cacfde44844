import CorpusTally.Proofs.Pool.FileWork
import CorpusTally.Proofs.Reporting

/-!
A pool while it runs: its workers, the two queues of what they deliver, the barrier at which they are
counted, and the thread that asks for the report. That thread may take results and failures as they
come, and gets what is left when all workers are gone.
-/

namespace CorpusTally

/-- The thread that asks for the report: not yet waiting, at the barrier, or past it. -/
inductive Orchestrator where
  | free
  | waiting
  | draining (results : List FileTally)
  | closing (results : List FileTally) (failures : List FailedFile)
  | reported (results : List FileTally) (failures : List FailedFile)

namespace Orchestrator

def results : Orchestrator → List FileTally
  | draining results | closing results _ | reported results _ => results
  | free | waiting => []

def failures : Orchestrator → List FailedFile
  | closing _ failures | reported _ failures => failures
  | free | waiting | draining _ => []

def report? : Orchestrator → Option (Except Crash Report)
  | reported results failures => some (Workers.gather results failures)
  | free | waiting | draining _ | closing _ _ => none

def Released : Orchestrator → Prop
  | free | waiting => False
  | draining _ | closing _ _ | reported _ _ => True

def Emptied (results : List FileTally) (failures : List FailedFile) : Orchestrator → Prop
  | free | waiting | draining _ => True
  | closing _ _ => results = []
  | reported _ _ => results = [] ∧ failures = []

def rank : Orchestrator → Nat
  | free => 4
  | waiting => 3
  | draining _ => 2
  | closing _ _ => 1
  | reported _ _ => 0

end Orchestrator

structure Pool (p : FileCounter) where
  crew : Crew (fileCraft p)
  barrier : Barrier
  orchestrator : Orchestrator
  results : List FileTally := []
  failures : List FailedFile := []
  takenResults : List FileTally := []
  takenFailures : List FailedFile := []

namespace Pool

def start (p : FileCounter) (workers : Nat) (paths : List Path) (orchestrator : Orchestrator) : Pool p :=
  { crew := .start (fileCraft p) workers paths false
    barrier := Workers.started workers
    orchestrator := orchestrator }

/-- What a step of the crew does to the pool: outcomes go into their queue, and who leaves is counted
out at the barrier. -/
def after {p : FileCounter} (pool : Pool p) (event : Event Path Outcome) (crew : Crew (fileCraft p)) :
    Pool p :=
  { pool with
    crew := crew
    barrier := event.departures.repeat Barrier.leave pool.barrier
    results := pool.results ++ Workers.results event.results
    failures := pool.failures ++ Workers.failures event.results }

inductive Step (p : FileCounter) : Workbench × Pool p → Workbench × Pool p → Prop
  | worker {w w' pool event crew'}
      (inner : Crew.Step (fileCraft p) (w, pool.crew) event (w', crew')) :
      Step p (w, pool) (w', pool.after event crew')
  | takeResult {w pool result later} (free : pool.orchestrator = .free)
      (next : pool.results = result :: later) :
      Step p (w, pool)
        (w, { pool with results := later, takenResults := pool.takenResults ++ [result] })
  | takeFailure {w pool failure later} (free : pool.orchestrator = .free)
      (next : pool.failures = failure :: later) :
      Step p (w, pool)
        (w, { pool with failures := later, takenFailures := pool.takenFailures ++ [failure] })
  | timeout {w pool} (free : pool.orchestrator = .free) (busy : pool.barrier.isOpen = false) :
      Step p (w, pool) (w, pool)
  | wait {w pool} (free : pool.orchestrator = .free) :
      Step p (w, pool) (w, { pool with orchestrator := .waiting })
  | release {w pool} (waits : pool.orchestrator = .waiting) (opened : pool.barrier.isOpen = true) :
      Step p (w, pool) (w, { pool with orchestrator := .draining [] })
  | drain {w pool result later drained} (stands : pool.orchestrator = .draining drained)
      (next : pool.results = result :: later) :
      Step p (w, pool)
        (w, { pool with results := later, orchestrator := .draining (drained ++ [result]) })
  | drained {w pool drained} (stands : pool.orchestrator = .draining drained)
      (empty : pool.results = []) :
      Step p (w, pool) (w, { pool with orchestrator := .closing drained [] })
  | close {w pool failure later drained failed} (stands : pool.orchestrator = .closing drained failed)
      (next : pool.failures = failure :: later) :
      Step p (w, pool)
        (w, { pool with failures := later, orchestrator := .closing drained (failed ++ [failure]) })
  | finish {w pool drained failed} (stands : pool.orchestrator = .closing drained failed)
      (empty : pool.failures = []) :
      Step p (w, pool) (w, { pool with orchestrator := .reported drained failed })

variable {p : FileCounter} {set : StopwordSet} {paths : List Path} {w w' : Workbench}
variable {pool pool' : Pool p}

def allResults (pool : Pool p) : List FileTally :=
  pool.takenResults ++ (pool.orchestrator.results ++ pool.results)

def allFailures (pool : Pool p) : List FailedFile :=
  pool.takenFailures ++ (pool.orchestrator.failures ++ pool.failures)

theorem allResults_after (pool : Pool p) (event : Event Path Outcome) (crew : Crew (fileCraft p)) :
    (pool.after event crew).allResults = pool.allResults ++ Workers.results event.results := by
  simp only [allResults, after, List.append_assoc]

theorem allFailures_after (pool : Pool p) (event : Event Path Outcome) (crew : Crew (fileCraft p)) :
    (pool.after event crew).allFailures = pool.allFailures ++ Workers.failures event.results := by
  simp only [allFailures, after, List.append_assoc]

/-- The paths that are done are those that the crew owes no more, and everything that came is what they
came to. Past the barrier all workers are gone. -/
structure Valid (set : StopwordSet) (paths : List Path) (pool : Pool p) : Prop where
  crew : pool.crew.Valid (fileLaw p set)
  counted : pool.barrier.active = pool.crew.present
  released : pool.orchestrator.Released → pool.crew.Over
  arrived : ∃ done : List Path,
    (done ++ pool.crew.due).Perm paths ∧
    (pool.crew.members.length = 1 → done ++ pool.crew.due = paths) ∧
    pool.allResults = Workers.results (done.map (p.outcome set)) ∧
    pool.allFailures = Workers.failures (done.map (p.outcome set))
  emptied : pool.orchestrator.Emptied pool.results pool.failures

private theorem active_after (event : Event Path Outcome) (b : Barrier) {now : Nat}
    (counted : b.active = now + event.departures) :
    (event.departures.repeat Barrier.leave b).active = now := by
  cases event <;> simp [Event.departures, Nat.repeat, Barrier.leave] at counted ⊢ <;> omega

private theorem active_started (workers : Nat) : (Workers.started workers).active = workers := by
  unfold Workers.started
  induction workers with
  | zero => rfl
  | succ workers ih => simp [Nat.repeat, Barrier.enter, ih]

theorem valid_start {workers : Nat} (positive : 0 < workers) (fits : ∀ path, p.Fits set path)
    (paths : List Path) {orchestrator : Orchestrator}
    (outside : orchestrator = .free ∨ orchestrator = .waiting) :
    (start p workers paths orchestrator).Valid set paths := by
  have due : (start p workers paths orchestrator).crew.due = paths := Crew.due_start _ _ _ _
  refine ⟨Crew.valid_start _ positive (fun path _ => fits path) false, ?_, ?_, ⟨[], ?_⟩, ?_⟩
  · exact (active_started workers).trans (Crew.present_start _ _ _ _).symm
  · rcases outside with rfl | rfl <;> exact fun past => absurd past id
  · rcases outside with rfl | rfl <;> exact ⟨.of_eq due, fun _ => due, rfl, rfl⟩
  · rcases outside with rfl | rfl <;> trivial

private theorem valid_after {event : Event Path Outcome} {crew' : Crew (fileCraft p)}
    (inner : Crew.Step (fileCraft p) (w, pool.crew) event (w', crew'))
    (serves : w.Serves p.stopwordFile set) (valid : pool.Valid set paths) :
    (pool.after event crew').Valid set paths := by
  obtain ⟨-, kept, right⟩ := inner.keeps (fileLaw p set) serves valid.crew
  have outside : ¬ pool.orchestrator.Released := fun past => (valid.released past).no_step inner
  obtain ⟨done, perm, inOrder, results, failures⟩ := valid.arrived
  have outcomes : event.results = event.jobs.map (p.outcome set) := right.results_eq
  refine ⟨kept, active_after event _ (valid.counted.trans inner.present_eq), ?_,
    ⟨done ++ event.jobs, ?_, fun alone => ?_, ?_, ?_⟩, ?_⟩
  · exact fun past => absurd past outside
  · rw [List.append_assoc]
    exact ((inner.due_perm (fileLaw p set) valid.crew).symm.append_left done).trans perm
  · have before : pool.crew.members.length = 1 := inner.length_eq.symm.trans alone
    change (done ++ event.jobs) ++ crew'.due = paths
    rw [List.append_assoc, ← inner.due_eq (fileLaw p set) valid.crew before]
    exact inOrder before
  · rw [allResults_after, results, outcomes, List.map_append, Workers.results_append]
  · rw [allFailures_after, failures, outcomes, List.map_append, Workers.failures_append]
  · change pool.orchestrator.Emptied _ _
    match stands : pool.orchestrator with
    | .free | .waiting | .draining _ => trivial
    | .closing _ _ | .reported _ _ => exact absurd (by rw [stands]; trivial) outside

private theorem Valid.moved (valid : pool.Valid set paths) (crew : pool'.crew = pool.crew)
    (barrier : pool'.barrier = pool.barrier) (results : pool'.allResults = pool.allResults)
    (failures : pool'.allFailures = pool.allFailures)
    (released : pool'.orchestrator.Released → pool.crew.Over)
    (emptied : pool'.orchestrator.Emptied pool'.results pool'.failures) :
    pool'.Valid set paths where
  crew := crew ▸ valid.crew
  counted := by rw [barrier, crew, valid.counted]
  released := fun past => crew ▸ released past
  arrived := by
    rw [crew, results, failures]
    exact valid.arrived
  emptied := emptied

theorem Step.keeps (step : Step p (w, pool) (w', pool')) (serves : w.Serves p.stopwordFile set)
    (valid : pool.Valid set paths) : w'.Serves p.stopwordFile set ∧ pool'.Valid set paths := by
  have past : pool.orchestrator.Released → pool.crew.Over := valid.released
  have emptied := valid.emptied
  cases step with
  | worker inner =>
    exact ⟨(inner.keeps (fileLaw p set) serves valid.crew).1, valid_after inner serves valid⟩
  | takeResult free next =>
    refine ⟨serves, valid.moved rfl rfl ?_ rfl past (by simp [free, Orchestrator.Emptied])⟩
    simp [allResults, free, next, Orchestrator.results]
  | takeFailure free next =>
    refine ⟨serves, valid.moved rfl rfl rfl ?_ past (by simp [free, Orchestrator.Emptied])⟩
    simp [allFailures, free, next, Orchestrator.failures]
  | timeout => exact ⟨serves, valid⟩
  | wait free =>
    refine ⟨serves, valid.moved rfl rfl ?_ ?_ (fun waits => absurd waits id) trivial⟩
    · simp [allResults, free, Orchestrator.results]
    · simp [allFailures, free, Orchestrator.failures]
  | release waits opened =>
    refine ⟨serves, valid.moved rfl rfl ?_ ?_ (fun _ => valid.crew.over_of_present ?_) trivial⟩
    · simp [allResults, waits, Orchestrator.results]
    · simp [allFailures, waits, Orchestrator.failures]
    · rw [← valid.counted]
      simpa [Barrier.isOpen] using opened
  | drain stands next =>
    rw [stands] at past
    refine ⟨serves, valid.moved rfl rfl ?_ ?_ past trivial⟩
    · simp [allResults, stands, next, Orchestrator.results]
    · simp [allFailures, stands, Orchestrator.failures]
  | drained stands empty =>
    rw [stands] at past
    refine ⟨serves, valid.moved rfl rfl ?_ ?_ past empty⟩
    · simp [allResults, stands, Orchestrator.results]
    · simp [allFailures, stands, Orchestrator.failures]
  | close stands next =>
    rw [stands] at past emptied
    refine ⟨serves, valid.moved rfl rfl ?_ ?_ past emptied⟩
    · simp [allResults, stands, Orchestrator.results]
    · simp [allFailures, stands, next, Orchestrator.failures]
  | finish stands empty =>
    rw [stands] at past emptied
    refine ⟨serves, valid.moved rfl rfl ?_ ?_ past ⟨emptied, empty⟩⟩
    · simp [allResults, stands, Orchestrator.results]
    · simp [allFailures, stands, Orchestrator.failures]

def rank (set : StopwordSet) (pool : Pool p) : Nat :=
  2 * pool.crew.rank (fileLaw p set) + pool.results.length + pool.failures.length +
    pool.orchestrator.rank

private theorem length_outcomes (event : Event Path Outcome) :
    (Workers.results event.results).length + (Workers.failures event.results).length ≤ 1 := by
  cases event with
  | delivers path outcome => cases outcome <;> simp [Event.results, Workers.results, Workers.failures,
      Except.toOption]
  | quiet | crashes | leaves => simp [Event.results, Workers.results, Workers.failures]

/-- Every step but a timeout brings the report nearer. -/
theorem Step.rank_lt (step : Step p (w, pool) (w', pool')) (serves : w.Serves p.stopwordFile set)
    (valid : pool.Valid set paths) (waits : pool.orchestrator ≠ .free) :
    pool'.rank set < pool.rank set ∧ pool'.orchestrator ≠ .free := by
  cases step with
  | worker inner =>
    have lower := inner.rank_lt (fileLaw p set) serves valid.crew
    have few := length_outcomes ‹_›
    refine ⟨?_, waits⟩
    simp only [rank, after, List.length_append]
    omega
  | takeResult free | takeFailure free | timeout free | wait free => exact absurd free waits
  | release stands => simp [rank, stands, Orchestrator.rank]
  | drain stands next =>
    refine ⟨?_, by simp⟩
    simp only [rank, stands, next, Orchestrator.rank, List.length_cons]
    omega
  | drained stands => simp [rank, stands, Orchestrator.rank]
  | close stands next =>
    refine ⟨?_, by simp⟩
    simp only [rank, stands, next, Orchestrator.rank, List.length_cons]
    omega
  | finish stands => simp [rank, stands, Orchestrator.rank]

theorem exists_step (serves : w.Serves p.stopwordFile set) (valid : pool.Valid set paths)
    (going : pool.orchestrator.report? = none) : ∃ next, Step p (w, pool) next := by
  match stands : pool.orchestrator with
  | .free => exact ⟨_, .wait stands⟩
  | .waiting =>
    match opened : pool.barrier.isOpen with
    | true => exact ⟨_, .release stands opened⟩
    | false =>
      have left : ¬ pool.crew.Over := fun isOver => by
        simp [Barrier.isOpen, valid.counted, isOver.present_eq] at opened
      obtain ⟨event, ⟨w', crew'⟩, inner⟩ := Crew.exists_step (fileLaw p set) serves valid.crew left
      exact ⟨_, .worker inner⟩
  | .draining _ =>
    match next : pool.results with
    | [] => exact ⟨_, .drained stands next⟩
    | _ :: _ => exact ⟨_, .drain stands next⟩
  | .closing _ _ =>
    match next : pool.failures with
    | [] => exact ⟨_, .finish stands next⟩
    | _ :: _ => exact ⟨_, .close stands next⟩
  | .reported _ _ => simp [stands, Orchestrator.report?] at going

def settles (p : FileCounter) (set : StopwordSet) (paths : List Path) :
    Settles (Step p)
      (fun a => a.1.Serves p.stopwordFile set ∧ a.2.Valid set paths ∧ a.2.orchestrator ≠ .free)
      (fun a => a.2.orchestrator.report? ≠ none) where
  rank := fun a => a.2.rank set
  keeps := fun ok step =>
    have kept := step.keeps ok.1 ok.2.1
    ⟨kept.1, kept.2, (step.rank_lt ok.1 ok.2.1 ok.2.2).2⟩
  drops := fun ok step => (step.rank_lt ok.1 ok.2.1 ok.2.2).1
  moves := fun ok going => exists_step ok.1 ok.2.1 (not_not.mp going)

theorem exists_report (serves : w.Serves p.stopwordFile set) (valid : pool.Valid set paths) :
    ∃ last, Reaches (Step p) (w, pool) last ∧ last.2.orchestrator.report? ≠ none := by
  have law := settles p set paths
  by_cases free : pool.orchestrator = .free
  · have first : Step p (w, pool) (w, { pool with orchestrator := .waiting }) := .wait free
    have kept := first.keeps serves valid
    obtain ⟨last, run, -, isOver⟩ :=
      law.reaches_over (a := (w, { pool with orchestrator := .waiting })) ⟨kept.1, kept.2, by simp⟩
    exact ⟨last, .head first run, isOver⟩
  · obtain ⟨last, run, -, isOver⟩ := law.reaches_over (a := (w, pool)) ⟨serves, valid, free⟩
    exact ⟨last, run, isOver⟩

theorem Valid.done_of_released (valid : pool.Valid set paths) (past : pool.orchestrator.Released) :
    ∃ done : List Path, done.Perm paths ∧ (pool.crew.members.length = 1 → done = paths) ∧
      pool.allResults = Workers.results (done.map (p.outcome set)) ∧
      pool.allFailures = Workers.failures (done.map (p.outcome set)) := by
  obtain ⟨done, perm, inOrder, results, failures⟩ := valid.arrived
  rw [valid.crew.due_of_over (valid.released past), List.append_nil] at perm inOrder
  exact ⟨done, perm, inOrder, results, failures⟩

theorem Valid.items_of_report (valid : pool.Valid set paths) {gathered : Except Crash Report}
    (reported : pool.orchestrator.report? = some gathered) :
    pool.orchestrator.Released ∧ ∃ results failures,
      gathered = Workers.gather results failures ∧
      pool.allResults = pool.takenResults ++ results ∧
      pool.allFailures = pool.takenFailures ++ failures := by
  match stands : pool.orchestrator with
  | .free | .waiting | .draining _ | .closing _ _ => simp [stands, Orchestrator.report?] at reported
  | .reported results failures =>
    have emptied := valid.emptied
    rw [stands] at emptied
    refine ⟨trivial, results, failures, ?_, ?_, ?_⟩
    · simpa [stands, Orchestrator.report?] using reported.symm
    · simp [allResults, stands, Orchestrator.results, emptied.1]
    · simp [allFailures, stands, Orchestrator.failures, emptied.2]

end Pool

end CorpusTally
