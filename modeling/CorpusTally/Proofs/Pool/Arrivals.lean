import CorpusTally.Proofs.Pool.Pool
import CorpusTally.Proofs.Schedules

/-!
The order in which outcomes reach a report that is waited for. With one worker it is that of the paths;
with more a path can come after any of those behind it.
-/

namespace CorpusTally

namespace Pool

variable {p : FileCounter} {set : StopwordSet} {paths : List Path} {w w' : Workbench}
variable {pool pool' : Pool p}

/-- The report is waited for, and takes all that comes. -/
structure Awaited (pool : Pool p) : Prop where
  waits : pool.orchestrator ≠ .free
  noResult : pool.takenResults = []
  noFailure : pool.takenFailures = []

theorem Step.awaited (step : Step p (w, pool) (w', pool')) (awaited : pool.Awaited) :
    pool'.Awaited := by
  obtain ⟨waits, noResult, noFailure⟩ := awaited
  cases step with
  | worker => exact ⟨waits, noResult, noFailure⟩
  | takeResult free | takeFailure free | timeout free | wait free => exact absurd free waits
  | release | drain | drained | close | finish => exact ⟨by simp, noResult, noFailure⟩

/-- What has come stays where it is, before everything that comes later. -/
theorem Step.arrivals (step : Step p (w, pool) (w', pool')) :
    pool.allResults <+: pool'.allResults ∧ pool.allFailures <+: pool'.allFailures := by
  cases step with
  | worker inner =>
    rw [allResults_after, allFailures_after]
    exact ⟨List.prefix_append _ _, List.prefix_append _ _⟩
  | takeResult free next | takeFailure free next =>
    simp [allResults, allFailures, free, next, Orchestrator.results, Orchestrator.failures]
  | timeout => exact ⟨List.prefix_refl _, List.prefix_refl _⟩
  | wait stands | release stands | drained stands | finish stands =>
    simp [allResults, allFailures, stands, Orchestrator.results, Orchestrator.failures]
  | drain stands next | close stands next =>
    simp [allResults, allFailures, stands, next, Orchestrator.results, Orchestrator.failures]

/-- What every step leaves in front, a run leaves in front. -/
private theorem prefix_of_reaches {α : Type} (part : Pool p → List α)
    (stays : ∀ {w w' pool pool'}, Step p (w, pool) (w', pool') → part pool <+: part pool')
    (run : Reaches (Step p) (w, pool) (w', pool')) : part pool <+: part pool' := by
  have keeps : ∀ {a b : Workbench × Pool p}, part pool <+: part a.2 → Step p a b → part pool <+: part b.2 :=
    fun kept step => kept.trans (stays step)
  exact run.keeps keeps (List.prefix_refl _)

theorem arrivals_of_reaches (run : Reaches (Step p) (w, pool) (w', pool')) :
    pool.allResults <+: pool'.allResults ∧ pool.allFailures <+: pool'.allFailures := by
  constructor
  · exact prefix_of_reaches allResults (fun step => step.arrivals.1) run
  · exact prefix_of_reaches allFailures (fun step => step.arrivals.2) run

theorem Step.taken (step : Step p (w, pool) (w', pool')) :
    pool.takenResults <+: pool'.takenResults ∧ pool.takenFailures <+: pool'.takenFailures := by
  cases step with
  | takeResult => exact ⟨List.prefix_append _ _, List.prefix_refl _⟩
  | takeFailure => exact ⟨List.prefix_refl _, List.prefix_append _ _⟩
  | worker | timeout | wait | release | drain | drained | close | finish =>
    exact ⟨List.prefix_refl _, List.prefix_refl _⟩

theorem taken_of_reaches (run : Reaches (Step p) (w, pool) (w', pool')) :
    pool.takenResults <+: pool'.takenResults ∧ pool.takenFailures <+: pool'.takenFailures := by
  constructor
  · exact prefix_of_reaches takenResults (fun step => step.taken.1) run
  · exact prefix_of_reaches takenFailures (fun step => step.taken.2) run

/-- While the crew delivers, nobody has to take anything out of the queues. -/
theorem reaches_of_delivers {a b : Workbench × Crew (fileCraft p)} {jobs : List Path}
    (run : Crew.Delivers (p.outcome set) a jobs b) (pool : Pool p) (stands : pool.crew = a.2) :
    ∃ barrier, Reaches (Step p) (a.1, pool)
      (b.1, { pool with
        crew := b.2
        barrier := barrier
        results := pool.results ++ Workers.results (jobs.map (p.outcome set))
        failures := pool.failures ++ Workers.failures (jobs.map (p.outcome set)) }) := by
  induction run generalizing pool with
  | done =>
    refine ⟨pool.barrier, ?_⟩
    rw [← stands, List.map_nil, Workers.results, Workers.failures, List.filterMap_nil, List.filterMap_nil,
      List.append_nil, List.append_nil]
  | @quiet a b _ _ step _ ih =>
    have first : Step p (a.1, pool) (b.1, pool.after .quiet b.2) := .worker (by rw [stands]; exact step)
    obtain ⟨barrier, rest⟩ := ih (pool.after .quiet b.2) rfl
    refine ⟨barrier, .head first ?_⟩
    simpa only [after, Event.results, Workers.results, Workers.failures, List.filterMap_nil,
      List.append_nil] using rest
  | @deliver a b _ job _ step _ ih =>
    have first : Step p (a.1, pool) (b.1, pool.after (.delivers job (p.outcome set job)) b.2) :=
      .worker (by rw [stands]; exact step)
    obtain ⟨barrier, rest⟩ := ih (pool.after (.delivers job _) b.2) rfl
    refine ⟨barrier, .head first ?_⟩
    simpa only [after, Event.results, List.append_assoc, ← Workers.results_append,
      ← Workers.failures_append, List.singleton_append, List.map_cons] using rest

structure Underway (set : StopwordSet) (paths : List Path) (workers : Nat) (a : Workbench × Pool p) :
    Prop where
  serves : a.1.Serves p.stopwordFile set
  valid : a.2.Valid set paths
  awaited : a.2.Awaited
  staffed : a.2.crew.members.length = workers

theorem Step.staffed (step : Step p (w, pool) (w', pool')) :
    pool'.crew.members.length = pool.crew.members.length := by
  cases step with
  | worker inner => exact inner.length_eq
  | takeResult | takeFailure | timeout | wait | release | drain | drained | close | finish => rfl

variable {workers : Nat}

theorem Underway.keeps {a b : Workbench × Pool p} (underway : Underway set paths workers a)
    (step : Step p a b) : Underway set paths workers b := by
  obtain ⟨serves, valid⟩ := step.keeps underway.serves underway.valid
  exact ⟨serves, valid, step.awaited underway.awaited, step.staffed.trans underway.staffed⟩

theorem underway_start (serves : w.Serves p.stopwordFile set) (fits : ∀ path, p.Fits set path)
    (positive : 0 < workers) (paths : List Path) :
    Underway set paths workers (w, start p workers paths .waiting) where
  serves := serves
  valid := valid_start positive fits paths (.inr rfl)
  awaited := ⟨by simp [start], rfl, rfl⟩
  staffed := List.length_replicate

/-- An awaited report is that of the paths in the order in which they came to be done. -/
theorem Underway.report {a : Workbench × Pool p} (underway : Underway set paths workers a)
    {gathered : Except Crash Report} (reported : a.2.orchestrator.report? = some gathered) :
    ∃ done, gathered = Workers.report (done.map (p.outcome set)) ∧ List.Perm done paths ∧
      (workers = 1 → done = paths) ∧
      a.2.allResults = Workers.results (done.map (p.outcome set)) ∧
      a.2.allFailures = Workers.failures (done.map (p.outcome set)) := by
  obtain ⟨past, results, failures, same, gotResults, gotFailures⟩ :=
    underway.valid.items_of_report reported
  obtain ⟨done, perm, inOrder, allResults, allFailures⟩ := underway.valid.done_of_released past
  rw [underway.awaited.noResult, List.nil_append, allResults] at gotResults
  rw [underway.awaited.noFailure, List.nil_append, allFailures] at gotFailures
  refine ⟨done, ?_, perm, fun one => inOrder (underway.staffed.trans one), allResults, allFailures⟩
  rw [same, ← gotResults, ← gotFailures]
  rfl

/-- An order in which the crew can deliver all paths is one of a report. -/
theorem exists_report_of_delivers (serves : w.Serves p.stopwordFile set)
    (fits : ∀ path, p.Fits set path) (positive : 0 < workers) {done : List Path}
    {b : Workbench × Crew (fileCraft p)}
    (delivers : Crew.Delivers (p.outcome set) (w, .start (fileCraft p) workers paths false) done b)
    (all : done.Perm paths) :
    ∃ last, Reaches (Step p) (w, start p workers paths .waiting) last ∧
      last.2.orchestrator.report? = some (Workers.report (done.map (p.outcome set))) := by
  obtain ⟨barrier, run⟩ := reaches_of_delivers delivers (start p workers paths .waiting) rfl
  have there := run.keeps Underway.keeps (underway_start serves fits positive paths)
  obtain ⟨last, rest, reported⟩ := exists_report there.serves there.valid
  obtain ⟨gathered, same⟩ := Option.ne_none_iff_exists'.mp reported
  obtain ⟨order, answer, perm, -, results, failures⟩ :=
    (rest.keeps Underway.keeps there).report same
  -- nothing is missing from what was delivered, so nothing can have come after it
  have equal : (order.map (p.outcome set)).Perm (done.map (p.outcome set)) :=
    (perm.trans all.symm).map _
  obtain ⟨moreResults, moreFailures⟩ := arrivals_of_reaches rest
  rw [results] at moreResults
  rw [failures] at moreFailures
  have sameResults := moreResults.eq_of_length (equal.filterMap _).length_eq.symm
  have sameFailures := moreFailures.eq_of_length (equal.filterMap _).length_eq.symm
  refine ⟨last, run.trans rest, ?_⟩
  rw [same, answer, Workers.report, ← sameResults, ← sameFailures]
  rfl

theorem exists_report_in_order (serves : w.Serves p.stopwordFile set)
    (fits : ∀ path, p.Fits set path) (positive : 0 < workers) (paths : List Path) :
    ∃ last, Reaches (Step p) (w, start p workers paths .waiting) last ∧
      last.2.orchestrator.report? = some (Workers.report (paths.map (p.outcome set))) := by
  obtain ⟨b, delivers⟩ :=
    Crew.exists_delivers_in_order (fileLaw p set) serves (fun path _ => fits path) positive false
  exact exists_report_of_delivers serves fits positive delivers (.refl paths)

/-- With two workers or more, a path can come after any number of those behind it. -/
theorem exists_report_late (serves : w.Serves p.stopwordFile set) (fits : ∀ path, p.Fits set path)
    (several : 2 ≤ workers) (before between after : List Path) (late : Path) :
    ∃ last, Reaches (Step p)
        (w, start p workers (before ++ late :: (between ++ after)) .waiting) last ∧
      last.2.orchestrator.report? =
        some (Workers.report ((before ++ (between ++ late :: after)).map (p.outcome set))) := by
  have positive : 0 < workers := by omega
  obtain ⟨b, delivers⟩ :=
    Crew.exists_delivers_late (fileLaw p set) serves (fun path _ => fits path) several false
  refine exists_report_of_delivers serves fits positive delivers (.append_left before ?_)
  exact List.perm_middle

end Pool

end CorpusTally
