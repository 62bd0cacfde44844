import CorpusTally.Proofs.Pool.Arrivals

/-!
Every path that a pool was given becomes one outcome, and it is that of the path by itself. What is taken
early and what the report says are these outcomes, each of them once.
-/

namespace CorpusTally

/-- What becomes of a path that is counted alone. A crash of its source is a failure of the path. -/
inductive FileCounter.Alone (p : FileCounter) (w : Workbench) (path : Path) : Outcome → Prop
  | counted {result left} (ends : p.count w path = .ok (.ok result, left)) : Alone p w path (.ok result)
  | failed {e left} (ends : p.count w path = .ok (.error e, left)) : Alone p w path (.error ⟨path, e⟩)
  | crashed {crash} (source : p.corpus path = .error crash) :
      Alone p w path (.error ⟨path, .workerCrash path crash.message⟩)

theorem FileCounter.alone_iff {p : FileCounter} {set : StopwordSet} {w : Workbench}
    (serves : w.Serves p.stopwordFile set) {path : Path} (fits : p.Fits set path) {outcome : Outcome} :
    p.Alone w path outcome ↔ outcome = p.outcome set path := by
  rw [← (Workers.work_eq serves fits).1]
  unfold Workers.work
  constructor
  · intro alone
    cases alone with
    | counted ends | failed ends => rw [ends]
    | @crashed crash source =>
      have ends : p.count w path = .error crash := by simp [count, source, bind, Except.bind]
      rw [ends]
  · rintro rfl
    rcases ends : p.count w path with crash | ⟨e | result, left⟩
    · exact .crashed (corpus_of_count serves fits ends)
    · exact .failed ends
    · exact .counted ends

theorem FileCounter.forall₂_alone_iff {p : FileCounter} {set : StopwordSet} {w : Workbench}
    (serves : w.Serves p.stopwordFile set) (fits : ∀ path, p.Fits set path) {paths : List Path}
    {outcomes : List Outcome} :
    List.Forall₂ (p.Alone w) paths outcomes ↔ outcomes = paths.map (p.outcome set) := by
  have related : p.Alone w = fun path outcome => p.outcome set path = outcome :=
    funext₂ fun path outcome => propext ((alone_iff serves (fits path)).trans eq_comm)
  rw [related, ← List.forall₂_map_left_iff, List.forall₂_eq_eq_eq, eq_comm]

namespace Workers

theorem results_of_items (counted : List FileTally) (failed : List FailedFile) :
    results (counted.map Except.ok ++ failed.map Except.error) = counted := by
  have none : failed.filterMap (fun _ => (none : Option FileTally)) = [] :=
    List.filterMap_eq_nil_iff.mpr fun _ _ => rfl
  rw [results, List.filterMap_append, List.filterMap_map, List.filterMap_map]
  exact (congrArg (_ ++ ·) none).trans ((List.append_nil _).trans List.filterMap_some)

theorem failures_of_items (counted : List FileTally) (failed : List FailedFile) :
    failures (counted.map Except.ok ++ failed.map Except.error) = failed := by
  have none : counted.filterMap (fun _ => (none : Option FailedFile)) = [] :=
    List.filterMap_eq_nil_iff.mpr fun _ _ => rfl
  rw [failures, List.filterMap_append, List.filterMap_map, List.filterMap_map]
  exact (congrArg (· ++ _) none).trans List.filterMap_some

theorem items_perm (outcomes : List Outcome) :
    ((results outcomes).map Except.ok ++ (failures outcomes).map Except.error).Perm outcomes := by
  induction outcomes with
  | nil => exact .nil
  | cons outcome outcomes ih =>
    cases outcome with
    | ok result => exact ih.cons _
    | error failure => exact List.perm_middle.trans (ih.cons _)

theorem perm_of_items {counted : List FileTally} {failed : List FailedFile} {outcomes : List Outcome}
    (perm : (counted.map Except.ok ++ failed.map Except.error).Perm outcomes) :
    counted.Perm (results outcomes) ∧ failed.Perm (failures outcomes) := by
  have sameResults : (results _).Perm (results outcomes) := perm.filterMap _
  have sameFailures : (failures _).Perm (failures outcomes) := perm.filterMap _
  rw [results_of_items] at sameResults
  rw [failures_of_items] at sameFailures
  exact ⟨sameResults, sameFailures⟩

end Workers

namespace Pool

/-- However the threads take turns and whatever is taken early, there is one outcome for each path as
often as the path was given, and each is in the report or was taken before. A report can be had from
every state, and fails only where one of its numbers needs more than 64 bits. -/
theorem outcomes_of_reaches (p : FileCounter) (holds : p.Holds) (w : Workbench)
    (clean : w.tokenizer.buffers.Clean) (paths : List Path) {workers : Nat}
    (positive : 0 < workers) :
    ∀ left pool, Reaches (Step p) (w, start p workers paths .free) (left, pool) →
      (∃ last, Reaches (Step p) (left, pool) last ∧ last.2.orchestrator.report? ≠ none) ∧
      ∀ gathered, pool.orchestrator.report? = some gathered →
        ∃ outcomes results failures,
          List.Forall₂ (p.Alone w) paths outcomes ∧
          ((pool.takenResults ++ results).map Except.ok ++
            (pool.takenFailures ++ failures).map Except.error).Perm outcomes ∧
          gathered = if Report.Fits results failures then .ok (.ofItems results failures)
            else .error .sumTooLarge := by
  intro left pool run
  have serves : w.Serves p.stopwordFile (w.tokenizer.stopwords.view p.stopwordFile) := ⟨rfl, clean⟩
  have fits := holds.fits (w.tokenizer.stopwords.view p.stopwordFile)
  obtain ⟨after, valid⟩ : left.Serves p.stopwordFile _ ∧ pool.Valid _ paths :=
    run.keeps (fun ok step => step.keeps ok.1 ok.2)
      ⟨serves, valid_start positive fits paths (.inl rfl)⟩
  refine ⟨exists_report after valid, fun gathered reported => ?_⟩
  obtain ⟨past, results, failures, same, gotResults, gotFailures⟩ := valid.items_of_report reported
  obtain ⟨done, perm, -, allResults, allFailures⟩ := valid.done_of_released past
  refine ⟨_, results, failures, (FileCounter.forall₂_alone_iff serves fits).mpr rfl, ?_,
    same.trans (Workers.gather_eq results failures)⟩
  rw [← gotResults, ← gotFailures, allResults, allFailures]
  exact (Workers.items_perm _).trans (perm.map _)

def mixedSource : FileCounter where
  corpus := fun path =>
    if path = .ofString "a.txt" then .ok (.ok (Utf8.encode "the cat the"))
    else if path = .ofString "b.txt" then .ok (.error (.read path .notFound))
    else .error (.raised "boom")
  stopwordFile := fun _ => .error .notText
  decoding := .lossy
  counters := 2

private theorem mixedSource_holds : mixedSource.Holds := by
  intro path bytes read
  simp only [mixedSource] at read
  split at read
  · obtain rfl := Except.ok.inj (Except.ok.inj read)
    decide
  · split at read <;> cases read

def withoutThe : Workbench := { tokenizer := { stopwords := { origin := .words ["the"] } } }

def oneCat : FileTally := ⟨"a.txt", [⟨"cat", 1⟩]⟩

private theorem outcome_of_file :
    mixedSource.outcome (.ofWords ["the"]) (.ofString "a.txt") = .ok oneCat := by
  have counted :
      (mixedSource.outcome (.ofWords ["the"]) (.ofString "a.txt")).toOption = some oneCat := by
    decide +kernel
  cases outcome : mixedSource.outcome (.ofWords ["the"]) (.ofString "a.txt") with
  | error e => simp [outcome, Except.toOption] at counted
  | ok result => simpa [outcome, Except.toOption] using counted

def mixedPaths : List Path := [.ofString "a.txt", .ofString "b.txt", .ofString "a.txt", .ofString "c.txt"]

def mixedFailures : List FailedFile :=
  [⟨.ofString "b.txt", .read (.ofString "b.txt") .notFound⟩,
    ⟨.ofString "c.txt", .workerCrash (.ofString "c.txt") "boom"⟩]

private theorem serves_withoutThe : withoutThe.Serves mixedSource.stopwordFile (.ofWords ["the"]) :=
  ⟨rfl, by simp [withoutThe, Buffers.Clean]⟩

private theorem items_of_mixed {outcomes : List Outcome}
    (alone : List.Forall₂ (mixedSource.Alone withoutThe) mixedPaths outcomes) :
    Workers.results outcomes = [oneCat, oneCat] ∧ Workers.failures outcomes = mixedFailures := by
  rw [(FileCounter.forall₂_alone_iff serves_withoutThe (mixedSource_holds.fits _)).mp alone]
  simp only [mixedPaths, List.map_cons, List.map_nil, outcome_of_file]
  exact ⟨rfl, rfl⟩

/-- After a look in vain, the second path is done before the first one, and a result is taken. -/
private theorem exists_taken_early :
    ∃ left pool, Reaches (Step mixedSource) (withoutThe, start mixedSource 2 mixedPaths .free) (left, pool) ∧
      pool.takenResults = [oneCat] := by
  let first : Path := .ofString "a.txt"
  let second : Path := .ofString "b.txt"
  let third : Path := .ofString "c.txt"
  obtain ⟨b, delivers⟩ : ∃ b, Crew.Delivers (mixedSource.outcome (.ofWords ["the"]))
      (withoutThe, .start (fileCraft mixedSource) 2 ([] ++ first :: ([second] ++ [first, third])) false)
      ([] ++ ([second] ++ first :: [first, third])) b :=
    Crew.exists_delivers_late (fileLaw mixedSource _) serves_withoutThe
      (fun path _ => mixedSource_holds.fits _ path) (Nat.le_refl 2) false
  obtain ⟨barrier, run⟩ := reaches_of_delivers delivers (start mixedSource 2 mixedPaths .free) rfl
  have results : Workers.results (([] ++ ([second] ++ first :: [first, third])).map
      (mixedSource.outcome (.ofWords ["the"]))) = [oneCat, oneCat] := by
    simp only [List.nil_append, List.singleton_append, List.map_cons, List.map_nil, first, outcome_of_file]
    rfl
  rw [results] at run
  exact ⟨_, _, .head (.timeout rfl rfl) (.tail run (.takeResult rfl rfl)), rfl⟩

private theorem fits_of_append {taken results : List FileTally}
    {takenFailures failures : List FailedFile}
    (fits : Report.Fits (taken ++ results) (takenFailures ++ failures)) : Report.Fits results failures := by
  obtain ⟨files, words, failed⟩ := fits
  simp only [wordsIn, List.map_append, List.sum_append, List.length_append] at files words failed
  exact ⟨by omega, by rw [wordsIn]; omega, by omega⟩

/-- Two workers for a file that is given twice, one that is not there, and a crash. -/
theorem exists_report_of_mixed :
    ∃ left pool report,
      Reaches (Step mixedSource) (withoutThe, start mixedSource 2 mixedPaths .free) (left, pool) ∧
      pool.orchestrator.report? = some (.ok report) ∧ oneCat ∈ pool.takenResults ∧
      (pool.takenResults ++ report.results).Perm [oneCat, oneCat] ∧
      (pool.takenFailures ++ report.failures).Perm mixedFailures := by
  have every := outcomes_of_reaches mixedSource mixedSource_holds withoutThe serves_withoutThe.2 mixedPaths
    (show 0 < 2 by decide)
  obtain ⟨early, middle, start, taken⟩ := exists_taken_early
  obtain ⟨⟨left, pool⟩, rest, reported⟩ := (every early middle start).1
  have run := start.trans rest
  obtain ⟨gathered, same⟩ := Option.ne_none_iff_exists'.mp reported
  obtain ⟨outcomes, results, failures, alone, perm, answer⟩ := (every left pool run).2 gathered same
  obtain ⟨sameResults, sameFailures⟩ := items_of_mixed alone
  obtain ⟨allResults, allFailures⟩ := Workers.perm_of_items perm
  rw [sameResults] at allResults
  rw [sameFailures] at allFailures
  have fits : Report.Fits results failures :=
    fits_of_append (Report.Fits.perm (by decide) allResults.symm allFailures.symm)
  rw [if_pos fits] at answer
  refine ⟨left, pool, _, run, answer ▸ same, ?_, allResults, allFailures⟩
  exact (taken_of_reaches rest).1.subset (by simp [taken])

end Pool

end CorpusTally
