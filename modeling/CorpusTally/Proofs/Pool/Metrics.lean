import CorpusTally.Proofs.Counting.Records
import CorpusTally.Proofs.Pool.Arrivals
import Mathlib.Algebra.Order.BigOperators.Group.List

/-!
The counters of a pool and the numbers of its report. They are kept in different places, the one as the
workers go on and the other from what they deliver. A path adds to the counters once, whatever becomes of
it, and so both come to the same.
-/

namespace CorpusTally

structure FetchedFile where
  path : Path
  size : Nat
  text : String

namespace FileCounter

variable {p : FileCounter} {set : StopwordSet}

def textOf (p : FileCounter) (path : Path) : String :=
  match p.fetch path with
  | .ok (.ok (_, text)) => text
  | .ok (.error _) | .error _ => ""

def fetched (p : FileCounter) (paths : List Path) : List FetchedFile :=
  paths.filterMap fun path =>
    match p.fetch path with
    | .ok (.ok (size, text)) => some ⟨path, size, text⟩
    | .ok (.error _) | .error _ => none

def price (p : FileCounter) (set : StopwordSet) (path : Path) : Stats :=
  match p.fetch path with
  | .ok (.ok (size, text)) =>
    CountTask.price set p.counters text + .ofEvent (.fileProcessed size.toUInt64)
  | .ok (.error _) | .error _ => .ofEvent .fileFailed

end FileCounter

theorem FileCounter.stats_of_countText {p : FileCounter} {set : StopwordSet} {w left : Workbench}
    {path : Path} {size : Nat} {text : String} {result : FileTally}
    (serves : w.Serves p.stopwordFile set) (fits : Countable set text)
    (ends : p.countText w path size text = .ok (result, left)) :
    left.stats = w.stats +
      (CountTask.price set p.counters text + .ofEvent (.fileProcessed size.toUInt64)) := by
  obtain ⟨next, counted, -⟩ := Workbench.count_eq serves fits p.counters
  have booked := Workbench.stats_of_count serves fits counted
  have total := (textTally_counts fits).total fits
  generalize (keptTokens set text).length.toUInt64 = words at total
  simp only [countText, counted, total, bind, Except.bind, pure, Except.pure, Except.ok.injEq,
    Prod.mk.injEq] at ends
  obtain ⟨-, rfl⟩ := ends
  rw [Workbench.note, Workbench.stats_record, booked, add_assoc]

namespace FileTask

variable {p : FileCounter} {set : StopwordSet} {path : Path} {w w' : Workbench}
variable {task task' : FileTask p}

def owed (set : StopwordSet) (path : Path) : FileTask p → Stats
  | opened _ => p.price set path
  | counting _ size task =>
    task.owed set p.counters (p.textOf path) + .ofEvent (.fileProcessed size.toUInt64)
  | failing _ _ | raised _ _ => .ofEvent .fileFailed
  | settled _ => 0

private theorem owed_fetched (path : Path) :
    (fetched p path (p.fetch path)).owed set path = p.price set path := by
  match found : p.fetch path with
  | .ok (.ok (size, text)) =>
    simp only [fetched, owed, FileCounter.price, FileCounter.textOf, found, CountTask.owed]
  | .ok (.error e) => simp only [fetched, owed, FileCounter.price, found]
  | .error crash => simp only [fetched, owed, FileCounter.price, found]

theorem Step.books (step : Step p (w, task) (w', task')) (serves : w.Serves p.stopwordFile set)
    (valid : task.Valid set path) :
    w'.stats + task'.owed set path = w.stats + task.owed set path := by
  cases step with
  | @fetch _ opened =>
    have same : opened = path := valid
    subst same
    rw [owed_fetched, owed]
  | count inner =>
    obtain ⟨-, text, found, countable, kept⟩ := valid
    have booked := inner.books serves countable kept
    simp only [owed, FileCounter.textOf, found, ← add_assoc, booked]
  | counted done => rw [w.stats_record, owed, owed, CountTask.owed_of_result? done, zero_add, add_zero]
  | overflow done sum =>
    obtain ⟨_, total, same, fine⟩ := valid.exists_total done
    obtain rfl := Except.ok.inj same
    rw [sum] at fine
    cases fine
  | crash done =>
    obtain ⟨_, _, impossible, -⟩ := valid.exists_total done
    cases impossible
  | fail | rescue => rw [w.stats_record, owed, owed, add_zero]

theorem owed_of_result? {result : Except Crash Outcome} (done : task.result? = some result) :
    task.owed set path = 0 := by
  cases task <;> simp [result?] at done
  rfl

end FileTask

def fileAccount (p : FileCounter) (set : StopwordSet) : (fileLaw p set).Account Stats where
  booked := Workbench.stats
  price := p.price set
  owed := fun path task => task.owed set path
  begins := fun _ => rfl
  keeps := fun serves valid step => step.books serves valid.2
  ends := fun _ done => FileTask.owed_of_result? done

namespace Workers

variable {p : FileCounter} {set : StopwordSet} {path : Path} {w : Workbench}

theorem stats_work (serves : w.Serves p.stopwordFile set) (fits : p.Fits set path) :
    (work p w path).2.stats = w.stats + p.price set path := by
  obtain ⟨events, counted⟩ := p.count_eq_fetched w path
  match fetched : p.fetch path with
  | .error crash =>
    simp only [fetched] at counted
    simp only [work, counted, FileCounter.price, fetched]
    exact w.stats_record .fileFailed
  | .ok (.error e) =>
    simp only [fetched] at counted
    simp only [work, counted, FileCounter.price, fetched]
    exact (w.note (FileCounter.startEvent path)).stats_record .fileFailed
  | .ok (.ok (size, text)) =>
    have noted : ({ w with log := events } : Workbench).Serves p.stopwordFile set := serves
    have countable := fits size text fetched
    obtain ⟨left, same, -⟩ := FileCounter.countText_eq noted countable path size
    have booked := FileCounter.stats_of_countText noted countable same
    simp only [fetched, same, Except.map] at counted
    simp only [work, counted, FileCounter.price, fetched]
    exact booked

/-- Paths that are worked on one after the other add their prices. -/
theorem stats_runFrom (serves : w.Serves p.stopwordFile set) (fits : ∀ path, p.Fits set path)
    (paths : List Path) :
    (runFrom p w paths).2.stats = w.stats + (fileAccount p set).prices paths := by
  induction paths generalizing w with
  | nil => exact (add_zero _).symm
  | cons path paths ih =>
    have first := stats_work serves (fits path)
    have rest := ih (work_eq serves (fits path)).2
    rw [first, add_assoc] at rest
    exact rest

end Workers

namespace FileCounter

variable {p : FileCounter} {set : StopwordSet} {path : Path} {size : Nat} {text : String}

def wordsOf (p : FileCounter) (set : StopwordSet) (paths : List Path) : Nat :=
  ((p.fetched paths).map fun file => (keptTokens set file.text).length).sum

private theorem fetched_cons (found : p.fetch path = .ok (.ok (size, text))) (paths : List Path) :
    p.fetched (path :: paths) = ⟨path, size, text⟩ :: p.fetched paths := by
  simp [fetched, found]

theorem outcome_of_fetch (found : p.fetch path = .ok (.ok (size, text))) :
    p.outcome set path = .ok (.ofCounts path (textTally set text)) := by
  rw [outcome, found]

theorem price_of_fetch (found : p.fetch path = .ok (.ok (size, text))) :
    p.price set path =
      .ofNumbers 1 0 size (chunkCount p.counters text) (keptTokens set text).length := by
  simp only [price, found, CountTask.price, Stats.ofEvent_fileProcessed, Stats.ofNumbers_add,
    Nat.zero_add, Nat.add_zero]

private theorem fetch_cases (p : FileCounter) (set : StopwordSet) (path : Path) :
    (∃ size text, p.fetch path = .ok (.ok (size, text))) ∨
      (∃ failure, p.outcome set path = .error failure) ∧
      p.price set path = .ofNumbers 0 1 0 0 0 ∧
      ∀ paths, p.fetched (path :: paths) = p.fetched paths := by
  match found : p.fetch path with
  | .ok (.ok (size, text)) => exact .inl ⟨size, text, rfl⟩
  | .ok (.error e) =>
    refine .inr ⟨⟨⟨path, e⟩, by rw [outcome, found]⟩,
      by rw [price, found, Stats.ofEvent_fileFailed], fun paths => ?_⟩
    simp [fetched, found]
  | .error crash =>
    refine .inr ⟨⟨⟨path, .workerCrash path crash.message⟩, by rw [outcome, found]⟩,
      by rw [price, found, Stats.ofEvent_fileFailed], fun paths => ?_⟩
    simp [fetched, found]

theorem results_eq (p : FileCounter) (set : StopwordSet) (paths : List Path) :
    Workers.results (paths.map (p.outcome set)) =
      (p.fetched paths).map fun file => .ofCounts file.path (textTally set file.text) := by
  induction paths with
  | nil => rfl
  | cons path paths ih =>
    rcases p.fetch_cases set path with ⟨size, text, found⟩ | ⟨⟨failure, failed⟩, -, unread⟩
    · rw [fetched_cons found, List.map_cons, List.map_cons, outcome_of_fetch found, ← ih]
      rfl
    · rw [unread, ← ih, List.map_cons, failed]
      rfl

theorem length_failures (p : FileCounter) (set : StopwordSet) (paths : List Path) :
    (p.fetched paths).length + (Workers.failures (paths.map (p.outcome set))).length =
      paths.length := by
  induction paths with
  | nil => rfl
  | cons path paths ih =>
    rw [List.map_cons, List.length_cons, ← ih]
    rcases p.fetch_cases set path with ⟨size, text, found⟩ | ⟨⟨failure, failed⟩, -, unread⟩
    · rw [fetched_cons found, outcome_of_fetch found, List.length_cons, Nat.add_right_comm]
      rfl
    · rw [unread, failed]
      rfl

theorem fetch_of_mem {paths : List Path} {file : FetchedFile} (mem : file ∈ p.fetched paths) :
    p.fetch file.path = .ok (.ok (file.size, file.text)) := by
  obtain ⟨path, -, read⟩ := List.mem_filterMap.mp mem
  match found : p.fetch path with
  | .ok (.error e) | .error crash => simp [found] at read
  | .ok (.ok (size, text)) =>
    obtain rfl : ⟨path, size, text⟩ = file := by simpa [found] using read
    exact found

theorem wordsIn_results (fits : ∀ path, p.Fits set path) (paths : List Path) :
    wordsIn (Workers.results (paths.map (p.outcome set))) = p.wordsOf set paths := by
  have counted : ∀ file ∈ p.fetched paths,
      sumOf ((FileTally.ofCounts file.path (textTally set file.text)).words.map (·.count)) =
        (keptTokens set file.text).length := by
    intro file mem
    have countable := fits file.path file.size file.text (fetch_of_mem mem)
    exact (FileTally.sumOf_ofCounts file.path _).trans ((textTally_counts countable).mass_eq countable)
  rw [results_eq, wordsIn, List.map_map, wordsOf]
  exact congrArg List.sum (List.map_congr_left counted)

theorem report_fits (fits : ∀ path, p.Fits set path) {paths : List Path} (few : paths.length < 2 ^ 64)
    (sum : p.wordsOf set paths < 2 ^ 64) :
    Report.Fits (Workers.results (paths.map (p.outcome set)))
      (Workers.failures (paths.map (p.outcome set))) := by
  have all := p.length_failures set paths
  have results : (Workers.results (paths.map (p.outcome set))).length = (p.fetched paths).length := by
    rw [results_eq, List.length_map]
  exact ⟨by omega, by rwa [wordsIn_results fits], by omega⟩

theorem wordsOf_le (p : FileCounter) (set : StopwordSet) (paths : List Path) :
    p.wordsOf set paths ≤ ((p.fetched paths).map fun file => file.size).sum :=
  List.sum_le_sum fun _ mem => length_keptTokens_of_fetch (fetch_of_mem mem) set

theorem prices_eq (p : FileCounter) (set : StopwordSet) (paths : List Path) :
    (fileAccount p set).prices paths = .ofNumbers (p.fetched paths).length
      (Workers.failures (paths.map (p.outcome set))).length
      ((p.fetched paths).map fun file => file.size).sum
      ((p.fetched paths).map fun file => chunkCount p.counters file.text).sum
      (p.wordsOf set paths) := by
  induction paths with
  | nil => rfl
  | cons path paths ih =>
    have first : (fileAccount p set).prices (path :: paths) =
        p.price set path + (fileAccount p set).prices paths := List.sum_cons
    rw [first, ih, List.map_cons]
    rcases p.fetch_cases set path with ⟨size, text, found⟩ | ⟨⟨failure, failed⟩, price, unread⟩
    · rw [price_of_fetch found, Stats.ofNumbers_add, outcome_of_fetch found, wordsOf, wordsOf,
        fetched_cons found, List.length_cons, Nat.add_comm 1, Nat.zero_add]
      rfl
    · rw [price, Stats.ofNumbers_add, failed, wordsOf, wordsOf, unread]
      simp only [Nat.zero_add, Nat.add_comm 1]
      rfl

end FileCounter

namespace Pool

variable {p : FileCounter} {set : StopwordSet} {paths : List Path} {w w' : Workbench}
variable {pool pool' : Pool p}

theorem Step.books (step : Step p (w, pool) (w', pool')) (serves : w.Serves p.stopwordFile set)
    (valid : pool.Valid set paths) :
    w'.stats + pool'.crew.owed (fileAccount p set) = w.stats + pool.crew.owed (fileAccount p set) := by
  cases step with
  | worker inner => exact inner.books (fileAccount p set) serves valid.crew
  | takeResult | takeFailure | timeout | wait | release | drain | drained | close | finish => rfl

/-- What is recorded and what is still owed make up all that the paths add. -/
structure Accounted (set : StopwordSet) (paths : List Path) (workers : Nat) (a : Workbench × Pool p) :
    Prop extends Underway set paths workers a where
  balance : a.1.stats + a.2.crew.owed (fileAccount p set) = (fileAccount p set).prices paths

variable {workers : Nat} {a b : Workbench × Pool p}

theorem Accounted.keeps (accounted : Accounted set paths workers a) (step : Step p a b) :
    Accounted set paths workers b where
  toUnderway := accounted.toUnderway.keeps step
  balance := (step.books accounted.serves accounted.valid).trans accounted.balance

theorem accounted_start (serves : w.Serves p.stopwordFile set) (fresh : w.stats = {})
    (fits : ∀ path, p.Fits set path) (positive : 0 < workers) (paths : List Path) :
    Accounted set paths workers (w, start p workers paths .waiting) where
  toUnderway := underway_start serves fits positive paths
  balance := by
    rw [fresh, ← Stats.zero_def, zero_add]
    exact Crew.owed_start _ _ _ _

theorem Accounted.stats_of_report (accounted : Accounted set paths workers a)
    {gathered : Except Crash Report} (reported : a.2.orchestrator.report? = some gathered) :
    a.1.stats = (fileAccount p set).prices paths := by
  -- a report is there only when the crew is done, and then nothing is owed
  have past := (accounted.valid.items_of_report reported).1
  have balance := accounted.balance
  rw [accounted.valid.crew.owed_of_over _ (accounted.valid.released past), add_zero] at balance
  exact balance

private theorem Underway.exists_items (underway : Underway set paths workers a)
    {gathered : Except Crash Report} (reported : a.2.orchestrator.report? = some gathered) :
    ∃ results failures, gathered = Workers.gather results failures ∧
      results.Perm (Workers.results (paths.map (p.outcome set))) ∧
      failures.Perm (Workers.failures (paths.map (p.outcome set))) := by
  obtain ⟨done, same, perm, -⟩ := underway.report reported
  exact ⟨_, _, same, (perm.map _).filterMap _, (perm.map _).filterMap _⟩

theorem Underway.exists_report_of_words (underway : Underway set paths workers a)
    (fits : ∀ path, p.Fits set path) {gathered : Except Crash Report}
    (reported : a.2.orchestrator.report? = some gathered) (few : paths.length < 2 ^ 64)
    (sum : p.wordsOf set paths < 2 ^ 64) : ∃ report, gathered = .ok report := by
  obtain ⟨results, failures, same, counted, failed⟩ := underway.exists_items reported
  have whole := (FileCounter.report_fits fits few sum).perm counted.symm failed.symm
  exact ⟨_, by rw [same, Workers.gather_eq, if_pos whole]⟩

theorem Underway.numbers_of_report (underway : Underway set paths workers a)
    (fits : ∀ path, p.Fits set path) {report : Report}
    (reported : a.2.orchestrator.report? = some (.ok report)) :
    report.filesAnalyzed = (p.fetched paths).length.toUInt64 ∧
      report.filesFailed = (Workers.failures (paths.map (p.outcome set))).length.toUInt64 ∧
      report.totalWords = (p.wordsOf set paths).toUInt64 ∧
      report.filesAnalyzed.toNat = (p.fetched paths).length ∧
      report.filesAnalyzed.toNat + report.filesFailed.toNat = paths.length := by
  obtain ⟨results, failures, same, counted, failed⟩ := underway.exists_items reported
  have count : results.length = (p.fetched paths).length := by
    rw [counted.length_eq, FileCounter.results_eq, List.length_map]
  have words : wordsIn results = p.wordsOf set paths := by
    rw [wordsIn_perm counted, FileCounter.wordsIn_results fits]
  have sound := Report.exact_of_gather same.symm
  rw [Workers.gather_eq] at same
  obtain ⟨-, rfl⟩ := Report.eq_ofItems_of_ok same.symm
  have analyzed : results.length.toUInt64.toNat = results.length := sound.analyzed
  have failing : failures.length.toUInt64.toNat = failures.length := sound.failed
  have all := p.length_failures set paths
  rw [← count, ← failed.length_eq] at all
  rw [← count, ← words, ← failed.length_eq]
  exact ⟨rfl, rfl, rfl, analyzed, by rw [Report.ofItems, analyzed, failing, all]⟩

/-- However the threads take turns, fresh counters end as they do after one path at a time, and with the
numbers of the report: each file that could be read is counted once with its bytes, its chunks and its words,
and each other path is one failure. -/
theorem metrics_of_reaches (p : FileCounter) (holds : p.Holds) (w : Workbench)
    (clean : w.tokenizer.buffers.Clean) (fresh : w.stats = {}) (paths : List Path) {workers : Nat}
    (positive : 0 < workers) :
    ∀ left pool, Reaches (Step p) (w, start p workers paths .waiting) (left, pool) →
      (∃ last, Reaches (Step p) (left, pool) last ∧ last.2.orchestrator.report? ≠ none) ∧
      ∀ gathered, pool.orchestrator.report? = some gathered →
        (paths.length < 2 ^ 64 →
          p.wordsOf (w.tokenizer.stopwords.view p.stopwordFile) paths < 2 ^ 64 →
          ∃ report, gathered = .ok report) ∧
        ∀ report, gathered = .ok report →
          left.stats = (Workers.runFrom p w paths).2.stats ∧
          left.stats.filesProcessed = report.filesAnalyzed ∧
          left.stats.filesFailed = report.filesFailed ∧
          left.stats.tokensCounted = report.totalWords ∧
          left.stats.bytesRead.toNat = ((p.fetched paths).map fun file => file.size).sum % 2 ^ 64 ∧
          left.stats.chunksProcessed.toNat =
            ((p.fetched paths).map fun file => chunkCount p.counters file.text).sum % 2 ^ 64 ∧
          report.filesAnalyzed.toNat = (p.fetched paths).length ∧
          report.filesAnalyzed.toNat + report.filesFailed.toNat = paths.length := by
  intro left pool run
  have serves : w.Serves p.stopwordFile (w.tokenizer.stopwords.view p.stopwordFile) := ⟨rfl, clean⟩
  generalize w.tokenizer.stopwords.view p.stopwordFile = set at serves ⊢
  have fits := holds.fits set
  have accounted := run.keeps Accounted.keeps (accounted_start serves fresh fits positive paths)
  refine ⟨exists_report accounted.serves accounted.valid, fun gathered reported =>
    ⟨accounted.exists_report_of_words fits reported, fun report ends => ?_⟩⟩
  subst ends
  obtain ⟨analyzed, failed, words, count, all⟩ := accounted.numbers_of_report fits reported
  have inTurn := Workers.stats_runFrom serves fits paths
  rw [fresh, ← Stats.zero_def, zero_add] at inTurn
  rw [inTurn, accounted.stats_of_report reported, FileCounter.prices_eq]
  exact ⟨rfl, analyzed.symm, failed.symm, words.symm, UInt64.toNat_ofNat', UInt64.toNat_ofNat', count, all⟩

def oneFile : FileCounter where
  corpus := fun path =>
    if path = .ofString "a.txt" then .ok (.ok (Utf8.encode "the cat")) else .error (.raised "boom")
  stopwordFile := fun _ => .error .notText
  decoding := .lossy
  counters := 2

private theorem oneFile_holds : oneFile.Holds := by
  intro path bytes read
  simp only [oneFile] at read
  split at read
  · obtain rfl := Except.ok.inj (Except.ok.inj read)
    decide
  · cases read

/-- Three workers for the file and a path that crashes. -/
theorem exists_metrics_of_crash :
    ∃ left pool report,
      Reaches (Step oneFile) (({ tokenizer := { stopwords := { origin := .words ["the"] } } } : Workbench),
        start oneFile 3 [.ofString "a.txt", .ofString "b.txt"] .waiting) (left, pool) ∧
      pool.orchestrator.report? = some (.ok report) ∧
      report.filesAnalyzed.toNat = 1 ∧ report.filesFailed.toNat = 1 ∧
      left.stats.filesFailed = report.filesFailed ∧ left.stats.tokensCounted = report.totalWords ∧
      left.stats.bytesRead.toNat = 7 ∧ left.stats.chunksProcessed.toNat = 1 := by
  have every := metrics_of_reaches oneFile oneFile_holds
    { tokenizer := { stopwords := { origin := .words ["the"] } } } (by simp [Buffers.Clean]) rfl
    [.ofString "a.txt", .ofString "b.txt"] (show 0 < 3 by decide)
  obtain ⟨⟨left, pool⟩, run, reported⟩ := (every _ _ .refl).1
  obtain ⟨gathered, same⟩ := Option.ne_none_iff_exists'.mp reported
  obtain ⟨ends, numbers⟩ := (every left pool run).2 gathered same
  obtain ⟨report, rfl⟩ := ends (by decide) (by decide +kernel)
  obtain ⟨-, -, failed, words, bytes, chunks, analyzed, all⟩ := numbers report rfl
  have one : (oneFile.fetched [.ofString "a.txt", .ofString "b.txt"]).length = 1 := by decide +kernel
  rw [analyzed, one] at all
  refine ⟨left, pool, report, run, same, analyzed.trans one, Nat.add_left_cancel all, failed, words,
    bytes.trans ?_, chunks.trans ?_⟩
  all_goals decide +kernel

end Pool

end CorpusTally
