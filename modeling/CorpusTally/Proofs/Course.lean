import CorpusTally.Proofs.Agreement
import CorpusTally.Proofs.Pool.Reads
import CorpusTally.Proofs.Storage

/-!
The course of an analysis: the settings are checked, the files are found, the pool counts them, and there is
an answer. Refused settings and a missing root are answered before anything is read; every other answer is a
report that has each file that was found once.
-/

namespace CorpusTally

theorem Settings.config_of_refused {settings : Settings} {e : CorpusError}
    (refused : settings.concurrency = .error e) :
    (settings.workerCount = 0 ∨ settings.counterCount = 0) ∧ ∃ message, e = .config message := by
  unfold concurrency Concurrency.ofCounts at refused
  split at refused
  · next workers =>
    exact ⟨.inl (UInt64.toNat_inj.mp workers), _, (Except.error.inj refused).symm⟩
  · split at refused
    · next counters =>
      exact ⟨.inr (UInt64.toNat_inj.mp counters), _, (Except.error.inj refused).symm⟩
    · split at refused <;> cases refused

theorem Settings.counts_of_concurrency {settings : Settings} {c : Concurrency} {capped : Log}
    (staffed : settings.concurrency = .ok (c, capped)) :
    settings.workerCount ≠ 0 ∧ settings.counterCount ≠ 0 := by
  unfold concurrency Concurrency.ofCounts at staffed
  split at staffed
  · cases staffed
  · next workers =>
    split at staffed
    · cases staffed
    · next counters =>
      exact ⟨fun none => workers (by rw [none]; rfl), fun none => counters (by rw [none]; rfl)⟩

namespace FileSearch

variable {s : Surroundings} {settings : Settings}

theorem missing_of_error {e : CorpusError} (missing : files s settings = .error e) :
    s.tree.isPresent settings.rootPath = false ∧ e = missingRoot settings.rootPath := by
  simp only [files] at missing
  split at missing
  · cases missing
  · next absent => exact ⟨by simpa using absent, (Except.error.inj missing).symm⟩

theorem present_of_ok {paths : List Path} {found : Log} (search : files s settings = .ok (paths, found)) :
    s.tree.isPresent settings.rootPath = true := by
  simp only [files] at search
  split at search
  · assumption
  · cases search

theorem files_of_absent (absent : s.tree.isPresent settings.rootPath = false) :
    files s settings = .error (missingRoot settings.rootPath) := by
  simp [files, absent]

end FileSearch

namespace Analysis

variable {s : Surroundings} {settings : Settings} {reading : s.tree.Reading}

inductive Phase (reading : s.tree.Reading) (settings : Settings) where
  | checking
  | searching (c : Concurrency)
  | counting (c : Concurrency) (w : Workbench) (pool : Pool (counterFor reading settings c.counters))
  | ended (answer : Except CorpusError Report)
  | crashed (crash : Crash)

/-- Beside the phase stand the paths that have been read. Only the pool reads. -/
inductive Step (reading : s.tree.Reading) (settings : Settings) :
    Phase reading settings × List Path → Phase reading settings × List Path → Prop
  | refuse {e reads} (refused : settings.concurrency = .error e) :
      Step reading settings (.checking, reads) (.ended (.error e), reads)
  | check {c capped reads} (staffed : settings.concurrency = .ok (c, capped)) :
      Step reading settings (.checking, reads) (.searching c, reads)
  | miss {c e reads} (missing : FileSearch.files s settings = .error e) :
      Step reading settings (.searching c, reads) (.ended (.error e), reads)
  | search {c paths found reads} (search : FileSearch.files s settings = .ok (paths, found)) :
      Step reading settings (.searching c, reads)
        (.counting c (workbench settings) (.start _ c.workers paths .waiting), reads)
  | work {c w w' pool pool' reads}
      (inner : Pool.Step (counterFor reading settings c.counters) (w, pool) (w', pool')) :
      Step reading settings (.counting c w pool, reads)
        (.counting c w' pool', reads ++ Pool.readBy settings.stopwordsPath (w, pool) (w', pool'))
  | answer {c w pool report reads} (reported : pool.orchestrator.report? = some (.ok report)) :
      Step reading settings (.counting c w pool, reads) (.ended (.ok report.sorted), reads)
  | crash {c w pool e reads} (reported : pool.orchestrator.report? = some (.error e)) :
      Step reading settings (.counting c w pool, reads) (.crashed e, reads)

def stopwords (reading : s.tree.Reading) (settings : Settings) : StopwordSet :=
  (workbench settings).tokenizer.stopwords.view reading.read

/-- All files are read but those that still wait, and nothing else but the list of stopwords. -/
structure HasRead (settings : Settings) (paths : List Path) (waits : Path → Prop) (reads : List Path) : Prop where
  all : ∀ path ∈ paths, path ∈ reads ∨ waits path
  only : ∀ path ∈ reads, path ∈ paths ∨ settings.stopwordsPath = some path

def Phase.Valid : Phase reading settings → List Path → Prop
  | checking, reads => reads = []
  | searching c, reads => reads = [] ∧ ∃ capped, settings.concurrency = .ok (c, capped)
  | counting c w pool, reads => ∃ capped paths found,
    settings.concurrency = .ok (c, capped) ∧ FileSearch.files s settings = .ok (paths, found) ∧
      Pool.Underway (stopwords reading settings) paths c.workers (w, pool) ∧
      HasRead settings paths pool.Waits reads
  | ended (.error e), reads => reads = [] ∧ (settings.concurrency = .error e ∨
    (∃ c capped, settings.concurrency = .ok (c, capped)) ∧ FileSearch.files s settings = .error e)
  | ended (.ok report), reads => ∃ c capped paths found,
    settings.concurrency = .ok (c, capped) ∧ FileSearch.files s settings = .ok (paths, found) ∧
      report.filesAnalyzed.toNat + report.filesFailed.toNat = paths.length ∧
      HasRead settings paths (fun _ => False) reads
  | crashed _, _ => False

variable {a b : Phase reading settings × List Path}

theorem HasRead.work {p : FileCounter} {set : StopwordSet} {paths reads : List Path} {w w' : Workbench}
    {pool pool' : Pool p} (known : HasRead settings paths pool.Waits reads)
    (valid : pool.Valid set paths) (inner : Pool.Step p (w, pool) (w', pool')) :
    HasRead settings paths pool'.Waits (reads ++ Pool.readBy settings.stopwordsPath (w, pool) (w', pool')) where
  all := fun path mem => by
    rcases known.all path mem with before | waits
    · exact .inl (List.mem_append_left _ before)
    · exact (inner.read_or_waits valid settings.stopwordsPath waits).imp_left (List.mem_append_right _)
  only := fun path mem => by
    rcases List.mem_append.mp mem with before | now
    · exact known.only path before
    · exact (Pool.mem_of_mem_readBy now).imp_left fun taken => valid.opened_subset taken

theorem HasRead.over {p : FileCounter} {set : StopwordSet} {paths reads : List Path} {pool : Pool p}
    (known : HasRead settings paths pool.Waits reads) (valid : pool.Valid set paths) {gathered : Except Crash Report}
    (reported : pool.orchestrator.report? = some gathered) :
    HasRead settings paths (fun _ => False) reads where
  all := fun path mem => by
    obtain ⟨past, -⟩ := valid.items_of_report reported
    exact (known.all path mem).imp_right (valid.not_waits past)
  only := known.only

theorem Step.keeps (storable : s.tree.Storable) (valid : a.1.Valid a.2) (step : Step reading settings a b) :
    b.1.Valid b.2 := by
  have fits (c : Concurrency) :=
    (holds_counterFor storable.proper reading settings c.counters).fits (stopwords reading settings)
  cases step with
  | refuse refused => exact ⟨valid, .inl refused⟩
  | check staffed => exact ⟨valid, _, staffed⟩
  | miss missing =>
    obtain ⟨unread, staffed⟩ := valid
    exact ⟨unread, .inr ⟨⟨_, staffed⟩, missing⟩⟩
  | @search c paths found reads search =>
    obtain ⟨unread, capped, staffed⟩ := valid
    obtain rfl : reads = [] := unread
    refine ⟨capped, paths, found, staffed, search,
      Pool.underway_start (serves_workbench reading.read settings) (fits c) c.workers_pos paths, ?_⟩
    exact ⟨fun path mem => .inr (Pool.waits_start mem), nofun⟩
  | work inner =>
    obtain ⟨capped, paths, found, staffed, search, underway, known⟩ := valid
    exact ⟨capped, paths, found, staffed, search, underway.keeps inner, known.work underway.valid inner⟩
  | @answer c _ _ _ _ reported =>
    obtain ⟨capped, paths, found, staffed, search, underway, known⟩ := valid
    obtain ⟨-, -, -, -, all⟩ := underway.numbers_of_report (fits c) reported
    exact ⟨c, capped, paths, found, staffed, search, all, known.over underway.valid reported⟩
  -- the pool crashes only at a number of more than 64 bits, and the tree has no such numbers
  | @crash c _ _ _ _ reported =>
    obtain ⟨capped, paths, found, -, search, underway, -⟩ := valid
    obtain ⟨few, words⟩ := numbers_of_found storable reading search (stopwords reading settings) c.counters
    obtain ⟨report, impossible⟩ := underway.exists_report_of_words (fits c) reported few words
    cases impossible

def poolRank (reading : s.tree.Reading) (settings : Settings) (c : Concurrency) : Nat :=
  match FileSearch.files s settings with
  | .ok (paths, _) =>
    (Pool.start (counterFor reading settings c.counters) c.workers paths .waiting).rank
      (stopwords reading settings)
  | .error _ => 0

def Phase.rank : Phase reading settings → Nat
  | checking =>
    match settings.concurrency with
    | .ok (c, _) => poolRank reading settings c + 3
    | .error _ => 3
  | searching c => poolRank reading settings c + 2
  | counting _ _ pool => pool.rank (stopwords reading settings) + 1
  | ended _ | crashed _ => 0

theorem Step.rank_lt (valid : a.1.Valid a.2) (step : Step reading settings a b) : b.1.rank < a.1.rank := by
  cases step with
  | refuse refused => simp [Phase.rank, refused]
  | check staffed => simp [Phase.rank, staffed]
  | miss => simp [Phase.rank]
  | search search => simp [Phase.rank, poolRank, search]
  | work inner =>
    obtain ⟨_, _, _, _, _, underway, -⟩ := valid
    have lower := (inner.rank_lt underway.serves underway.valid underway.awaited.waits).1
    exact Nat.add_lt_add_right lower 1
  | answer | crash => simp [Phase.rank]

theorem exists_step (valid : a.1.Valid a.2) (going : ¬ ∃ answer, a.1 = .ended answer) :
    ∃ next, Step reading settings a next := by
  obtain ⟨phase, reads⟩ := a
  match phase with
  | .checking =>
    match staffed : settings.concurrency with
    | .error e => exact ⟨_, .refuse staffed⟩
    | .ok (c, capped) => exact ⟨_, .check staffed⟩
  | .searching c =>
    match search : FileSearch.files s settings with
    | .error e => exact ⟨_, .miss search⟩
    | .ok (paths, found) => exact ⟨_, .search search⟩
  | .counting c w pool =>
    match reported : pool.orchestrator.report? with
    | some (.ok report) => exact ⟨_, .answer reported⟩
    | some (.error e) => exact ⟨_, .crash reported⟩
    | none =>
      obtain ⟨_, _, _, _, _, underway, -⟩ := valid
      obtain ⟨⟨w', pool'⟩, inner⟩ := Pool.exists_step underway.serves underway.valid reported
      exact ⟨_, .work inner⟩
  | .ended answer => exact absurd ⟨answer, rfl⟩ going
  | .crashed _ => exact absurd valid id

def settles (storable : s.tree.Storable) (reading : s.tree.Reading) (settings : Settings) :
    Settles (Step reading settings) (fun a => a.1.Valid a.2) (fun a => ∃ answer, a.1 = .ended answer) where
  rank := fun a => a.1.rank
  keeps := fun valid step => step.keeps storable valid
  drops := fun valid step => step.rank_lt valid
  moves := fun valid going => exists_step valid going

theorem ends (storable : s.tree.Storable) (reading : s.tree.Reading) (settings : Settings) :
    Ends (Step reading settings) (.checking, []) := by
  have begins : (Phase.checking : Phase reading settings).Valid [] := rfl
  exact (settles storable reading settings).ends (a := (.checking, [])) begins

theorem valid_of_reaches (storable : s.tree.Storable) {phase : Phase reading settings} {reads : List Path}
    (course : Reaches (Step reading settings) (.checking, []) (phase, reads)) :
    phase.Valid reads ∧
      ((∃ next, Step reading settings (phase, reads) next) ∨ ∃ answer, phase = .ended answer) := by
  have begins : (Phase.checking : Phase reading settings).Valid [] := rfl
  exact (settles storable reading settings).of_reaches (a := (.checking, [])) begins course

theorem reaches_counting {c : Concurrency}
    {first last : Workbench × Pool (counterFor reading settings c.counters)}
    (run : Reaches (Pool.Step (counterFor reading settings c.counters)) first last) (before : List Path) :
    ∃ reads, Reaches (Step reading settings) (.counting c first.1 first.2, before)
      (.counting c last.1 last.2, reads) := by
  induction run with
  | refl => exact ⟨before, .refl⟩
  | tail _ step ih =>
    obtain ⟨reads, works⟩ := ih
    exact ⟨_, works.tail (.work step)⟩

theorem reaches_of_yields {report : Report} (yields : Yields s settings (.ok report)) :
    ∃ reads, Reaches (Step (.whole s.tree) settings) (.checking, []) (.ended (.ok report), reads) := by
  obtain ⟨c, capped, paths, found, ⟨w, pool⟩, gathered, staffed, search, run, reported, same⟩ := yields
  match gathered with
  | .error e => cases same
  | .ok whole =>
    obtain rfl := Except.ok.inj same
    obtain ⟨reads, works⟩ := @reaches_counting s settings (.whole s.tree) c _ _ run []
    exact ⟨reads, .head (.check staffed) (.head (.search search) (.tail works (.answer reported)))⟩

private theorem exists_run {c : Concurrency} {capped found : Log} {paths : List Path}
    (storable : s.tree.Storable) (staffed : settings.concurrency = .ok (c, capped))
    (search : FileSearch.files s settings = .ok (paths, found)) :
    ∃ ended, run s settings = .ok (.ok ended) := by
  obtain ⟨few, words⟩ := numbers_of_found storable (.whole _) search (stopwords (.whole _) settings) 1
  have fits : Report.Fits (resultsOf s settings paths) (failuresOf s settings paths) :=
    FileCounter.report_fits ((storable.proper.holds settings 1).fits _) few words
  obtain ⟨stats, counted⟩ := countFiles_eq storable.proper settings c.counters paths
  rw [answerFor_eq, if_pos fits] at counted
  simp only [run, staffed, search, counted, Except.map, bind, Except.bind, pure, Except.pure]
  exact ⟨_, rfl⟩

/-- An analysis that does everything in order is one of these courses. -/
theorem reaches_run (storable : s.tree.Storable) (settings : Settings) :
    ∃ ended reads, run s settings = .ok ended ∧
      Reaches (Step (.whole s.tree) settings) (.checking, []) (.ended (ended.map Run.report), reads) := by
  match staffed : settings.concurrency with
  | .error e =>
    refine ⟨.error e, [], ?_, .single (.refuse staffed)⟩
    simp only [run, staffed, pure, Except.pure]
  | .ok (c, capped) =>
    match search : FileSearch.files s settings with
    | .error e =>
      refine ⟨.error e, [], ?_, .head (.check staffed) (.single (.miss search))⟩
      simp only [run, staffed, search, pure, Except.pure]
    | .ok (paths, found) =>
      obtain ⟨ended, analyzed⟩ := exists_run storable staffed search
      obtain ⟨reads, course⟩ := reaches_of_yields (run_yields storable.proper analyzed)
      exact ⟨.ok ended, reads, analyzed, course⟩

theorem Phase.Valid.refused {e : CorpusError} {reads : List Path}
    (valid : (Phase.ended (.error e) : Phase reading settings).Valid reads) :
    reads = [] ∧ (∃ message, e = .config message) ∧
      (settings.workerCount = 0 ∨ settings.counterCount = 0 ∨
        s.tree.isPresent settings.rootPath = false) ∧
      ∀ other : Surroundings,
        other.tree.isPresent settings.rootPath = s.tree.isPresent settings.rootPath →
        Analysis.run other settings = .ok (.error e) := by
  obtain ⟨unread, refused | ⟨⟨c, capped, staffed⟩, missing⟩⟩ := valid
  · obtain ⟨zero, config⟩ := Settings.config_of_refused refused
    refine ⟨unread, config, zero.imp_right .inl, fun other _ => ?_⟩
    simp [Analysis.run, refused, pure, Except.pure]
  · obtain ⟨absent, rfl⟩ := FileSearch.missing_of_error missing
    refine ⟨unread, ⟨_, rfl⟩, .inr (.inr absent), fun other same => ?_⟩
    have none := FileSearch.files_of_absent (same.trans absent)
    simp [Analysis.run, staffed, none, pure, Except.pure]

private theorem Phase.Valid.counted {report : Report} {reads : List Path}
    (valid : (Phase.ended (.ok report) : Phase reading settings).Valid reads) :
    settings.workerCount ≠ 0 ∧ settings.counterCount ≠ 0 ∧
      s.tree.isPresent settings.rootPath = true ∧ ∃ paths found,
        FileSearch.files s settings = .ok (paths, found) ∧
        report.filesAnalyzed.toNat + report.filesFailed.toNat = paths.length ∧
        (∀ path ∈ paths, path ∈ reads) ∧
        ∀ path ∈ reads, path ∈ paths ∨ settings.stopwordsPath = some path := by
  obtain ⟨c, capped, paths, found, staffed, search, all, known⟩ := valid
  obtain ⟨workers, counters⟩ := Settings.counts_of_concurrency staffed
  exact ⟨workers, counters, FileSearch.present_of_ok search, paths, found, search, all,
    fun path mem => (known.all path mem).resolve_right id, known.only⟩

theorem Phase.Valid.exists_report (staffed : settings.Staffed)
    (present : s.tree.isPresent settings.rootPath = true) {answer : Except CorpusError Report}
    {reads : List Path} (valid : (Phase.ended answer : Phase reading settings).Valid reads) :
    ∃ report, answer = .ok report := by
  match answer with
  | .ok report => exact ⟨report, rfl⟩
  | .error e =>
    obtain ⟨-, -, noWorkers | noCounters | absent, -⟩ := valid.refused
    · exact absurd noWorkers (UInt64.ne_of_lt staffed.1).symm
    · exact absurd noCounters (UInt64.ne_of_lt staffed.2).symm
    · rw [present] at absent
      cases absent

/-- In whatever order its threads go on and whatever cannot be read, an analysis comes to an answer, and the
one that does everything in order is no exception. The answer is an error exactly if a count is zero or the
root is missing; that is one of the configuration, it comes before anything is read, and no content of the
tree changes it. Otherwise it is a report that has every file that was found, and these have been read, and
at most the list of stopwords beside them. -/
theorem answered_of_reaches (s : Surroundings) (storable : s.tree.Storable) (reading : s.tree.Reading)
    (settings : Settings) :
    (∃ ended reads, run s settings = .ok ended ∧
      Reaches (Step (.whole s.tree) settings) (.checking, []) (.ended (ended.map Run.report), reads)) ∧
    Ends (Step reading settings) (.checking, []) ∧
    ∀ phase reads, Reaches (Step reading settings) (.checking, []) (phase, reads) →
      ((∃ next, Step reading settings (phase, reads) next) ∨ ∃ answer, phase = .ended answer) ∧
      ∀ answer, phase = .ended answer →
        ((∃ e, answer = .error e) ↔ settings.workerCount = 0 ∨ settings.counterCount = 0 ∨
          s.tree.isPresent settings.rootPath = false) ∧
        (∀ e, answer = .error e → reads = [] ∧ (∃ message, e = .config message) ∧
          ∀ other : Surroundings,
            other.tree.isPresent settings.rootPath = s.tree.isPresent settings.rootPath →
            Analysis.run other settings = .ok (.error e)) ∧
        ∀ report, answer = .ok report → ∃ paths found,
          FileSearch.files s settings = .ok (paths, found) ∧
          report.filesAnalyzed.toNat + report.filesFailed.toNat = paths.length ∧
          (∀ path ∈ paths, path ∈ reads) ∧
          ∀ path ∈ reads, path ∈ paths ∨ settings.stopwordsPath = some path := by
  refine ⟨reaches_run storable settings, ends storable reading settings, fun phase reads course => ?_⟩
  obtain ⟨valid, goesOn⟩ := valid_of_reaches storable course
  refine ⟨goesOn, ?_⟩
  rintro answer rfl
  match answer with
  | .error e =>
    obtain ⟨unread, config, why, unchanged⟩ := Phase.Valid.refused valid
    refine ⟨iff_of_true ⟨e, rfl⟩ why, fun other same => ?_, fun report impossible => ?_⟩
    · obtain rfl := Except.error.inj same
      exact ⟨unread, config, unchanged⟩
    · cases impossible
  | .ok report =>
    obtain ⟨workers, counters, present, counted⟩ := Phase.Valid.counted valid
    refine ⟨iff_of_false (by simp) (by simp [workers, counters, present]),
      fun e impossible => ?_, fun other same => ?_⟩
    · cases impossible
    · obtain rfl := Except.ok.inj same
      exact counted

def unevenTree : Surroundings where
  tree := { nodes := [([Utf8.encode "a.txt"], .file (Utf8.encode "the cat")),
    ([Utf8.encode "b.txt"], .file [255]), ([Utf8.encode "c.txt"], .file (Utf8.encode "dog"))] }
  home := Path.ofString "/home"

def unevenReading : unevenTree.tree.Reading where
  read path := if path = .ofString "./c.txt" then .error (.os 13) else unevenTree.tree.read path
  faithful := by
    intro path content read
    split at read
    · cases read
    · exact read

private theorem files_of_unevenTree :
    ∃ found, FileSearch.files unevenTree { decoding := .failFast } =
      .ok ([.ofString "./a.txt", .ofString "./b.txt", .ofString "./c.txt"], found) := by
  refine FileSearch.exists_files
    [[Utf8.encode "a.txt"], [Utf8.encode "b.txt"], [Utf8.encode "c.txt"]] ?_ ?_ ?_ ?_ ?_
  all_goals decide +kernel

/-- Neither a missing list of stopwords nor such files make the analysis fail. -/
theorem exists_report_of_unevenTree :
    ∃ report reads, Reaches (Step unevenReading { decoding := .failFast }) (.checking, [])
        (.ended (.ok report), reads) ∧
      report.filesAnalyzed.toNat + report.filesFailed.toNat = 3 ∧
      ∀ path ∈ [Path.ofString "./a.txt", .ofString "./b.txt", .ofString "./c.txt"], path ∈ reads := by
  have storable : unevenTree.tree.Storable := by decide +kernel
  obtain ⟨-, -, every⟩ := answered_of_reaches unevenTree storable unevenReading { decoding := .failFast }
  have begins : (Phase.checking : Phase unevenReading { decoding := .failFast }).Valid [] := rfl
  obtain ⟨⟨phase, reads⟩, run, -, answer, rfl⟩ :=
    (settles storable unevenReading { decoding := .failFast }).reaches_over (a := (.checking, [])) begins
  obtain ⟨-, answers⟩ := every _ _ run
  obtain ⟨fails, -, counted⟩ := answers answer rfl
  match answer with
  | .error e =>
    have present : unevenTree.tree.isPresent (Settings.rootPath { decoding := .failFast }) = true := by
      decide +kernel
    have wrong := fails.mp ⟨e, rfl⟩
    simp [present] at wrong
  | .ok report =>
    obtain ⟨paths, found, search, all, readAll, -⟩ := counted report rfl
    obtain ⟨events, same⟩ := files_of_unevenTree
    obtain ⟨rfl, -⟩ := Prod.mk.inj (Except.ok.inj (search.symm.trans same))
    exact ⟨report, reads, run, all, readAll⟩

end Analysis

end CorpusTally
