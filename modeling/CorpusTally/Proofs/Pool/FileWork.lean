import CorpusTally.Proofs.Counting.FanOut
import CorpusTally.Proofs.Decoding
import CorpusTally.Workers

/-!
What a worker does with one path. Its outcome is that of the path alone, whatever the other workers do
in the meantime.
-/

namespace CorpusTally

namespace FileCounter

def fetch (p : FileCounter) (path : Path) : Except Crash (Except CorpusError (Nat × String)) :=
  (p.corpus path).map fun content => content.bind fun bytes =>
    (p.decoding.decode path bytes).map fun decoded => (bytes.length, decoded.1)

def outcome (p : FileCounter) (set : StopwordSet) (path : Path) : Outcome :=
  match p.fetch path with
  | .ok (.ok (_, text)) => .ok (FileTally.ofCounts path (textTally set text))
  | .ok (.error e) => .error ⟨path, e⟩
  | .error crash => .error ⟨path, .workerCrash path crash.message⟩

theorem path_of_outcome {p : FileCounter} {set : StopwordSet} {path : Path} {failure : FailedFile}
    (failed : p.outcome set path = .error failure) : failure.path = path := by
  unfold outcome at failed
  split at failed
  · cases failed
  · cases failed
    rfl
  · cases failed
    rfl

def Fits (p : FileCounter) (set : StopwordSet) (path : Path) : Prop :=
  ∀ size text, p.fetch path = .ok (.ok (size, text)) → Countable set text

/-- A file that is held in memory has fewer than 2 ^ 64 bytes. -/
def Holds (p : FileCounter) : Prop :=
  ∀ path bytes, p.corpus path = .ok (.ok bytes) → bytes.length < 2 ^ 64

theorem exists_bytes_of_fetch {p : FileCounter} {path : Path} {size : Nat} {text : String}
    (fetched : p.fetch path = .ok (.ok (size, text))) :
    ∃ bytes, p.corpus path = .ok (.ok bytes) ∧ bytes.length = size ∧ text.toList.length ≤ size := by
  unfold fetch at fetched
  match content : p.corpus path with
  | .error crash => simp [content, Except.map] at fetched
  | .ok (.error e) => simp [content, Except.map, Except.bind] at fetched
  | .ok (.ok bytes) =>
    match decoded : p.decoding.decode path bytes with
    | .error e => simp [content, decoded, Except.map, Except.bind] at fetched
    | .ok (found, events) =>
      simp only [content, decoded, Except.map, Except.bind, Except.ok.injEq, Prod.mk.injEq]
        at fetched
      obtain ⟨rfl, rfl⟩ := fetched
      exact ⟨bytes, rfl, rfl, Decoding.length_decode_le decoded⟩

/-- A file has no more words than bytes. -/
theorem length_keptTokens_of_fetch {p : FileCounter} {path : Path} {size : Nat} {text : String}
    (fetched : p.fetch path = .ok (.ok (size, text))) (set : StopwordSet) :
    (keptTokens set text).length ≤ size := by
  obtain ⟨bytes, -, -, short⟩ := exists_bytes_of_fetch fetched
  exact calc (keptTokens set text).length
    _ ≤ (tokens text).length := length_keptTokens_le set text
    _ ≤ text.toList.length := length_tokens_le text
    _ ≤ size := short

theorem Holds.fits {p : FileCounter} (holds : p.Holds) (set : StopwordSet) (path : Path) :
    p.Fits set path := by
  intro size text fetched
  obtain ⟨bytes, content, rfl, -⟩ := exists_bytes_of_fetch fetched
  exact Nat.lt_of_le_of_lt (length_keptTokens_of_fetch fetched set) (holds path bytes content)

theorem count_eq_fetched (p : FileCounter) (w : Workbench) (path : Path) :
    ∃ events, p.count w path =
      match p.fetch path with
      | .error crash => .error crash
      | .ok (.error e) => .ok (.error e, (w.note (startEvent path)).record .fileFailed)
      | .ok (.ok (size, text)) =>
        (p.countText { w with log := events } path size text).map fun counted =>
          (.ok counted.1, counted.2) := by
  match content : p.corpus path with
  | .error crash => exact ⟨[], by simp [count, fetch, content, bind, Except.bind, Except.map]⟩
  | .ok (.error e) =>
    exact ⟨[], by simp [count, fetch, content, bind, Except.bind, Except.map, pure, Except.pure]⟩
  | .ok (.ok bytes) =>
    match decoded : p.decoding.decode path bytes with
    | .error e =>
      exact ⟨[], by
        simp [count, fetch, content, decoded, bind, Except.bind, Except.map, pure, Except.pure]⟩
    | .ok (text, events) =>
      exact ⟨(w.note (startEvent path)).log ++ events, by
        simp only [count, fetch, content, decoded, bind, Except.bind, Except.map]; rfl⟩

theorem countText_eq {p : FileCounter} {set : StopwordSet} {w : Workbench} {text : String}
    (serves : w.Serves p.stopwordFile set) (fits : Countable set text) (path : Path) (size : Nat) :
    ∃ left, p.countText w path size text = .ok (FileTally.ofCounts path (textTally set text), left) ∧
      left.Serves p.stopwordFile set := by
  obtain ⟨left, whole, after⟩ := Workbench.count_eq serves fits p.counters
  have total := (textTally_counts fits).total fits
  generalize (keptTokens set text).length.toUInt64 = words at total
  refine ⟨(left.record (.fileProcessed size.toUInt64)).note
    (countedEvent path words (textTally set text).size), ?_, after⟩
  simp only [countText, whole, total, bind, Except.bind, pure, Except.pure]

private theorem corpus_of_fetch {p : FileCounter} {path : Path} {crash : Crash}
    (fetched : p.fetch path = .error crash) : p.corpus path = .error crash := by
  unfold fetch at fetched
  match content : p.corpus path with
  | .error other => simpa [content, Except.map] using fetched
  | .ok _ => simp [content, Except.map] at fetched

theorem corpus_of_count {p : FileCounter} {set : StopwordSet} {w : Workbench} {path : Path}
    {crash : Crash} (serves : w.Serves p.stopwordFile set) (fits : p.Fits set path)
    (crashed : p.count w path = .error crash) : p.corpus path = .error crash := by
  obtain ⟨events, counted⟩ := p.count_eq_fetched w path
  match fetched : p.fetch path with
  | .error other =>
    simp only [fetched, crashed, Except.error.injEq] at counted
    exact counted ▸ corpus_of_fetch fetched
  | .ok (.error e) => simp [fetched, crashed] at counted
  | .ok (.ok (size, text)) =>
    have noted : ({ w with log := events } : Workbench).Serves p.stopwordFile set := serves
    obtain ⟨left, same, -⟩ := countText_eq noted (fits size text fetched) path size
    simp [fetched, crashed, same, Except.map] at counted

end FileCounter

theorem Workers.work_eq {p : FileCounter} {set : StopwordSet} {w : Workbench}
    (serves : w.Serves p.stopwordFile set) {path : Path} (fits : p.Fits set path) :
    (work p w path).1 = p.outcome set path ∧ (work p w path).2.Serves p.stopwordFile set := by
  obtain ⟨events, counted⟩ := p.count_eq_fetched w path
  match fetched : p.fetch path with
  | .error crash =>
    simp only [fetched] at counted
    simp only [work, counted, FileCounter.outcome, fetched]
    exact ⟨trivial, serves⟩
  | .ok (.error e) =>
    simp only [fetched] at counted
    simp only [work, counted, FileCounter.outcome, fetched]
    exact ⟨trivial, serves⟩
  | .ok (.ok (size, text)) =>
    have noted : ({ w with log := events } : Workbench).Serves p.stopwordFile set := serves
    obtain ⟨left, same, after⟩ := FileCounter.countText_eq noted (fits size text fetched) path size
    simp only [fetched, same, Except.map] at counted
    simp only [work, counted, FileCounter.outcome, fetched]
    exact ⟨trivial, after⟩

/-- Paths that are worked on one after the other come to their outcomes in this order. -/
theorem Workers.runFrom_eq {p : FileCounter} {set : StopwordSet} {w : Workbench}
    (serves : w.Serves p.stopwordFile set) (fits : ∀ path, p.Fits set path) (paths : List Path) :
    (runFrom p w paths).1 = paths.map (p.outcome set) := by
  induction paths generalizing w with
  | nil => rfl
  | cons path paths ih =>
    obtain ⟨same, after⟩ := work_eq serves (fits path)
    rw [List.map_cons, ← same, ← ih after]
    rfl

inductive FileTask (p : FileCounter) where
  | opened (path : Path)
  | counting (path : Path) (size : Nat) (task : CountTask p.stopwordFile)
  | failing (path : Path) (e : CorpusError)
  | raised (path : Path) (crash : Crash)
  | settled (outcome : Outcome)

namespace FileTask

def fetched (p : FileCounter) (path : Path) : Except Crash (Except CorpusError (Nat × String)) → FileTask p
  | .ok (.ok (size, text)) => .counting path size (.opened text)
  | .ok (.error e) => .failing path e
  | .error crash => .raised path crash

/-- A worker goes on with the next path, also when the work on this one has crashed. -/
inductive Step (p : FileCounter) : Workbench × FileTask p → Workbench × FileTask p → Prop
  | fetch {w path} : Step p (w, opened path) (w, fetched p path (p.fetch path))
  | count {w w' path size task task'}
      (inner : CountTask.Step p.stopwordFile p.counters (w, task) (w', task')) :
      Step p (w, counting path size task) (w', counting path size task')
  | counted {w path size task counts total} (done : task.result? = some (.ok counts))
      (sum : counts.total = .ok total) :
      Step p (w, counting path size task)
        (w.record (.fileProcessed size.toUInt64), settled (.ok (.ofCounts path counts)))
  | overflow {w path size task counts crash} (done : task.result? = some (.ok counts))
      (sum : counts.total = .error crash) :
      Step p (w, counting path size task)
        (w.record (.fileProcessed size.toUInt64), raised path crash)
  | crash {w path size task crash} (done : task.result? = some (.error crash)) :
      Step p (w, counting path size task) (w, raised path crash)
  | fail {w path e} :
      Step p (w, failing path e) (w.record .fileFailed, settled (.error ⟨path, e⟩))
  | rescue {w path crash} :
      Step p (w, raised path crash)
        (w.record .fileFailed, settled (.error ⟨path, .workerCrash path crash.message⟩))

variable {p : FileCounter} {set : StopwordSet} {path : Path} {w w' : Workbench}
variable {task task' : FileTask p}

def result? : FileTask p → Option (Except Crash Outcome)
  | settled outcome => some (.ok outcome)
  | opened _ | counting _ _ _ | failing _ _ | raised _ _ => none

def Valid (set : StopwordSet) (path : Path) : FileTask p → Prop
  | opened same => same = path
  | counting same size task =>
    same = path ∧ ∃ text, p.fetch path = .ok (.ok (size, text)) ∧ Countable set text ∧
      task.Valid set text p.counters
  | failing same e => same = path ∧ p.fetch path = .ok (.error e)
  | raised same crash => same = path ∧ p.fetch path = .error crash
  | settled outcome => outcome = p.outcome set path

def rank (set : StopwordSet) : FileTask p → Nat
  | opened path =>
    match p.fetch path with
    | .ok (.ok (_, text)) =>
      (CountTask.opened text : CountTask p.stopwordFile).rank set p.counters + 3
    | _ => 2
  | counting _ _ task => task.rank set p.counters + 2
  | failing _ _ | raised _ _ => 1
  | settled _ => 0

private theorem valid_fetched (fits : p.Fits set path) :
    (fetched p path (p.fetch path)).Valid set path := by
  match found : p.fetch path with
  | .ok (.ok (size, text)) => exact ⟨rfl, text, found, fits size text found, rfl⟩
  | .ok (.error e) => exact ⟨rfl, found⟩
  | .error crash => exact ⟨rfl, found⟩

theorem Valid.exists_total {opened : Path} {size : Nat} {counting : CountTask p.stopwordFile}
    {result : Except Crash Tally} (valid : (FileTask.counting opened size counting).Valid set path)
    (done : counting.result? = some result) :
    ∃ counts total, result = .ok counts ∧ counts.total = .ok total := by
  obtain ⟨-, text, -, countable, kept⟩ := valid
  exact ⟨textTally set text, _, CountTask.eq_of_result? kept done,
    (textTally_counts countable).total countable⟩

theorem Step.keeps (step : Step p (w, task) (w', task')) (serves : w.Serves p.stopwordFile set)
    (fits : p.Fits set path) (valid : task.Valid set path) :
    w'.Serves p.stopwordFile set ∧ task'.Valid set path := by
  cases step with
  | @fetch _ opened =>
    have same : opened = path := valid
    subst same
    exact ⟨serves, valid_fetched fits⟩
  | count inner =>
    obtain ⟨same, text, found, countable, kept⟩ := valid
    obtain ⟨left, next⟩ := inner.keeps serves countable kept
    exact ⟨left, same, text, found, countable, next⟩
  | counted done =>
    obtain ⟨rfl, text, found, -, kept⟩ := valid
    have tally := Except.ok.inj (CountTask.eq_of_result? kept done)
    exact ⟨serves, by simp only [Valid, FileCounter.outcome, found, tally]⟩
  | overflow done sum =>
    obtain ⟨_, total, same, fine⟩ := valid.exists_total done
    obtain rfl := Except.ok.inj same
    rw [sum] at fine
    cases fine
  | crash done =>
    obtain ⟨_, _, impossible, -⟩ := valid.exists_total done
    cases impossible
  | fail =>
    obtain ⟨rfl, found⟩ := valid
    exact ⟨serves, by simp only [Valid, FileCounter.outcome, found]⟩
  | rescue =>
    obtain ⟨rfl, found⟩ := valid
    exact ⟨serves, by simp only [Valid, FileCounter.outcome, found]⟩

theorem Step.rank_lt (step : Step p (w, task) (w', task')) (serves : w.Serves p.stopwordFile set)
    (valid : task.Valid set path) : task'.rank set < task.rank set := by
  cases step with
  | @fetch _ opened =>
    match found : p.fetch opened with
    | .ok (.ok (size, text)) => simp [rank, fetched, found]
    | .ok (.error e) => simp [rank, fetched, found]
    | .error e => simp [rank, fetched, found]
  | count inner =>
    obtain ⟨-, text, -, -, kept⟩ := valid
    have lower := inner.rank_lt serves kept
    simp only [rank]
    omega
  | counted => simp [rank]
  | overflow => simp [rank]
  | crash => simp [rank]
  | fail => simp [rank]
  | rescue => simp [rank]

theorem exists_step (serves : w.Serves p.stopwordFile set) (valid : task.Valid set path)
    (going : task.result? = none) : ∃ next, Step p (w, task) next := by
  match task with
  | opened _ => exact ⟨_, .fetch⟩
  | counting path size task =>
    match done : task.result? with
    | none =>
      obtain ⟨-, text, -, -, kept⟩ := valid
      obtain ⟨⟨w', task'⟩, inner⟩ := CountTask.exists_step serves kept done
      exact ⟨_, .count inner⟩
    | some (.error crash) => exact ⟨_, .crash done⟩
    | some (.ok counts) =>
      match sum : counts.total with
      | .ok total => exact ⟨_, .counted done sum⟩
      | .error crash => exact ⟨_, .overflow done sum⟩
  | failing _ _ => exact ⟨_, .fail⟩
  | raised _ _ => exact ⟨_, .rescue⟩
  | settled _ => simp [result?] at going

theorem eq_of_result? {r : Except Crash Outcome} (valid : task.Valid set path)
    (done : task.result? = some r) : r = .ok (p.outcome set path) := by
  cases task <;> simp [result?] at done
  exact done ▸ congrArg Except.ok valid

end FileTask

def fileCraft (p : FileCounter) : Craft Workbench Path Outcome where
  Task := FileTask p
  start := .opened
  Step := FileTask.Step p
  result? := FileTask.result?

def fileLaw (p : FileCounter) (set : StopwordSet) :
    (fileCraft p).Law (Workbench.Serves p.stopwordFile set) (p.Fits set) (p.outcome set) where
  Valid := fun path task => p.Fits set path ∧ FileTask.Valid set path task
  rank := FileTask.rank set
  begins := fun fits => ⟨fits, rfl⟩
  keeps := fun serves valid step =>
    have kept := step.keeps serves valid.1 valid.2
    ⟨kept.1, ⟨valid.1, kept.2⟩, step.rank_lt serves valid.2⟩
  moves := fun serves valid going => FileTask.exists_step serves valid.2 going
  answers := fun valid done => FileTask.eq_of_result? valid.2 done

end CorpusTally
