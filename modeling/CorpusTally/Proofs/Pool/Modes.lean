import CorpusTally.Proofs.Pool.Metrics
import CorpusTally.Proofs.Unicode.Segments

/-!
The two modes for the bytes of a file. They do the same with the encoding of a text. Other bytes fail in the
one mode; in the other they are counted as if a space stood in place of each broken part.
-/

namespace CorpusTally

/-- What stands in place of a broken part does not matter to the tokens if it ends a word. -/
theorem tokens_textOf {substitute : Char} (separates : blankOut (foldCase substitute) = ' ')
    (parts : List Utf8.Segment) :
    tokens (Utf8.textOf substitute parts) = tokens (Utf8.textOf ' ' parts) := by
  have space : blankOut (foldCase ' ') = ' ' := by decide
  have same : blankOut ∘ foldCase ∘ Utf8.Segment.charOr substitute =
      blankOut ∘ foldCase ∘ Utf8.Segment.charOr ' ' := by
    funext s
    cases s with
    | scalar c => rfl
    | invalid | truncated =>
      simp only [Function.comp, Utf8.Segment.charOr, separates, space]
  simp [tokens, stripText, foldText, Utf8.textOf, same]

theorem keptTokens_decodeLossy (set : StopwordSet) (bytes : Utf8.Bytes) :
    keptTokens set (Utf8.decodeLossy bytes) = keptTokens set (Utf8.textOf ' ' (Utf8.segments bytes)) := by
  rw [keptTokens, keptTokens, Utf8.decodeLossy_eq, tokens_textOf (by decide +kernel)]

namespace FileCounter

variable {p : FileCounter} {set : StopwordSet} {path : Path} {w : Workbench} {bytes : Utf8.Bytes}
variable {mode mode' : Decoding}

def inMode (p : FileCounter) (mode : Decoding) : FileCounter := { p with decoding := mode }

def CanEnd (p : FileCounter) (w : Workbench) (path : Path) (outcome : Outcome) (left : Workbench) : Prop :=
  Reaches (FileTask.Step p) (w, .opened path) (left, .settled outcome)

/-- A path comes to this result and to these counters, whether its chunks are counted one after the other or
side by side. -/
structure Processes (p : FileCounter) (w : Workbench) (path : Path) (result : Except CorpusError FileTally)
    (stats : Stats) : Prop where
  inTurn : ∃ left, p.count w path = .ok (result, left) ∧ left.stats = stats
  ends : Ends (FileTask.Step p) (w, .opened path)
  every : ∀ left task, Reaches (FileTask.Step p) (w, .opened path) (left, task) →
    (∃ next, FileTask.Step p (left, task) next) ∨
      task = .settled (result.mapError (FailedFile.mk path)) ∧ left.stats = stats

theorem fits_of_corpus (content : p.corpus path = .ok (.ok bytes)) (held : bytes.length < 2 ^ 64)
    (set : StopwordSet) : p.Fits set path := by
  intro size text fetched
  obtain ⟨same, read, rfl, -⟩ := exists_bytes_of_fetch fetched
  obtain rfl := Except.ok.inj (Except.ok.inj (content.symm.trans read))
  exact Nat.lt_of_le_of_lt (length_keptTokens_of_fetch fetched set) held

private theorem FileTask.eq_settled {task : FileTask p} {outcome : Outcome}
    (done : task.result? = some (.ok outcome)) : task = .settled outcome := by
  cases task <;> simp [FileTask.result?] at done
  exact congrArg FileTask.settled done

/-- What is recorded and what is owed make up the price all the time. -/
private structure Balanced (p : FileCounter) (set : StopwordSet) (path : Path) (before : Stats)
    (a : Workbench × FileTask p) : Prop where
  serves : a.1.Serves p.stopwordFile set
  valid : a.2.Valid set path
  sum : a.1.stats + a.2.owed set path = before + p.price set path

private theorem Balanced.keeps {before : Stats} (fits : p.Fits set path) {a b : Workbench × FileTask p}
    (balanced : Balanced p set path before a) (step : FileTask.Step p a b) :
    Balanced p set path before b :=
  have next := step.keeps balanced.serves fits balanced.valid
  ⟨next.1, next.2, (step.books balanced.serves balanced.valid).trans balanced.sum⟩

theorem exists_processes (serves : w.Serves p.stopwordFile set) (content : p.corpus path = .ok (.ok bytes))
    (held : bytes.length < 2 ^ 64) : ∃ result, p.outcome set path = result.mapError (FailedFile.mk path) ∧
      p.Processes w path result (w.stats + p.price set path) := by
  have fits := fits_of_corpus content held set
  obtain ⟨same, -⟩ := Workers.work_eq serves fits
  have booked := Workers.stats_work serves fits
  cases counted : p.count w path with
  | error crash =>
    have crashed := corpus_of_count serves fits counted
    rw [content] at crashed
    cases crashed
  | ok counts =>
    obtain ⟨result, left⟩ := counts
    have outcome : p.outcome set path = result.mapError (FailedFile.mk path) := by
      rw [← same, Workers.work, counted]
      cases result <;> rfl
    have stats : left.stats = w.stats + p.price set path := by
      rw [← booked, Workers.work, counted]
      cases result <;> rfl
    have law := (fileLaw p set).settles path
    have begun : w.Serves p.stopwordFile set ∧ (fileLaw p set).Valid path (.opened path) :=
      ⟨serves, fits, rfl⟩
    refine ⟨result, outcome, ⟨left, counted, stats⟩, law.ends begun, ?_⟩
    intro after task run
    -- where a run stops nothing is owed, so that all that is due has been recorded
    have start : Balanced p set path w.stats (w, .opened path) := ⟨serves, rfl, rfl⟩
    have balance := (run.keeps (Balanced.keeps fits) start).sum
    obtain ⟨-, going | isOver⟩ := law.of_reaches begun run
    · exact .inl going
    · right
      constructor
      · rw [← outcome]
        exact FileTask.eq_settled isOver
      · rwa [FileTask.owed_of_result? isOver, add_zero] at balance

private def taskInMode (mode' : Decoding) : FileTask (p.inMode mode) → FileTask (p.inMode mode')
  | .opened path => .opened path
  | .counting path size task => .counting path size task
  | .failing path e => .failing path e
  | .raised path crash => .raised path crash
  | .settled outcome => .settled outcome

private theorem step_inMode (same : (p.inMode mode).fetch path = (p.inMode mode').fetch path)
    {w w' : Workbench} {task task' : FileTask (p.inMode mode)}
    (step : FileTask.Step (p.inMode mode) (w, task) (w', task'))
    (here : ∀ other, task = .opened other → other = path) :
    FileTask.Step (p.inMode mode') (w, taskInMode mode' task) (w', taskInMode mode' task') ∧
      ∀ other, task' ≠ .opened other := by
  cases step with
  | @fetch _ opened =>
    obtain rfl := here opened rfl
    have moved : taskInMode mode' (FileTask.fetched (p.inMode mode) opened ((p.inMode mode).fetch opened)) =
        FileTask.fetched (p.inMode mode') opened ((p.inMode mode').fetch opened) := by
      rw [← same]
      rcases (p.inMode mode).fetch opened with crash | e | ⟨size, text⟩ <;> rfl
    constructor
    · rw [moved]
      exact .fetch
    · intro other again
      rcases fetched : (p.inMode mode).fetch opened with crash | e | ⟨size, text⟩
      all_goals
        rw [fetched] at again
        cases again
  | count inner => exact ⟨.count inner, nofun⟩
  | counted done sum => exact ⟨.counted done sum, nofun⟩
  | overflow done sum => exact ⟨.overflow done sum, nofun⟩
  | crash done => exact ⟨.crash done, nofun⟩
  | fail => exact ⟨.fail, nofun⟩
  | rescue => exact ⟨.rescue, nofun⟩

private theorem CanEnd.inMode (same : (p.inMode mode).fetch path = (p.inMode mode').fetch path)
    {outcome : Outcome} {left : Workbench} (run : (p.inMode mode).CanEnd w path outcome left) :
    (p.inMode mode').CanEnd w path outcome left := by
  suffices ∀ a, Reaches (FileTask.Step (p.inMode mode)) (w, .opened path) a →
      Reaches (FileTask.Step (p.inMode mode')) (w, .opened path) (a.1, taskInMode mode' a.2) ∧
        ∀ other, a.2 = .opened other → other = path from (this _ run).1
  intro a run
  induction run with
  | refl => exact ⟨.refl, fun other opened => (FileTask.opened.inj opened).symm⟩
  | tail _ last ih =>
    obtain ⟨step, further⟩ := step_inMode same last ih.2
    exact ⟨ih.1.tail step, fun other opened => absurd opened (further other)⟩

private theorem fetch_of_decode {text : String} {events : Log} (content : p.corpus path = .ok (.ok bytes))
    (decoded : p.decoding.decode path bytes = .ok (text, events)) :
    p.fetch path = .ok (.ok (bytes.length, text)) := by
  simp [fetch, content, decoded, Except.map, Except.bind]

private theorem processes_text (serves : w.Serves p.stopwordFile set)
    (content : p.corpus path = .ok (.ok bytes)) (held : bytes.length < 2 ^ 64) {text : String}
    (fetched : p.fetch path = .ok (.ok (bytes.length, text))) :
    p.Processes w path (.ok (.ofCounts path (textTally set text))) (w.stats +
      .ofNumbers 1 0 bytes.length (chunkCount p.counters text) (keptTokens set text).length) := by
  obtain ⟨result, outcome, processes⟩ := exists_processes serves content held
  rw [outcome_of_fetch fetched] at outcome
  rw [price_of_fetch fetched] at processes
  cases result with
  | error e => cases outcome
  | ok tally =>
    obtain rfl := Except.ok.inj outcome
    exact processes

private theorem processes_failure (serves : w.Serves p.stopwordFile set)
    (content : p.corpus path = .ok (.ok bytes)) (held : bytes.length < 2 ^ 64) {e : CorpusError}
    (decoded : p.decoding.decode path bytes = .error e) :
    p.Processes w path (.error e) (w.stats + .ofNumbers 0 1 0 0 0) := by
  have fetched : p.fetch path = .ok (.error e) := by
    simp [fetch, content, decoded, Except.map, Except.bind]
  obtain ⟨result, outcome, processes⟩ := exists_processes serves content held
  rw [FileCounter.outcome, fetched] at outcome
  rw [price, fetched, Stats.ofEvent_fileFailed] at processes
  cases result with
  | error other =>
    obtain rfl := (FailedFile.mk.inj (Except.error.inj outcome)).2
    exact processes
  | ok tally => cases outcome

private theorem exists_count (serves : w.Serves p.stopwordFile set)
    (content : p.corpus path = .ok (.ok bytes)) (held : bytes.length < 2 ^ 64) {text same : String}
    (fetched : p.fetch path = .ok (.ok (bytes.length, text))) (kept : keptTokens set text = keptTokens set same)
    (counters : Nat) :
    ∃ left, w.count p.stopwordFile counters same = .ok (textTally set text, left) := by
  have fits := fits_of_corpus content held set _ _ fetched
  rw [Countable, kept] at fits
  obtain ⟨left, counted, -⟩ := Workbench.count_eq serves fits counters
  exact ⟨left, by rw [counted, textTally, textTally, kept]⟩

/-- Whatever bytes a file has: those of a text give the same in both modes, to the last event and counter.
Others fail in the one mode, and only the failure is counted. In the other mode the words are those of the text
with a space for each broken part, while the bytes are counted as they were read. -/
theorem processes_in_both_modes (p : FileCounter) (w : Workbench) (set : StopwordSet)
    (serves : w.Serves p.stopwordFile set) (path : Path) (bytes : Utf8.Bytes)
    (content : p.corpus path = .ok (.ok bytes)) (held : bytes.length < 2 ^ 64) :
    (∀ text, Utf8.encode text = bytes →
      (p.inMode .failFast).count w path = (p.inMode .lossy).count w path ∧
      (∀ outcome left, (p.inMode .failFast).CanEnd w path outcome left ↔
        (p.inMode .lossy).CanEnd w path outcome left) ∧
      ∃ counts, (∀ counters, ∃ left, w.count p.stopwordFile counters text = .ok (counts, left)) ∧
        ∀ mode, (p.inMode mode).Processes w path (.ok (.ofCounts path counts)) (w.stats +
          .ofNumbers 1 0 bytes.length (chunkCount p.counters text) (keptTokens set text).length)) ∧
    ((¬ ∃ text, Utf8.encode text = bytes) →
      (∃ cause, (p.inMode .failFast).Processes w path (.error (.encoding path cause))
        (w.stats + .ofNumbers 0 1 0 0 0)) ∧
      ∃ parts counts, Utf8.Cuts bytes parts ∧
        (∀ counters, ∃ left, w.count p.stopwordFile counters (Utf8.textOf ' ' parts) = .ok (counts, left)) ∧
        (p.inMode .lossy).Processes w path (.ok (.ofCounts path counts)) (w.stats +
          .ofNumbers 1 0 bytes.length (chunkCount p.counters (Utf8.textOf Utf8.replacement parts))
            (keptTokens set (Utf8.textOf ' ' parts)).length)) := by
  refine ⟨fun text valid => ?_, fun invalid => ?_⟩
  · have decoded (mode : Decoding) : mode.decode path bytes = .ok (text, []) := by
      simp only [Decoding.decode, Utf8.decode_ok_iff.mpr valid]
    have fetched (mode : Decoding) := fetch_of_decode (p := p.inMode mode) content (decoded mode)
    refine ⟨?_, fun outcome left => ⟨?_, ?_⟩, textTally set text, fun counters => ?_, fun mode => ?_⟩
    · simp only [count, inMode, content, decoded, bind, Except.bind, countText]
    · exact CanEnd.inMode ((fetched .failFast).trans (fetched .lossy).symm)
    · exact CanEnd.inMode ((fetched .lossy).trans (fetched .failFast).symm)
    · exact exists_count (p := p.inMode .lossy) serves content held (fetched .lossy) rfl counters
    · exact processes_text (p := p.inMode mode) serves content held (fetched mode)
  · cases read : Utf8.decode bytes with
    | ok text => exact absurd ⟨text, Utf8.decode_ok_iff.mp read⟩ invalid
    | error cause =>
      have failed : Decoding.failFast.decode path bytes = .error (.encoding path cause) := by
        simp only [Decoding.decode, read]
      have replaced : Decoding.lossy.decode path bytes =
          .ok (Utf8.decodeLossy bytes, [Decoding.replacedEvent path]) := by
        simp only [Decoding.decode, read]
      have fetched := fetch_of_decode (p := p.inMode .lossy) content replaced
      have same := keptTokens_decodeLossy set bytes
      refine ⟨⟨cause, processes_failure (p := p.inMode .failFast) serves content held failed⟩,
        Utf8.segments bytes, textTally set (Utf8.decodeLossy bytes), Utf8.cuts_segments bytes,
        exists_count (p := p.inMode .lossy) serves content held fetched same, ?_⟩
      have processes := processes_text (p := p.inMode .lossy) serves content held fetched
      rwa [same, Utf8.decodeLossy_eq] at processes

/-- Behind each letter there is a broken part, one that is too short, one that begins no character, and one that
the end cuts off. -/
def brokenFile : FileCounter where
  corpus := fun _ => .ok (.ok [0x63, 0xf0, 0x9f, 0x61, 0xff, 0x74, 0xc3])
  stopwordFile := fun _ => .error .notText
  decoding := .lossy
  counters := 2

theorem exists_letters_of_brokenFile :
    (∃ cause, (brokenFile.inMode .failFast).Processes
      { tokenizer := { stopwords := { origin := .words ["the"] } } } (.ofString "a.txt")
      (.error (.encoding (.ofString "a.txt") cause)) (.ofNumbers 0 1 0 0 0)) ∧
    ∃ parts counts, Utf8.textOf ' ' parts = "c a t " ∧ (brokenFile.inMode .lossy).Processes
      { tokenizer := { stopwords := { origin := .words ["the"] } } } (.ofString "a.txt")
      (.ok (.ofCounts (.ofString "a.txt") counts)) (.ofNumbers 1 0 7 1 3) := by
  have invalid : ¬ ∃ text, Utf8.encode text = [0x63, 0xf0, 0x9f, 0x61, 0xff, 0x74, 0xc3] := by
    rintro ⟨text, same⟩
    have read := Utf8.decode_ok_iff.mpr same
    have fails : (Utf8.decode [0x63, 0xf0, 0x9f, 0x61, 0xff, 0x74, 0xc3]).isOk = false := by decide +kernel
    rw [read] at fails
    cases fails
  obtain ⟨failed, parts, counts, cuts, -, replaced⟩ := (processes_in_both_modes brokenFile
    { tokenizer := { stopwords := { origin := .words ["the"] } } } _ ⟨rfl, by simp [Buffers.Clean]⟩
    (.ofString "a.txt") [0x63, 0xf0, 0x9f, 0x61, 0xff, 0x74, 0xc3] rfl (by decide)).2 invalid
  rw [← Stats.zero_def, zero_add] at failed replaced
  have three : Utf8.segments [0x63, 0xf0, 0x9f, 0x61, 0xff, 0x74, 0xc3] =
      [.scalar 'c', .invalid 2, .scalar 'a', .invalid 1, .scalar 't', .truncated 1] := by decide +kernel
  rw [Utf8.cuts_iff.mp cuts, three] at replaced
  have spaces : Utf8.textOf ' ' [.scalar 'c', .invalid 2, .scalar 'a', .invalid 1, .scalar 't', .truncated 1] =
      "c a t " := by decide +kernel
  have words : (keptTokens (.ofWords ["the"]) "c a t ").length = 3 := by decide +kernel
  rw [spaces] at replaced
  refine ⟨failed, _, counts, spaces, ?_⟩
  exact words ▸ replaced

end FileCounter

end CorpusTally
