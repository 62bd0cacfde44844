import CorpusTally.Proofs.Accounts
import CorpusTally.Proofs.Counting.FanOut

/-!
What counting a text records. Counters that are recorded into add up in any order. Each chunk is recorded
once with the number of its words, so that a text adds its chunks and its words whoever counts them.
-/

namespace CorpusTally

attribute [ext] Stats

namespace Stats

def add (a b : Stats) : Stats where
  filesProcessed := a.filesProcessed + b.filesProcessed
  filesFailed := a.filesFailed + b.filesFailed
  bytesRead := a.bytesRead + b.bytesRead
  chunksProcessed := a.chunksProcessed + b.chunksProcessed
  tokensCounted := a.tokensCounted + b.tokensCounted
  bufferHits := a.bufferHits + b.bufferHits
  bufferMisses := a.bufferMisses + b.bufferMisses

instance : Add Stats := ⟨add⟩

instance : Zero Stats := ⟨{}⟩

theorem add_def (a b : Stats) : a + b = add a b := rfl

theorem zero_def : (0 : Stats) = {} := rfl

instance : AddCommMonoid Stats where
  add_assoc a b c := by simp only [add_def, add, UInt64.add_assoc]
  zero_add a := by simp only [add_def, add, zero_def, UInt64.zero_add]
  add_zero a := by simp only [add_def, add, zero_def, UInt64.add_zero]
  add_comm a b := by ext <;> exact congrArg UInt64.toNat (UInt64.add_comm _ _)
  nsmul := nsmulRec

def ofEvent (event : Event) : Stats := record 0 event

theorem record_eq (s : Stats) (event : Event) : s.record event = s + ofEvent event := by
  cases event with
  | fileProcessed | fileFailed | chunk =>
    simp only [record, ofEvent, add_def, add, zero_def, UInt64.add_zero, UInt64.zero_add]
  | buffer reused =>
    cases reused <;>
      simp only [record, ofEvent, add_def, add, zero_def, UInt64.add_zero, UInt64.zero_add]

def ofNumbers (processed failed bytes chunks words : Nat) : Stats where
  filesProcessed := processed.toUInt64
  filesFailed := failed.toUInt64
  bytesRead := bytes.toUInt64
  chunksProcessed := chunks.toUInt64
  tokensCounted := words.toUInt64

theorem ofNumbers_add (processed failed bytes chunks words : Nat)
    (processed' failed' bytes' chunks' words' : Nat) :
    ofNumbers processed failed bytes chunks words +
        ofNumbers processed' failed' bytes' chunks' words' =
      ofNumbers (processed + processed') (failed + failed') (bytes + bytes') (chunks + chunks')
        (words + words') := by
  simp [ofNumbers, add_def, add]

theorem ofEvent_fileProcessed (bytes : Nat) :
    ofEvent (.fileProcessed bytes.toUInt64) = ofNumbers 1 0 bytes 0 0 := by
  simp [ofEvent, record, zero_def, ofNumbers]

theorem ofEvent_fileFailed : ofEvent .fileFailed = ofNumbers 0 1 0 0 0 := rfl

theorem ofEvent_chunk (words : Nat) : ofEvent (.chunk words.toUInt64) = ofNumbers 0 0 0 1 words := by
  simp [ofEvent, record, zero_def, ofNumbers]

end Stats

theorem Workbench.stats_record (w : Workbench) (event : Stats.Event) :
    (w.record event).stats = w.stats + .ofEvent event := Stats.record_eq w.stats event

variable {read : ReadFile} {set : StopwordSet} {text : String} {counters : Nat} {w w' : Workbench}

namespace ChunkTask

variable {task task' : ChunkTask}

def owed (set : StopwordSet) (text : String) : ChunkTask → Stats
  | counted _ => 0
  | opened _ | lowered _ | cleaned _ | filtering _ _ | returning _ | streamed _ _ | collected _ =>
    .ofNumbers 0 0 0 1 (keptTokens set text).length

theorem Step.books (step : Step read (w, task) (w', task')) (fits : Countable set text)
    (valid : task.Valid set text) :
    w'.stats + task'.owed set text = w.stats + task.owed set text := by
  cases step with
  | lower | clean | split | filter | giveBackFirst | giveBackSecond | stream | thread | receive
  | endOfStream => rfl
  | @record _ words _ _ tallied =>
    have same : words = keptTokens set text := valid
    rw [same, tallyWords_eq fits, Except.ok.injEq, Prod.mk.injEq] at tallied
    obtain ⟨-, rfl⟩ := tallied
    rw [w.stats_record, Stats.ofEvent_chunk, owed, owed, add_zero]
  | @crash _ words _ failed =>
    have same : words = keptTokens set text := valid
    simp [same, tallyWords_eq fits] at failed

theorem owed_of_result? {result : Except Crash Tally} (done : task.result? = some result) :
    task.owed set text = 0 := by
  cases task <;> simp [result?] at done
  rfl

end ChunkTask

def chunkAccount (read : ReadFile) (set : StopwordSet) : (chunkLaw read set).Account Stats where
  booked := Workbench.stats
  price := fun chunk => .ofNumbers 0 0 0 1 (keptTokens set chunk.text).length
  owed := fun chunk task => task.owed set chunk.text
  begins := fun _ => rfl
  keeps := fun _ valid step => step.books valid.1 valid.2
  ends := fun _ done => ChunkTask.owed_of_result? done

private theorem prices_eq (read : ReadFile) (set : StopwordSet) (chunks : List Chunk) :
    (chunkAccount read set).prices chunks =
      .ofNumbers 0 0 0 chunks.length (chunks.flatMap fun chunk => keptTokens set chunk.text).length := by
  induction chunks with
  | nil => rfl
  | cons chunk chunks ih =>
    have first : (chunkAccount read set).prices (chunk :: chunks) =
        .ofNumbers 0 0 0 1 (keptTokens set chunk.text).length + (chunkAccount read set).prices chunks :=
      List.sum_cons
    rw [first, ih, Stats.ofNumbers_add, List.length_cons, List.flatMap_cons, List.length_append,
      Nat.add_comm 1]

def chunkCount (counters : Nat) (text : String) : Nat :=
  if isShort text || counters ≤ 1 then 1 else (Chunk.ofText text counters).length

namespace CountTask

variable {task task' : CountTask read}

/-- What a text adds to the counters. -/
def price (set : StopwordSet) (counters : Nat) (text : String) : Stats :=
  .ofNumbers 0 0 0 (chunkCount counters text) (keptTokens set text).length

def owed (set : StopwordSet) (counters : Nat) (text : String) : CountTask read → Stats
  | opened _ => price set counters text
  | single task => task.owed set text
  | spread crew _ _ => crew.owed (chunkAccount read set)
  | merging _ _ | counted _ => 0

theorem Step.books (step : Step read counters (w, task) (w', task')) (serves : w.Serves read set)
    (fits : Countable set text) (valid : task.Valid set text counters) :
    w'.stats + task'.owed set counters text = w.stats + task.owed set counters text := by
  cases step with
  | @single _ opened one =>
    have same : opened = text := valid
    subst same
    simp only [owed, ChunkTask.owed, price, chunkCount, one, if_true]
  | @spread _ opened many =>
    have same : opened = text := valid
    subst same
    simp only [owed, Crew.owed_start, prices_eq, Chunk.flatMap_keptTokens, price, chunkCount, many,
      Bool.false_eq_true, if_false]
  | work inner => exact inner.books fits valid
  | done done => simp only [owed, ChunkTask.owed_of_result? done]
  | crew inner => exact inner.books (chunkAccount read set) serves valid.1
  | join isOver | fail isOver => simp only [owed, valid.1.owed_of_over _ isOver]
  | merge | overflow | finish => rfl

theorem owed_of_result? {result : Except Crash Tally} (done : task.result? = some result) :
    task.owed set counters text = 0 := by
  cases task <;> simp [result?] at done
  rfl

end CountTask

namespace Workbench

variable {counts merged : Tally} {left : Workbench}

theorem stats_of_countRecorded (serves : w.Serves read set) (fits : Countable set text)
    (ends : w.countRecorded read text = .ok (counts, left)) :
    left.stats = w.stats + .ofNumbers 0 0 0 1 (keptTokens set text).length := by
  have total := (textTally_counts fits).total fits
  simp only [countRecorded, countWords_eq serves fits, total, bind, Except.bind, pure, Except.pure,
    Except.ok.injEq, Prod.mk.injEq] at ends
  obtain ⟨-, rfl⟩ := ends
  rw [stats_record, Stats.ofEvent_chunk]

private theorem stats_of_foldlM (chunks : List Chunk) (serves : w.Serves read set)
    (fits : ∀ chunk ∈ chunks, Countable set chunk.text)
    (ends : chunks.foldlM (mergeChunk read) (merged, w) = .ok (counts, left)) :
    left.stats = w.stats + (chunkAccount read set).prices chunks := by
  induction chunks generalizing w merged with
  | nil =>
    obtain ⟨-, rfl⟩ := Prod.mk.inj (Except.ok.inj ends)
    exact (add_zero _).symm
  | cons chunk chunks ih =>
    have small := fits chunk List.mem_cons_self
    obtain ⟨next, counted, after⟩ := countRecorded_eq serves small
    have first := stats_of_countRecorded serves small counted
    match added : merged.merge (textTally set chunk.text) with
    | .error e => simp [mergeChunk, counted, added, bind, Except.bind] at ends
    | .ok more =>
      simp only [List.foldlM_cons, mergeChunk, counted, added, bind, Except.bind, pure, Except.pure] at ends
      have rest := ih (w := next.note (mergeEvent chunk (textTally set chunk.text))) after
        (fun other mem => fits other (List.mem_cons_of_mem _ mem)) ends
      rw [rest, note, first, add_assoc]
      rfl

/-- Chunks that are counted one after the other are recorded as those that are counted side by side. -/
theorem stats_of_count (serves : w.Serves read set) (fits : Countable set text)
    (ends : w.count read counters text = .ok (counts, left)) :
    left.stats = w.stats + CountTask.price set counters text := by
  unfold count at ends
  split at ends
  · next one =>
    have noted : (w.note (singleChunkEvent text counters)).Serves read set := serves
    rw [stats_of_countRecorded noted fits ends, CountTask.price, chunkCount, if_pos one]
    rfl
  · next many =>
    have booked := stats_of_foldlM _ serves (fun chunk mem => Chunk.countable fits mem) ends
    rw [booked, prices_eq, Chunk.flatMap_keptTokens, CountTask.price, chunkCount, if_neg many]

end Workbench

end CorpusTally
