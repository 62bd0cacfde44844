import CorpusTally.Chunk
import CorpusTally.Tally
import CorpusTally.Stats
import CorpusTally.Tokenizer

/-!
Counting the words of a text: a short one at once, a long one in chunks whose counts are merged.
The chunks are taken here one after the other; as merging does not depend on the order, any other
order gives the same counts.
-/

namespace CorpusTally

/-- What a count leaves behind: the tokenizer, the counters and the events. -/
structure Workbench where
  tokenizer : Tokenizer
  stats : Stats := {}
  log : Log := []

namespace Workbench

def record (w : Workbench) (event : Stats.Event) : Workbench :=
  { w with stats := w.stats.record event }

def note (w : Workbench) (event : LogEvent) : Workbench := { w with log := w.log ++ [event] }

def allStats (w : Workbench) : Stats :=
  { w.stats with
    bufferHits := w.tokenizer.buffers.hits
    bufferMisses := w.tokenizer.buffers.misses }

def countWords (read : ReadFile) (w : Workbench) (text : String) :
    Except Crash (Tally × Workbench) :=
  let (words, tokenizer) := w.tokenizer.run read text
  (Tally.ofWords words).map fun counts => (counts, { w with tokenizer := tokenizer })

def countRecorded (read : ReadFile) (w : Workbench) (text : String) :
    Except Crash (Tally × Workbench) := do
  let (counts, w) ← w.countWords read text
  let tokens ← counts.total
  return (counts, w.record (.chunk tokens))

def mergeEvent (chunk : Chunk) (counts : Tally) : LogEvent :=
  ⟨.trace, s!"Merging chunk {chunk.index} ({counts.size} distinct words)"⟩

def mergeChunk (read : ReadFile) (state : Tally × Workbench) (chunk : Chunk) :
    Except Crash (Tally × Workbench) := do
  let (counts, w) ← state.2.countRecorded read chunk.text
  let merged ← state.1.merge counts
  return (merged, w.note (mergeEvent chunk counts))

def countInChunks (read : ReadFile) (w : Workbench) (counters : Nat) (text : String) :
    Except Crash (Tally × Workbench) :=
  (Chunk.ofText text counters).foldlM (mergeChunk read) (.empty, w)

def singleChunkEvent (text : String) (counters : Nat) : LogEvent :=
  ⟨.debug, s!"Counting {text.utf8ByteSize} bytes as a single chunk (counters: {counters})"⟩

def count (read : ReadFile) (w : Workbench) (counters : Nat) (text : String) :
    Except Crash (Tally × Workbench) :=
  if isShort text || counters ≤ 1 then
    (w.note (singleChunkEvent text counters)).countRecorded read text
  else w.countInChunks read counters text

end Workbench

end CorpusTally
