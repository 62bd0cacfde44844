import CorpusTally.Log

/-!
Counters of a run. They are kept per family of handles: a cloned handle counts into the family of the
handle it was cloned from, a fresh one begins a family. Counters wrap around at 64 bits.
-/

namespace CorpusTally

structure Stats where
  filesProcessed : UInt64 := 0
  filesFailed : UInt64 := 0
  bytesRead : UInt64 := 0
  chunksProcessed : UInt64 := 0
  tokensCounted : UInt64 := 0
  bufferHits : UInt64 := 0
  bufferMisses : UInt64 := 0
  deriving DecidableEq

namespace Stats

inductive Event where
  | fileProcessed (bytes : UInt64)
  | fileFailed
  | chunk (tokens : UInt64)
  | buffer (reused : Bool)

def record (s : Stats) : Event → Stats
  | .fileProcessed bytes =>
    { s with filesProcessed := s.filesProcessed + 1, bytesRead := s.bytesRead + bytes }
  | .fileFailed => { s with filesFailed := s.filesFailed + 1 }
  | .chunk tokens =>
    { s with chunksProcessed := s.chunksProcessed + 1, tokensCounted := s.tokensCounted + tokens }
  | .buffer true => { s with bufferHits := s.bufferHits + 1 }
  | .buffer false => { s with bufferMisses := s.bufferMisses + 1 }

def bufferAcquires (s : Stats) : UInt64 := s.bufferHits + s.bufferMisses

def summary (s : Stats) : String :=
  "Analysis stats:\n" ++
  s!"Files processed/failed: {s.filesProcessed}/{s.filesFailed}\n" ++
  s!"Bytes read: {s.bytesRead}\n" ++
  s!"Chunks processed: {s.chunksProcessed}\n" ++
  s!"Tokens counted: {s.tokensCounted}\n" ++
  s!"Buffer hits/misses: {s.bufferHits}/{s.bufferMisses}"

def summaryEvent (s : Stats) : LogEvent := ⟨.info, s.summary⟩

end Stats

/-- Every handle is the number of the family it counts into. -/
structure MetricHandles where
  families : List Stats := [{}]
  handles : List Nat := [0]

namespace MetricHandles

def family? (m : MetricHandles) (handle : Nat) : Option Nat := m.handles[handle]?

def stats? (m : MetricHandles) (handle : Nat) : Option Stats :=
  (m.family? handle).bind fun family => m.families[family]?

def fresh (m : MetricHandles) : MetricHandles :=
  { families := m.families ++ [{}], handles := m.handles ++ [m.families.length] }

def clone (m : MetricHandles) (handle : Nat) : MetricHandles :=
  match m.family? handle with
  | some family => { m with handles := m.handles ++ [family] }
  | none => m

def record (m : MetricHandles) (handle : Nat) (event : Stats.Event) : MetricHandles :=
  match m.family? handle with
  | some family => { m with families := m.families.modify family (·.record event) }
  | none => m

def allStats (m : MetricHandles) : List Stats :=
  m.handles.map fun family => m.families[family]?.getD {}

end MetricHandles

end CorpusTally
