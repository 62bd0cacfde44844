import CorpusTally.Decoding
import CorpusTally.FileTally
import CorpusTally.Workbench

/-!
From the path of a file to its result: its bytes are read, taken as text, and counted.
-/

namespace CorpusTally

abbrev Corpus := Path → Except Crash (Except CorpusError Utf8.Bytes)

def Corpus.ofReadFile (read : ReadFile) : Corpus := fun path =>
  .ok ((read path).mapError (CorpusError.read path))

structure FileCounter where
  corpus : Corpus
  stopwordFile : ReadFile
  decoding : Decoding
  counters : Nat

namespace FileCounter

def startEvent (path : Path) : LogEvent := ⟨.trace, s!"Processing file: {path.display}"⟩

def countedEvent (path : Path) (total : UInt64) (size : Nat) : LogEvent :=
  ⟨.trace, s!"Counted {total} words ({size} distinct) in {path.display}"⟩

def countText (p : FileCounter) (w : Workbench) (path : Path) (bytes : Nat) (text : String) :
    Except Crash (FileTally × Workbench) := do
  let (counts, w) ← w.count p.stopwordFile p.counters text
  let w := w.record (.fileProcessed bytes.toUInt64)
  let total ← counts.total
  return (FileTally.ofCounts path counts, w.note (countedEvent path total counts.size))

def count (p : FileCounter) (w : Workbench) (path : Path) :
    Except Crash (Except CorpusError FileTally × Workbench) := do
  let w := w.note (startEvent path)
  match ← p.corpus path with
  | .error e => return (.error e, w.record .fileFailed)
  | .ok bytes =>
    match p.decoding.decode path bytes with
    | .error e => return (.error e, w.record .fileFailed)
    | .ok (text, events) =>
      let (result, w) ← p.countText { w with log := w.log ++ events } path bytes.length text
      return (.ok result, w)

end FileCounter

end CorpusTally
