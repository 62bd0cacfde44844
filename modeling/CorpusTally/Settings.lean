import CorpusTally.Concurrency
import CorpusTally.Decoding

/-!
The settings of a run, and how settings of two origins are laid over each other: what differs from the
default in the upper layer covers the lower one.
-/

namespace CorpusTally

structure Settings where
  rootPath : Path := .ofString "."
  fileExtensions : Option (List String) := some ["txt"]
  ignorePatterns : List String := []
  workerCount : UInt64 := 4
  counterCount : UInt64 := 2
  stopwordsPath : Option Path := some (.ofString "stopwords.txt")
  decoding : Decoding := .lossy
  logLevel : String := "warn"
  outputPath : Option Path := none
  statsOnly : Bool := false

namespace Settings

def sameOptionalPath : Option Path → Option Path → Bool
  | some a, some b => a.same b
  | none, none => true
  | _, _ => false

/-- A value of the upper layer, unless it is the default. -/
def cover {α : Type} (isDefault : α → Bool) (lower upper : α) : α :=
  if isDefault upper then lower else upper

/-- Lays settings over others. A path is the default one if its components are. -/
def merge (lower upper : Settings) : Settings :=
  let default : Settings := {}
  { rootPath := cover (·.same default.rootPath) lower.rootPath upper.rootPath
    fileExtensions :=
      cover (· == default.fileExtensions) lower.fileExtensions upper.fileExtensions
    ignorePatterns := cover (·.isEmpty) lower.ignorePatterns upper.ignorePatterns
    workerCount := cover (· == default.workerCount) lower.workerCount upper.workerCount
    counterCount := cover (· == default.counterCount) lower.counterCount upper.counterCount
    stopwordsPath :=
      cover (sameOptionalPath · default.stopwordsPath) lower.stopwordsPath upper.stopwordsPath
    decoding := cover (· == default.decoding) lower.decoding upper.decoding
    logLevel := cover (· == default.logLevel) lower.logLevel upper.logLevel
    outputPath := cover (·.isNone) lower.outputPath upper.outputPath
    statsOnly := cover (· == false) lower.statsOnly upper.statsOnly }

def concurrency (s : Settings) : Except CorpusError (Concurrency × Log) :=
  Concurrency.ofCounts s.workerCount.toNat s.counterCount.toNat

end Settings

end CorpusTally
