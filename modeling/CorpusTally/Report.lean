import CorpusTally.CorpusError
import CorpusTally.FileTally
import CorpusTally.FileTree

/-!
What a run produced: the results of the files that were counted and the errors of the others. A report
is written to a file beside its target first, which then takes the target's place.
-/

namespace CorpusTally

structure FailedFile where
  path : Path
  error : CorpusError

structure Report where
  results : List FileTally := []
  failures : List FailedFile := []
  filesAnalyzed : UInt64 := 0
  filesFailed : UInt64 := 0
  totalWords : UInt64 := 0

namespace Report

def empty : Report := {}

def addTally (r : Report) (result : FileTally) : Except Crash Report := do
  let analyzed ← checkedAdd r.filesAnalyzed 1
  let words ← result.total
  let total ← checkedAdd r.totalWords words
  return { r with
    results := r.results ++ [result]
    filesAnalyzed := analyzed
    totalWords := total }

def addFailed (r : Report) (failure : FailedFile) : Except Crash Report := do
  let failed ← checkedAdd r.filesFailed 1
  return { r with failures := r.failures ++ [failure], filesFailed := failed }

def merge (r other : Report) : Except Crash Report := do
  let analyzed ← checkedAdd r.filesAnalyzed other.filesAnalyzed
  let failed ← checkedAdd r.filesFailed other.filesFailed
  let total ← checkedAdd r.totalWords other.totalWords
  return {
    results := r.results ++ other.results
    failures := r.failures ++ other.failures
    filesAnalyzed := analyzed
    filesFailed := failed
    totalWords := total }

def fileCount (r : Report) : Except Crash UInt64 := checkedAdd r.filesAnalyzed r.filesFailed

/-- Results by file name and failures by path; what is equal keeps its order. -/
def sorted (r : Report) : Report :=
  { r with
    results := r.results.mergeSort fun a b => a.fileName ≤ b.fileName
    failures := r.failures.mergeSort fun a b => a.path.le b.path }

def display (r : Report) : String := String.join (r.results.map FileTally.display)

def json (r : Report) : String := FileTally.renderAll r.results

def temporarySuffix : Utf8.Bytes := Utf8.encode ".tmp"

/-- The file beside the target that is written first. -/
def temporaryPath (target : Path) : Path :=
  target.withFileName ((target.fileName?.getD target.bytes) ++ temporarySuffix)

def makeRoom (t : FileTree) (target : Path) : FileTree × Except IoError Unit :=
  match target.parent? with
  | none => (t, .ok ())
  | some parent => if parent.bytes = [] then (t, .ok ()) else t.makeAllDirectories parent

def write (r : Report) (t : FileTree) (target : Path) : FileTree × Except CorpusError Unit :=
  match makeRoom t target with
  | (t, .error e) => (t, .error (.io e))
  | (t, .ok ()) =>
    match t.writeFile (temporaryPath target) (Utf8.encode r.json) with
    | .error e => (t, .error (.io e))
    | .ok written =>
      match written.rename (temporaryPath target) target with
      | .error e => (written, .error (.io e))
      | .ok renamed => (renamed, .ok ())

end Report

end CorpusTally
