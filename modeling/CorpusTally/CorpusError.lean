import CorpusTally.IoError
import CorpusTally.Json.Error
import CorpusTally.Path

/-!
What can go wrong in a run: with a single file, with the configuration, or with the written report.
-/

namespace CorpusTally

inductive CorpusError where
  | read (path : Path) (cause : IoError)
  | encoding (path : Path) (cause : Utf8.Error)
  | workerCrash (path : Path) (message : String)
  | config (message : String)
  | io (cause : IoError)
  | json (cause : Json.Error)

namespace CorpusError

def message : CorpusError → String
  | .read path cause => s!"Failed to read file {path.display}: {cause.message}"
  | .encoding path cause => s!"Invalid UTF-8 in file {path.display}: {cause.message}"
  | .workerCrash path message => s!"Worker panicked while analyzing {path.display}: {message}"
  | .config message => s!"Configuration error: {message}"
  | .io cause => s!"IO error: {cause.message}"
  | .json cause => s!"JSON error: {cause.message}"

def concernsOneFile : CorpusError → Bool
  | .read _ _ | .encoding _ _ | .workerCrash _ _ => true
  | .config _ | .io _ | .json _ => false

def cause? : CorpusError → Option String
  | .read _ cause | .io cause => some cause.message
  | .encoding _ cause => some cause.message
  | .json cause => some cause.message
  | .workerCrash _ _ | .config _ => none

end CorpusError

end CorpusTally
