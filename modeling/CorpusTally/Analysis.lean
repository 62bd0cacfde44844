import CorpusTally.FileSearch
import CorpusTally.Workers

/-!
A whole run: the settings are checked, the files are found and counted, and a sorted report comes out.
Only the settings can make it fail.
-/

namespace CorpusTally

namespace Analysis

structure Run where
  report : Report
  stats : Stats
  log : Log

def startEvent (root : Path) (p : Concurrency) : LogEvent :=
  ⟨.info, s!"Starting analysis of {root.display} with {p.workers} workers and " ++
    s!"{p.counters} counters"⟩

def discoveredEvent (files : Nat) : LogEvent := ⟨.debug, s!"Discovered {files} files"⟩

def completeEvent (r : Report) : LogEvent :=
  ⟨.info, s!"Analysis complete. {r.filesAnalyzed} files analyzed, {r.filesFailed} failed, " ++
    s!"{r.totalWords} words counted"⟩

def fileCounter (s : Surroundings) (settings : Settings) (counters : Nat) : FileCounter :=
  { corpus := .ofReadFile s.tree.read
    stopwordFile := s.tree.read
    decoding := settings.decoding
    counters := counters }

def workbench (settings : Settings) : Workbench :=
  { tokenizer := { stopwords := { origin := .ofPath? settings.stopwordsPath } } }

def countFiles (s : Surroundings) (settings : Settings) (counters : Nat) (files : List Path) :
    Except Crash (Report × Stats) := do
  let (outcomes, w) := Workers.runFrom (fileCounter s settings counters) (workbench settings) files
  let report ← Workers.report outcomes
  return (report.sorted, w.allStats)

def run (s : Surroundings) (settings : Settings) : Except Crash (Except CorpusError Run) := do
  match settings.concurrency with
  | .error e => return .error e
  | .ok (p, capped) =>
    match FileSearch.files s settings with
    | .error e => return .error e
    | .ok (files, found) =>
      let (report, stats) ← countFiles s settings p.counters files
      return .ok {
        report := report
        stats := stats
        log := capped ++ [startEvent settings.rootPath p] ++ found ++
          [discoveredEvent files.length, Workers.startEvent p.workers files.length,
            stats.summaryEvent, completeEvent report] }

end Analysis

end CorpusTally
