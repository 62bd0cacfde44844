import CorpusTally.Analysis
import CorpusTally.CommandLine.Arguments
import CorpusTally.Settings.Layers

/-!
The command: what it prints, which status it ends with, and the tree that it leaves. A run whose report
is printed ends with zero, whatever became of single files.
-/

namespace CorpusTally.CommandLine

structure Outcome where
  status : UInt8
  output : String := ""
  errors : String := ""
  tree : FileTree

def about : String := "Command-line front end for the wordscout word-frequency engine"

def versionText : String := "wordscout-cli 0.1.0\n"

def helpText : String := joinLines [
  about, "", "Usage: wordscout <COMMAND>", "", "Commands:",
  "  analyze  Count word frequencies in every matching file under a directory",
  "  help     Print this message or the help of the given subcommand(s)", "", "Options:",
  "  -h, --help     Print help", "  -V, --version  Print version", ""]

def padTo (width : Nat) (text : String) : String :=
  text ++ String.ofList (List.replicate (width - text.length) ' ')

def flagLine (flag : Flag) : String :=
  let letter := match flag.letter? with
    | some letter => s!"  -{letter}, "
    | none => "      "
  padTo 33 (letter ++ flag.usage) ++ flag.purpose

def analyzeHelpText : String :=
  joinLines (
    ["Count word frequencies in every matching file under a directory", "",
      "Usage: wordscout analyze [OPTIONS]", "", "Options:"] ++ Flag.all.map flagLine ++ [""])

def usageText : UsageError → String
  | .commandMissing => helpText
  | e => s!"error: {e.message}\n\nFor more information, try '--help'.\n"

def summaryLine (r : Report) : String :=
  s!"Analyzed {r.filesAnalyzed} files ({r.filesFailed} failed), {r.totalWords} words\n"

def fileLines (r : FileTally) : List String :=
  s!"{r.fileName}:" :: r.orderedWords.map fun w => s!"\t{w.word}: {w.count}"

def printLines (lines : List String) : String := String.join (lines.map (· ++ "\n"))

def printed (r : Report) (statsOnly : Bool) : String :=
  (if statsOnly then "" else printLines (r.results.flatMap fileLines)) ++ summaryLine r

def failureLine (f : FailedFile) : String := s!"error: {f.error.message}\n"

def failureLines (r : Report) : String := String.join (r.failures.map failureLine)

def errorText (e : CorpusError) : String :=
  s!"Error: {e.message}\n" ++
    match e.cause? with
    | some cause => s!"\nCaused by:\n    {cause}\n"
    | none => ""

def settingsOf (s : Surroundings) (options : Options) :
    Except Crash (Except CorpusError Settings) :=
  (Settings.load s options.config).map (·.map (·.merge options.settings))

def writeReport (tree : FileTree) (settings : Settings) (r : Report) :
    FileTree × Except CorpusError Unit :=
  match settings.outputPath with
  | some target => r.write tree target
  | none => (tree, .ok ())

def failed (tree : FileTree) (e : CorpusError) : Outcome :=
  { status := 1, errors := errorText e, tree }

def finish (tree : FileTree) (settings : Settings) (r : Report) : Outcome :=
  match writeReport tree settings r with
  | (tree, .error e) => failed tree e
  | (tree, .ok ()) =>
    { status := 0, output := printed r settings.statsOnly, errors := failureLines r, tree }

def analyzeWith (s : Surroundings) (settings : Settings) : Except Crash Outcome :=
  (Analysis.run s settings).map fun
    | .error e => failed s.tree e
    | .ok run => finish s.tree settings run.report

def analyze (s : Surroundings) (options : Options) : Except Crash Outcome := do
  match (← settingsOf s options) with
  | .error e => return failed s.tree e
  | .ok settings => analyzeWith s settings

def crashStatus : UInt8 := 101

def runRequest (s : Surroundings) : Request → Outcome
  | .help => { status := 0, output := helpText, tree := s.tree }
  | .analyzeHelp => { status := 0, output := analyzeHelpText, tree := s.tree }
  | .version => { status := 0, output := versionText, tree := s.tree }
  | .analyze options =>
    match analyze s options with
    | .ok outcome => outcome
    | .error crash => { status := crashStatus, errors := crash.message ++ "\n", tree := s.tree }

def run (s : Surroundings) (arguments : List String) : Outcome :=
  match read arguments with
  | .ok request => runRequest s request
  | .error e => { status := 2, errors := usageText e, tree := s.tree }

end CorpusTally.CommandLine
