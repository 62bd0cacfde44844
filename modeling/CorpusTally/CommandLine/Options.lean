import CorpusTally.Settings
import CorpusTally.Split
import CorpusTally.Unicode.Blank

/-!
The options of the command line: how they are written, and the settings that they stand for. An option
that is not given leaves the default.
-/

namespace CorpusTally.CommandLine

inductive Flag where
  | root
  | extensions
  | ignore
  | workers
  | counters
  | stopwords
  | encoding
  | config
  | output
  | stats
  | logLevel
  | help
  deriving DecidableEq

namespace Flag

def all : List Flag := [
  .root, .extensions, .ignore, .workers, .counters, .stopwords, .encoding, .config, .output, .stats,
  .logLevel, .help]

def name : Flag → String
  | root => "root"
  | extensions => "extensions"
  | ignore => "ignore"
  | workers => "workers"
  | counters => "counters"
  | stopwords => "stopwords"
  | encoding => "encoding"
  | config => "config"
  | output => "output"
  | stats => "stats"
  | logLevel => "log-level"
  | help => "help"

def letter? : Flag → Option Char
  | root => some 'd'
  | extensions => some 'e'
  | ignore => some 'i'
  | workers => some 'j'
  | counters => some 'k'
  | config => some 'c'
  | output => some 'o'
  | stats => some 's'
  | help => some 'h'
  | stopwords | encoding | logLevel => none

def takesValue : Flag → Bool
  | stats | help => false
  | _ => true

def repeats : Flag → Bool
  | ignore => true
  | _ => false

def ofName? (name : String) : Option Flag := all.find? fun flag => flag.name = name

def ofLetter? (letter : Char) : Option Flag := all.find? fun flag => flag.letter? = some letter

def upperName (flag : Flag) : String :=
  flag.name.map fun c => if c = '-' then '_' else c.toUpper

def usage (flag : Flag) : String :=
  if flag.takesValue then s!"--{flag.name} <{flag.upperName}>" else s!"--{flag.name}"

def purpose : Flag → String
  | root => "Root directory to analyze [default: .]"
  | extensions => "File extensions to include (e.g. txt,md)"
  | ignore => "Patterns to ignore (glob format)"
  | workers => "Number of file workers (capped at 10)"
  | counters => "Number of chunk counters per file"
  | stopwords => "Stopword list, one word per line (default: stopwords.txt)"
  | encoding => "How to handle invalid UTF-8 sequences [possible values: failfast, lossy]"
  | config => "Configuration file to load on top of the default locations"
  | output => "Write results as JSON to this file"
  | stats => "Show only statistics, not word lists"
  | logLevel => "Log level (trace, debug, info, warn, error); RUST_LOG takes precedence"
  | help => "Print help"

end Flag

structure Options where
  root : Option Path := none
  extensions : Option String := none
  ignore : List String := []
  workers : Option UInt64 := none
  counters : Option UInt64 := none
  stopwords : Option Path := none
  encoding : Option Decoding := none
  config : Option Path := none
  output : Option Path := none
  stats : Bool := false
  logLevel : Option String := none

def extensionsOf (list : String) : List String :=
  let pieces := (split ',' list.toList).map fun piece =>
    (Unicode.trim (String.ofList piece)).toList.dropWhile (· = '.')
  (pieces.filter (· ≠ [])).map String.ofList

def Options.settings (o : Options) : Settings :=
  let default : Settings := {}
  { rootPath := o.root.getD default.rootPath
    fileExtensions := (o.extensions.map extensionsOf).or default.fileExtensions
    ignorePatterns := o.ignore
    workerCount := o.workers.getD default.workerCount
    counterCount := o.counters.getD default.counterCount
    stopwordsPath := o.stopwords.or default.stopwordsPath
    decoding := o.encoding.getD default.decoding
    logLevel := o.logLevel.getD default.logLevel
    outputPath := o.output
    statsOnly := o.stats }

end CorpusTally.CommandLine
