import CorpusTally.Settings
import CorpusTally.Settings.Entry

/-!
The settings that the entries of a table give. Fields that are missing keep their defaults, and unknown
ones are passed over.
-/

namespace CorpusTally.Settings

open Entry (asText count flag optional texts)

def readField {α : Type} (table : Entry) (key : String) (read : Entry → Except EntryError α)
    (default : α) : Except EntryError α :=
  match table.field? key with
  | none => .ok default
  | some entry => (read entry).mapError (·.under key)

def readPath (entry : Entry) : Except EntryError Path := entry.asText.map .ofString

def modeOfName (name : String) : Except EntryError Decoding :=
  match Decoding.ofName? name with
  | some mode => .ok mode
  | none => .error (.unknownMode name)

def readMode : Entry → Except EntryError Decoding
  | .text _ name | .table _ [(name, _)] => modeOfName name
  | _ => .error .notMode

def ofEntry (table : Entry) : Except EntryError Settings := do
  let default : Settings := {}
  return {
    rootPath := ← readField table "root_path" readPath default.rootPath
    fileExtensions :=
      ← readField table "file_extensions" (optional texts) default.fileExtensions
    ignorePatterns := ← readField table "ignore_patterns" texts default.ignorePatterns
    workerCount := ← readField table "worker_count" count default.workerCount
    counterCount := ← readField table "counter_count" count default.counterCount
    stopwordsPath :=
      ← readField table "stopwords_path" (optional readPath) default.stopwordsPath
    decoding := ← readField table "encoding_mode" readMode default.decoding
    logLevel := ← readField table "log_level" asText default.logLevel
    outputPath := ← readField table "output_path" (optional readPath) default.outputPath
    statsOnly := ← readField table "stats_only" flag default.statsOnly }

end CorpusTally.Settings
