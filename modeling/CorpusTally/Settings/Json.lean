import CorpusTally.Json.Value
import CorpusTally.Settings

/-!
Settings as a JSON object. Fields that are missing keep their defaults and unknown ones are passed over;
a list gives the fields in their order.
-/

namespace CorpusTally

open Json

namespace Decoding

def ofNamed (name : String) : Except ErrorCode Decoding :=
  match ofName? name with
  | some mode => .ok mode
  | none => .error (.unknownVariant name "`failfast` or `lossy`")

def ofJson : Value → Except ErrorCode Decoding
  | .string name => ofNamed name
  | .object [(name, value)] => do
    let mode ← ofNamed name
    match value with
    | .null => return mode
    | other => throw (.wrongType other.found "unit")
  | .object _ => .error (.wrongValue .map "map with a single key")
  | other => .error (.wrongType other.found "string or map")

end Decoding

namespace Settings

def textOfJson : Value → Except ErrorCode String
  | .string text => .ok text
  | other => .error (.wrongType other.found "a string")

def textsOfJson : Value → Except ErrorCode (List String)
  | .array items => items.mapM textOfJson
  | other => .error (.wrongType other.found "a sequence")

def pathOfJson : Value → Except ErrorCode Path
  | .string text => .ok (.ofString text)
  | other => .error (.wrongType other.found "path string")

def countOfJson : Value → Except ErrorCode UInt64
  | .number (.unsigned value) => .ok value
  | .number (.negative value) => .error (.wrongValue (.negative value) "usize")
  | other => .error (.wrongType other.found "usize")

def boolOfJson : Value → Except ErrorCode Bool
  | .bool value => .ok value
  | other => .error (.wrongType other.found "a boolean")

def optional {α : Type} (read : Value → Except ErrorCode α) : Value → Except ErrorCode (Option α)
  | .null => .ok none
  | value => (read value).map some

def setField (s : Settings) (name : String) (value : Value) : Except ErrorCode Settings :=
  match name with
  | "root_path" => (pathOfJson value).map fun v => { s with rootPath := v }
  | "file_extensions" => (optional textsOfJson value).map fun v => { s with fileExtensions := v }
  | "ignore_patterns" => (textsOfJson value).map fun v => { s with ignorePatterns := v }
  | "worker_count" => (countOfJson value).map fun v => { s with workerCount := v }
  | "counter_count" => (countOfJson value).map fun v => { s with counterCount := v }
  | "stopwords_path" => (optional pathOfJson value).map fun v => { s with stopwordsPath := v }
  | "encoding_mode" => (Decoding.ofJson value).map fun v => { s with decoding := v }
  | "log_level" => (textOfJson value).map fun v => { s with logLevel := v }
  | "output_path" => (optional pathOfJson value).map fun v => { s with outputPath := v }
  | "stats_only" => (boolOfJson value).map fun v => { s with statsOnly := v }
  | _ => .ok s

def fieldNames : List String := [
  "root_path", "file_extensions", "ignore_patterns", "worker_count", "counter_count",
  "stopwords_path", "encoding_mode", "log_level", "output_path", "stats_only"]

def setFields (fields : List (String × Value)) : Except ErrorCode Settings :=
  fields.foldlM (fun s field => s.setField field.1 field.2) {}

def orderedFields (fields : List (String × Value)) : List (String × Value) :=
  let insert (field : String × Value) (rest : List (String × Value)) :=
    if rest.any fun other => other.1 = field.1 then rest else field :: rest
  (fields.foldr insert []).mergeSort fun a b => a.1 ≤ b.1

def ofJson : Value → Except ErrorCode Settings
  | .object fields => setFields (orderedFields fields)
  | .array items => do
    let settings ← setFields (fieldNames.zip items)
    if items.length ≤ fieldNames.length then return settings
    else throw (.wrongLength items.length "fewer elements in array")
  | other => .error (.wrongType other.found "struct AnalysisConfig")

def optionalToJson {α : Type} (write : α → Value) : Option α → Value
  | some value => write value
  | none => .null

def pathToJson (p : Path) : Value := .string p.display

def textsToJson (texts : List String) : Value := .array (texts.map .string)

def countToJson (n : UInt64) : Value := .number (.unsigned n)

def toJson (s : Settings) : Value :=
  .object [
    ("root_path", pathToJson s.rootPath),
    ("file_extensions", optionalToJson textsToJson s.fileExtensions),
    ("ignore_patterns", textsToJson s.ignorePatterns),
    ("worker_count", countToJson s.workerCount),
    ("counter_count", countToJson s.counterCount),
    ("stopwords_path", optionalToJson pathToJson s.stopwordsPath),
    ("encoding_mode", .string s.decoding.name),
    ("log_level", .string s.logLevel),
    ("output_path", optionalToJson pathToJson s.outputPath),
    ("stats_only", .bool s.statsOnly)]

end Settings

end CorpusTally
