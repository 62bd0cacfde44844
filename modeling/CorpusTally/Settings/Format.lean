import CorpusTally.Ini
import CorpusTally.Json.Reader
import CorpusTally.Json5.Value
import CorpusTally.Ron.Value
import CorpusTally.Settings.Entry
import CorpusTally.Toml.Document
import CorpusTally.Utf8
import CorpusTally.Yaml.Document

/-!
The formats of settings files, and what a file of each says. A file that holds no table says nothing, but
one of JSON5 is wrong then.
-/

namespace CorpusTally.Settings

inductive Format where
  | toml
  | json
  | yaml
  | ini
  | ron
  | json5
  deriving DecidableEq

inductive FormatError where
  | json (cause : CorpusTally.Json.Error)
  | yaml (cause : Yaml.Error)
  | documents (count : Nat)
  | real (text : String)
  | toml (cause : Toml.Error)
  | ini (cause : Ini.Error)
  | ron (cause : Ron.Error)
  | ronKey (found : String)
  | json5 (cause : Json5.Error)
  | root (cause : EntryError)

def FormatError.message : FormatError → String
  | .json cause => cause.message
  | .yaml cause => cause.message
  | .documents count => s!"Got {count} YAML documents, expected 1"
  | .real text => s!"Parsing {text} as floating point number failed"
  | .toml cause => cause.message
  | .ini cause => cause.message
  | .ron cause => cause.message
  | .ronKey found => s!"invalid type: {found}, expected a string"
  | .json5 cause => cause.message
  | .root cause => cause.message

namespace Entry

open CorpusTally.Json (Number Value)

def ofNumber (origin : Option String) : Number → Entry
  | .unsigned value =>
    if value.toNat < UInt64.size / 2 then .int origin value.toNat else .real origin value.toFloat
  | .negative value => .int origin value
  | .float value => .real origin value

mutual

def ofJson (origin : Option String) : Value → Entry
  | .null => .nil origin
  | .bool value => .bool origin value
  | .number value => ofNumber origin value
  | .string value => .text origin value
  | .array items => .list origin (ofJsonItems origin items)
  | .object fields => tableOf origin (ofJsonFields origin fields)

def ofJsonItems (origin : Option String) : List Value → List Entry
  | [] => []
  | item :: rest => ofJson origin item :: ofJsonItems origin rest

def ofJsonFields (origin : Option String) : List (String × Value) → List (String × Entry)
  | [] => []
  | (key, value) :: rest => (key, ofJson origin value) :: ofJsonFields origin rest

end

mutual

def ofToml (origin : Option String) : Toml.Value → Entry
  | .text value => .text origin value
  | .date value => .text origin value.text
  | .bool value => .bool origin value
  | .int value => .int origin value
  | .real value => .real origin value
  | .list items => .list origin (ofTomlItems origin items)
  | .table fields => .table origin (ofTomlFields origin fields)

def ofTomlItems (origin : Option String) : List Toml.Value → List Entry
  | [] => []
  | item :: rest => ofToml origin item :: ofTomlItems origin rest

def ofTomlFields (origin : Option String) : List (String × Toml.Value) → List (String × Entry)
  | [] => []
  | (key, value) :: rest => (key, ofToml origin value) :: ofTomlFields origin rest

end

def ofIniFields (origin : Option String) (fields : List (String × String)) :
    List (String × Entry) :=
  fields.map fun (key, value) => (key, .text origin value)

/-- Fields before the first header belong to the whole, each header makes a table. -/
def ofIni (origin : Option String) (sections : List Ini.Section) : Entry :=
  tableOf origin (sections.flatMap fun s =>
    match s.name? with
    | none => ofIniFields origin s.fields
    | some name => [(name, tableOf origin (ofIniFields origin s.fields))])

mutual

/-- Infinities and what is no number have names that no float is read from. -/
def ofYaml (origin : Option String) : Yaml.Node → Except FormatError Entry
  | .null | .bad => .ok (.nil origin)
  | .bool value => .ok (.bool origin value)
  | .int value => .ok (.int origin value)
  | .real written =>
    match Decimal.readFloat? written with
    | some value => .ok (.real origin value)
    | none => .error (.real written)
  | .text value => .ok (.text origin value)
  | .sequence items => (ofYamlItems origin items).map (.list origin)
  | .mapping fields => (ofYamlFields origin fields).map (.table origin)

def ofYamlItems (origin : Option String) : List Yaml.Node → Except FormatError (List Entry)
  | [] => .ok []
  | item :: rest => do
    let item ← ofYaml origin item
    return item :: (← ofYamlItems origin rest)

def ofYamlFields (origin : Option String) :
    List (String × Yaml.Node) → Except FormatError (List (String × Entry))
  | [] => .ok []
  | (key, value) :: rest => do
    let value ← ofYaml origin value
    return (key, value) :: (← ofYamlFields origin rest)

end

def ofRonKeys (origin : Option String) (fields : List (Ron.Value × Except FormatError Entry)) :
    Except FormatError Entry := do
  let ordered := fields.mergeSort fun a b => a.1.keyLe b.1
  let named ← ordered.mapM fun (key, entry) => do
    return (← key.key.mapError .ronKey, ← entry)
  return tableOf origin named

mutual

def ofRon (origin : Option String) : Ron.Value → Except FormatError Entry
  | .unit | .absent => .ok (.nil origin)
  | .present value => ofRon origin value
  | .bool value => .ok (.bool origin value)
  | .number (.int value) => .ok (.int origin value)
  | .number (.real value) => .ok (.real origin value)
  | .char value => .ok (.text origin (String.singleton value))
  | .text value => .ok (.text origin value)
  | .list items => (ofRonItems origin items).map (.list origin)
  | .table fields => ofRonKeys origin (ofRonFields origin fields)

def ofRonItems (origin : Option String) : List Ron.Value → Except FormatError (List Entry)
  | [] => .ok []
  | item :: rest => do
    let item ← ofRon origin item
    return item :: (← ofRonItems origin rest)

def ofRonFields (origin : Option String) :
    List (Ron.Value × Ron.Value) → List (Ron.Value × Except FormatError Entry)
  | [] => []
  | (key, value) :: rest => (key, ofRon origin value) :: ofRonFields origin rest

end

mutual

def ofJson5 (origin : Option String) : Json5.Value → Entry
  | .null => .nil origin
  | .bool value => .bool origin value
  | .int value => .int origin value
  | .real value => .real origin value
  | .text value => .text origin value
  | .list items => .list origin (ofJson5Items origin items)
  | .table fields => tableOf origin (ofJson5Fields origin fields)

def ofJson5Items (origin : Option String) : List Json5.Value → List Entry
  | [] => []
  | item :: rest => ofJson5 origin item :: ofJson5Items origin rest

def ofJson5Fields (origin : Option String) :
    List (String × Json5.Value) → List (String × Entry)
  | [] => []
  | (key, value) :: rest => (key, ofJson5 origin value) :: ofJson5Fields origin rest

end

end Entry

namespace Format

/-- The endings of file names, in the order in which they are tried. -/
def extensions : List (String × Format) := [
  ("toml", .toml), ("json", .json), ("yaml", .yaml), ("yml", .yaml), ("ini", .ini), ("ron", .ron),
  ("json5", .json5)]

def ofExtension? (extension : Utf8.Bytes) : Option Format :=
  extensions.lookup (Utf8.decodeLossy extension)

def readJson (origin : Option String) (text : String) : Except FormatError Entry :=
  ((CorpusTally.Json.parse text).mapError .json).map (.ofJson origin)

def readYaml (origin : Option String) (text : String) : Except FormatError Entry :=
  match Yaml.documents text with
  | .error e => .error (.yaml e)
  | .ok [] => .ok (.table origin [])
  | .ok [document] => Entry.ofYaml origin document
  | .ok documents => .error (.documents documents.length)

def readToml (origin : Option String) (text : String) : Except FormatError Entry :=
  ((Toml.read text).mapError .toml).map fun fields => .ofToml origin (.table fields)

def readIni (origin : Option String) (text : String) : Except FormatError Entry :=
  ((Ini.read text).mapError .ini).map (.ofIni origin)

def readRon (origin : Option String) (text : String) : Except FormatError Entry :=
  ((Ron.Value.ofText text).mapError .ron).bind (Entry.ofRon origin)

def readJson5 (origin : Option String) (text : String) : Except FormatError Entry := do
  match Entry.ofJson5 origin (← (Json5.Value.ofText text).mapError .json5) with
  | .table origin fields => return .table origin fields
  | entry => throw (.root (.wrongKind entry "a map" none))

def read (format : Format) (origin : Option String) (text : String) :
    Except FormatError (List (String × Entry)) :=
  let entry := match format with
    | .json => readJson origin text
    | .yaml => readYaml origin text
    | .toml => readToml origin text
    | .ini => readIni origin text
    | .ron => readRon origin text
    | .json5 => readJson5 origin text
  entry.map Entry.fields

end Format

end CorpusTally.Settings
