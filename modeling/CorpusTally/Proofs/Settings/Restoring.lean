import CorpusTally.Proofs.Json.Values
import CorpusTally.Proofs.Settings.Files
import CorpusTally.Proofs.Unicode.Segments
import CorpusTally.Settings.Json

/-!
Settings as JSON, read back. Each field is what is said of it, and as by default where nothing is. Since all of them
are said when settings are written, settings with paths that are texts come back as they were.
-/

namespace CorpusTally

open Json (ErrorCode)

namespace Path

/-- Only such a path has a place in a JSON text. -/
def IsText (p : Path) : Prop := ∃ text, ofString text = p

instance (p : Path) : Decidable p.IsText :=
  decidable_of_iff ((Utf8.decode? p.bytes).isSome = true) <| by
    cases p
    simp [Option.isSome_iff_exists, Utf8.decode?_eq_some_iff, IsText, ofString]

theorem display_ofString (text : String) : (ofString text).display = text := Utf8.decodeLossy_encode text

end Path

namespace Settings

namespace Field

def set : (field : Field) → Settings → field.Value → Settings
  | rootPath, s, value => { s with rootPath := value }
  | fileExtensions, s, value => { s with fileExtensions := value }
  | ignorePatterns, s, value => { s with ignorePatterns := value }
  | workerCount, s, value => { s with workerCount := value }
  | counterCount, s, value => { s with counterCount := value }
  | stopwordsPath, s, value => { s with stopwordsPath := value }
  | decoding, s, value => { s with decoding := value }
  | logLevel, s, value => { s with logLevel := value }
  | outputPath, s, value => { s with outputPath := value }
  | statsOnly, s, value => { s with statsOnly := value }

def ofJson : (field : Field) → Json.Value → Except ErrorCode field.Value
  | rootPath => pathOfJson
  | fileExtensions => optional textsOfJson
  | ignorePatterns => textsOfJson
  | workerCount | counterCount => countOfJson
  | stopwordsPath | outputPath => optional pathOfJson
  | decoding => Decoding.ofJson
  | logLevel => textOfJson
  | statsOnly => boolOfJson

def toJson : (field : Field) → field.Value → Json.Value
  | rootPath => pathToJson
  | fileExtensions => optionalToJson textsToJson
  | ignorePatterns => textsToJson
  | workerCount | counterCount => countToJson
  | stopwordsPath | outputPath => optionalToJson pathToJson
  | decoding => fun mode => .string mode.name
  | logLevel => .string
  | statsOnly => .bool

def ofMention (field : Field) (before : field.Value) : Option Json.Value → Except ErrorCode field.Value
  | none => .ok before
  | some value => field.ofJson value

def paths : (field : Field) → field.Value → List Path
  | rootPath, path => [path]
  | stopwordsPath, path | outputPath, path => Option.toList path
  | fileExtensions, _ | ignorePatterns, _ | workerCount, _ | counterCount, _ | decoding, _ | logLevel, _
  | statsOnly, _ => []

end Field

def HasTextPaths (s : Settings) : Prop :=
  ∀ field : Field, ∀ path ∈ field.paths (field.get s), path.IsText

instance (s : Settings) : Decidable s.HasTextPaths :=
  decidable_of_iff (∀ field ∈ Field.all, ∀ path ∈ field.paths (field.get s), path.IsText) <| by
    simp [HasTextPaths, Field.mem_all]

variable {s next : Settings} {field : Field}

namespace Field

theorem get_set (field : Field) (s : Settings) (value : field.Value) : field.get (field.set s value) = value := by
  cases field <;> rfl

theorem get_set_of_ne {other : Field} (ne : other ≠ field) (s : Settings) (value : field.Value) :
    other.get (field.set s value) = other.get s := by
  cases field <;> cases other <;> first | rfl | exact absurd rfl ne

end Field

theorem textsOfJson_textsToJson (texts : List String) : textsOfJson (textsToJson texts) = .ok texts := by
  have each : textOfJson ∘ Json.Value.string = pure := rfl
  rw [textsToJson, textsOfJson, List.mapM_map, each, List.mapM_pure, List.map_id']
  rfl

theorem pathOfJson_pathToJson {path : Path} (text : path.IsText) : pathOfJson (pathToJson path) = .ok path := by
  obtain ⟨text, rfl⟩ := text
  rw [pathToJson, pathOfJson, Path.display_ofString]

theorem optional_optionalToJson {α : Type} (read : Json.Value → Except ErrorCode α) (write : α → Json.Value)
    (some_ne : ∀ a, write a ≠ .null) {value : Option α} (back : ∀ a ∈ value, read (write a) = .ok a) :
    optional read (optionalToJson write value) = .ok value := by
  cases value with
  | none => rfl
  | some a =>
    rw [optionalToJson, optional]
    · rw [back a rfl]
      rfl
    · exact some_ne a

theorem Field.ofJson_toJson (field : Field) {value : field.Value}
    (texts : ∀ path ∈ field.paths value, path.IsText) : field.ofJson (field.toJson value) = .ok value := by
  cases field with
  | rootPath => exact pathOfJson_pathToJson (texts value List.mem_cons_self)
  | fileExtensions =>
    exact optional_optionalToJson _ textsToJson (fun _ => nofun) fun texts _ => textsOfJson_textsToJson texts
  | ignorePatterns => exact textsOfJson_textsToJson value
  | stopwordsPath | outputPath =>
    exact optional_optionalToJson _ pathToJson (fun _ => nofun) fun path mem =>
      pathOfJson_pathToJson (texts path (Option.mem_toList.mpr mem))
  | decoding => cases value <;> rfl
  | workerCount | counterCount | logLevel | statsOnly => rfl

theorem isText_of_pathOfJson {json : Json.Value} {path : Path} (read : pathOfJson json = .ok path) : path.IsText := by
  cases json with
  | string text => exact ⟨text, Except.ok.inj read⟩
  | _ => cases read

theorem isText_of_optional {json : Json.Value} {value : Option Path} (read : optional pathOfJson json = .ok value) :
    ∀ path ∈ value.toList, path.IsText := by
  intro path mem
  obtain rfl := Option.mem_toList.mp mem
  cases json with
  | string text =>
    obtain rfl : Path.ofString text = path := Option.some.inj (Except.ok.inj read)
    exact ⟨text, rfl⟩
  | _ => cases read

theorem Field.isText_of_ofJson (field : Field) {json : Json.Value} {value : field.Value}
    (read : field.ofJson json = .ok value) : ∀ path ∈ field.paths value, path.IsText := by
  cases field with
  | rootPath => exact List.forall_mem_singleton.mpr (isText_of_pathOfJson read)
  | stopwordsPath | outputPath => exact isText_of_optional read
  | _ => nofun

theorem HasTextPaths.set (texts : s.HasTextPaths) {value : field.Value}
    (here : ∀ path ∈ field.paths value, path.IsText) : (field.set s value).HasTextPaths := by
  intro other
  by_cases same : other = field
  · subst same
    rwa [Field.get_set]
  · rw [Field.get_set_of_ne same]
    exact texts other

theorem hasTextPaths_default : HasTextPaths {} := by
  intro field path mem
  cases field with
  | rootPath => exact ⟨".", (List.mem_singleton.mp mem).symm⟩
  | stopwordsPath => exact ⟨"stopwords.txt", (List.mem_singleton.mp mem).symm⟩
  | _ => cases mem

theorem setField_name (s : Settings) (field : Field) (json : Json.Value) :
    s.setField field.name json = (field.ofJson json).map (field.set s) := by
  cases field <;> rfl

theorem setField_unknown {name : String} (unknown : ∀ field : Field, field.name ≠ name) (s : Settings)
    (json : Json.Value) : s.setField name json = .ok s := by
  have none : ∀ field ∈ Field.all, field.name ≠ name := fun field _ => unknown field
  simp only [Field.all, List.forall_mem_cons, Field.name] at none
  unfold setField
  split <;> simp_all

def lastOfEach : List (String × Json.Value) → List (String × Json.Value)
  | [] => []
  | field :: fields =>
    if (lastOfEach fields).any fun other => other.1 = field.1 then lastOfEach fields else field :: lastOfEach fields

theorem orderedFields_perm (fields : List (String × Json.Value)) :
    (orderedFields fields).Perm (lastOfEach fields) := by
  have same : ∀ fields : List (String × Json.Value), fields.foldr (fun field rest =>
      if rest.any fun other => other.1 = field.1 then rest else field :: rest) [] = lastOfEach fields := by
    intro fields
    induction fields with
    | nil => rfl
    | cons field fields ih => rw [List.foldr_cons, ih, lastOfEach]
  rw [orderedFields, same]
  exact List.mergeSort_perm _ _

theorem nodup_lastOfEach (fields : List (String × Json.Value)) : ((lastOfEach fields).map Prod.fst).Nodup := by
  induction fields with
  | nil => exact .nil
  | cons field fields ih =>
    rw [lastOfEach]
    split
    · exact ih
    · next new =>
      refine List.nodup_cons.mpr ⟨?_, ih⟩
      simpa using new

theorem field?_lastOfEach (fields : List (String × Json.Value)) (name : String) :
    (Json.Value.object (lastOfEach fields)).field? name = (Json.Value.object fields).field? name := by
  induction fields with
  | nil => rfl
  | cons field fields ih =>
    obtain ⟨key, json⟩ := field
    rw [lastOfEach, Json.Value.field?_cons, ← ih]
    split
    · next old =>
      have there : key ∈ (lastOfEach fields).map Prod.fst := by simpa using old
      split
      · next same =>
        subst same
        cases found : (Json.Value.object (lastOfEach fields)).field? key with
        | none => exact absurd there (Json.Value.field?_eq_none_iff.mp found)
        | some value => rfl
      · rw [Option.or_none]
    · rw [Json.Value.field?_cons]

theorem foldlM_setField_iff {fields : List (String × Json.Value)} (nodup : (fields.map Prod.fst).Nodup)
    (before : Settings) :
    fields.foldlM (fun s field => s.setField field.1 field.2) before = .ok s ↔
      ∀ field : Field, field.ofMention (field.get before) ((Json.Value.object fields).field? field.name) =
        .ok (field.get s) := by
  induction fields generalizing before with
  | nil =>
    constructor
    · intro same field
      rw [← Except.ok.inj same]
      rfl
    · intro same
      exact congrArg Except.ok (Field.eq_of_get fun field => Except.ok.inj (same field))
  | cons entry fields ih =>
    obtain ⟨name, json⟩ := entry
    obtain ⟨new, others⟩ := List.nodup_cons.mp nodup
    -- No later entry is of this name, so that its value stays.
    have apart : (Json.Value.object fields).field? name = none := Json.Value.field?_eq_none_iff.mpr new
    rw [List.foldlM_cons]
    by_cases known : ∃ field : Field, field.name = name
    · obtain ⟨here, rfl⟩ := known
      have mention : (Json.Value.object ((here.name, json) :: fields)).field? here.name = some json := by
        rw [Json.Value.field?_cons, apart, Option.none_or, if_pos rfl]
      rw [setField_name]
      cases read : here.ofJson json with
      | error e =>
        constructor
        · nofun
        · intro all
          have found := all here
          rw [mention, Field.ofMention, read] at found
          cases found
      | ok value =>
        change fields.foldlM _ (here.set before value) = _ ↔ _
        rw [ih others]
        apply forall_congr'
        intro field
        by_cases same : field = here
        · subst same
          rw [mention, apart, Field.ofMention, Field.ofMention, read, Field.get_set]
        · have elsewhere : here.name ≠ field.name := fun alike => same (Field.name_injective alike).symm
          rw [Json.Value.field?_cons, if_neg elsewhere, Option.or_none, Field.get_set_of_ne same]
    · have unknown : ∀ field : Field, field.name ≠ name := fun field same => known ⟨field, same⟩
      rw [setField_unknown unknown]
      change fields.foldlM _ before = _ ↔ _
      rw [ih others]
      apply forall_congr'
      intro field
      rw [Json.Value.field?_cons, if_neg (unknown field).symm, Option.or_none]

/-- An object is accepted if every field that is said in it can be read; what is not said is as by default. -/
theorem ofJson_object_iff {fields : List (String × Json.Value)} :
    ofJson (.object fields) = .ok s ↔
      ∀ field : Field, field.ofMention (field.get {}) ((Json.Value.object fields).field? field.name) =
        .ok (field.get s) := by
  have perm := orderedFields_perm fields
  have nodup : ((orderedFields fields).map Prod.fst).Nodup :=
    (perm.map Prod.fst).symm.nodup (nodup_lastOfEach fields)
  have same : ∀ name, (Json.Value.object (orderedFields fields)).field? name =
      (Json.Value.object fields).field? name :=
    fun name => (Json.Value.field?_eq_of_perm perm nodup name).trans (field?_lastOfEach fields name)
  rw [ofJson, setFields, foldlM_setField_iff nodup]
  simp only [same]

theorem HasTextPaths.setField (texts : s.HasTextPaths) {name : String} {json : Json.Value}
    (read : s.setField name json = .ok next) : next.HasTextPaths := by
  by_cases known : ∃ field : Field, field.name = name
  · obtain ⟨field, rfl⟩ := known
    rw [setField_name] at read
    cases found : field.ofJson json with
    | error e =>
      rw [found] at read
      cases read
    | ok value =>
      rw [found] at read
      rw [← Except.ok.inj read]
      exact texts.set (field.isText_of_ofJson found)
  · rw [setField_unknown fun field same => known ⟨field, same⟩] at read
    rwa [← Except.ok.inj read]

theorem HasTextPaths.setFields {fields : List (String × Json.Value)} (read : setFields fields = .ok s) :
    s.HasTextPaths := by
  have kept : ∀ before : Settings, before.HasTextPaths →
      fields.foldlM (fun s field => s.setField field.1 field.2) before = .ok s → s.HasTextPaths := by
    clear read
    induction fields with
    | nil =>
      intro before texts same
      rwa [← Except.ok.inj same]
    | cons field fields ih =>
      intro before texts read
      rw [List.foldlM_cons] at read
      cases first : before.setField field.1 field.2 with
      | error e =>
        rw [first] at read
        cases read
      | ok after =>
        rw [first] at read
        exact ih after (texts.setField first) read
  exact kept {} hasTextPaths_default read

theorem hasTextPaths_of_ofJson {json : Json.Value} (read : ofJson json = .ok s) : s.HasTextPaths := by
  cases json with
  | object fields => exact .setFields read
  | array items =>
    rw [ofJson] at read
    cases found : setFields (fieldNames.zip items) with
    | error e =>
      rw [found] at read
      cases read
    | ok settings =>
      rw [found] at read
      change (if _ then _ else _) = _ at read
      split at read
      · rw [← Except.ok.inj read]
        exact .setFields found
      · cases read
  | _ => cases read

def written (s : Settings) : List (String × Json.Value) :=
  Field.all.map fun field => (field.name, field.toJson (field.get s))

theorem toJson_eq (s : Settings) : s.toJson = .object s.written := rfl

theorem nodup_written (s : Settings) : (s.written.map Prod.fst).Nodup := by
  rw [written, List.map_map]
  exact (by decide : (Field.all.map Field.name).Nodup)

theorem field?_toJson (s : Settings) (field : Field) :
    s.toJson.field? field.name = some (field.toJson (field.get s)) :=
  (Json.Value.field?_eq_some_iff s.nodup_written).mpr (List.mem_map.mpr ⟨field, field.mem_all, rfl⟩)

theorem ofJson_of_toJson (texts : s.HasTextPaths) : ofJson s.toJson = .ok s := by
  rw [toJson_eq, ofJson_object_iff, ← toJson_eq]
  intro field
  rw [field?_toJson]
  exact field.ofJson_toJson (texts field)

theorem plain_textsToJson (texts : List String) (depth : Nat) : Json.Plain (depth + 1) (textsToJson texts) := by
  refine .array fun item mem => ?_
  obtain ⟨text, -, rfl⟩ := List.mem_map.mp mem
  exact .string text

theorem plain_optionalToJson {α : Type} {write : α → Json.Value} {depth : Nat}
    (each : ∀ a, Json.Plain depth (write a)) (value : Option α) : Json.Plain depth (optionalToJson write value) := by
  cases value with
  | none => exact .null
  | some a => exact each a

theorem Field.plain_toJson (field : Field) (value : field.Value) (depth : Nat) :
    Json.Plain (depth + 1) (field.toJson value) := by
  cases field with
  | fileExtensions => exact plain_optionalToJson (fun texts => plain_textsToJson texts depth) value
  | ignorePatterns => exact plain_textsToJson value depth
  | workerCount | counterCount => exact .count value
  | stopwordsPath | outputPath => exact plain_optionalToJson (fun _ => .string _) value
  | rootPath | decoding | logLevel => exact .string _
  | statsOnly => exact .bool value

theorem parse_pretty_toJson (s : Settings) : Json.parse s.toJson.pretty = .ok s.toJson := by
  apply Json.parse_pretty
  rw [toJson_eq]
  refine .object fun entry mem => ?_
  obtain ⟨field, -, rfl⟩ := List.mem_map.mp mem
  exact field.plain_toJson _ 125

theorem ofJson_without (texts : s.HasTextPaths) (field : Field) :
    ofJson (s.toJson.without field.name) = .ok (field.set s (field.get {})) := by
  have said := fun other : Field => Json.Value.field?_without field.name other.name s.toJson
  rw [toJson_eq, Json.Value.without] at said ⊢
  rw [ofJson_object_iff]
  intro other
  rw [said, ← toJson_eq]
  by_cases same : other = field
  · subst same
    rw [if_pos rfl, Field.get_set]
    rfl
  · rw [if_neg fun alike => same (Field.name_injective alike), field?_toJson, Field.get_set_of_ne same]
    exact other.ofJson_toJson (texts other)

theorem eq_null_iff {α : Type} {write : α → Json.Value} (some_ne : ∀ a, write a ≠ .null) {value : Option α}
    {said : Option Json.Value} (same : said = some (optionalToJson write value)) :
    said = some .null ↔ value = none := by
  rw [same, Option.some.injEq]
  cases value with
  | none => simp [optionalToJson]
  | some a => simp [optionalToJson, some_ne]

/-- Settings with paths that are texts are read back from their JSON and from its text, and all settings that are read
are such. None is written as null and not left out: what is left out is as by default. -/
theorem json_restores :
    (∀ s : Settings, s.HasTextPaths → Json.parse s.toJson.pretty = .ok s.toJson ∧ ofJson s.toJson = .ok s) ∧
    (∀ json s, ofJson json = .ok s → s.HasTextPaths ∧ ofJson s.toJson = .ok s) ∧
    (∀ fields s, ofJson (.object fields) = .ok s ↔ ∀ field : Field,
      field.ofMention (field.get {}) ((Json.Value.object fields).field? field.name) = .ok (field.get s)) ∧
    (∀ s : Settings, s.HasTextPaths → ∀ field : Field,
      ofJson (s.toJson.without field.name) = .ok (field.set s (field.get {}))) ∧
    ∀ s : Settings,
      (s.toJson.field? "file_extensions" = some .null ↔ s.fileExtensions = none) ∧
      (s.toJson.field? "stopwords_path" = some .null ↔ s.stopwordsPath = none) ∧
      (s.toJson.field? "output_path" = some .null ↔ s.outputPath = none) := by
  refine ⟨?_, ?_, ?_, ?_, ?_⟩
  · exact fun s texts => ⟨s.parse_pretty_toJson, ofJson_of_toJson texts⟩
  · intro json s read
    have texts := hasTextPaths_of_ofJson read
    exact ⟨texts, ofJson_of_toJson texts⟩
  · exact fun fields s => ofJson_object_iff
  · exact fun s texts field => ofJson_without texts field
  · intro s
    have texts : ∀ texts, textsToJson texts ≠ .null := nofun
    have path : ∀ path, pathToJson path ≠ .null := nofun
    exact ⟨eq_null_iff texts (s.field?_toJson .fileExtensions), eq_null_iff path (s.field?_toJson .stopwordsPath),
      eq_null_iff path (s.field?_toJson .outputPath)⟩

def bare : Settings where
  rootPath := .ofString "Bücher/\"neu\""
  fileExtensions := none
  ignorePatterns := ["", "a\n"]
  workerCount := 18446744073709551615
  stopwordsPath := none
  decoding := .failFast

theorem json_restores_bare :
    Json.parse bare.toJson.pretty = .ok bare.toJson ∧ ofJson bare.toJson = .ok bare ∧
      bare.toJson.field? "stopwords_path" = some .null ∧
      ofJson (bare.toJson.without "stopwords_path") =
        .ok { bare with stopwordsPath := some (.ofString "stopwords.txt") } ∧
      ∃ s, ofJson (.object [("worker_count", .null), ("worker_count", .number (.unsigned 7)), ("output_path", .null),
          ("file_extensions", .array []), ("unknown", .null)]) = .ok s ∧
        s.workerCount = 7 ∧ s.fileExtensions = some [] ∧ ofJson s.toJson = .ok s := by
  obtain ⟨restores, accepts, mentions, lacks, null⟩ := json_restores
  have texts : bare.HasTextPaths := by decide +kernel
  obtain ⟨parsed, restored⟩ := restores bare texts
  refine ⟨parsed, restored, (null bare).2.1.mpr rfl, lacks bare texts .stopwordsPath,
    { workerCount := 7, fileExtensions := some [] }, ?_⟩
  have said := (mentions [("worker_count", .null), ("worker_count", .number (.unsigned 7)), ("output_path", .null),
    ("file_extensions", .array []), ("unknown", .null)] { workerCount := 7, fileExtensions := some [] }).mpr <| by
      intro field
      cases field <;> rfl
  exact ⟨said, rfl, rfl, (accepts _ _ said).2⟩

end Settings

end CorpusTally
