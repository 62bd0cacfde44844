import CorpusTally.Proofs.Paths
import CorpusTally.Proofs.Settings.Values
import CorpusTally.Settings.Layers

/-!
Settings from files. Each field is as the last file says that mentions it, and as by default where none does. What
carries this is a table that tells the values so far: a file puts its entries over it, and every setting is read
from it in the end.
-/

namespace CorpusTally

open Utf8 (Bytes)

namespace Settings

abbrev Fields := List (String × Entry)

/-- What a mapping has under a key; the last one counts. -/
def mention? (fields : Fields) (key : String) : Option Entry := fields.reverse.lookup key

def Field.value? (field : Field) (fields : Fields) : Option field.Value :=
  (mention? fields field.name).bind field.said?

def Field.last? (field : Field) (files : List (Option Fields)) : Option field.Value :=
  files.reverse.findSome? fun file => file.bind field.value?

/-- A mapping of field names to values of the fields' types. -/
def IsMapping (fields : Fields) : Prop :=
  ∀ entry ∈ fields, ∃ field : Field, entry.1 = field.name ∧ (field.said? entry.2).isSome = true

instance (fields : Fields) : Decidable (IsMapping fields) :=
  decidable_of_iff
    (∀ entry ∈ fields, ∃ field ∈ Field.all, entry.1 = field.name ∧ (field.said? entry.2).isSome = true) <| by
    simp [IsMapping, Field.mem_all]

/-- What a file of some format has for fields. It is opened by its whole path. -/
def fieldsIn? (s : Surroundings) (format : Format) (file : Path) : Option Fields :=
  let place := (workPlace s).join file
  match s.tree.find? place with
  | some (.file bytes) =>
    (Utf8.decode? bytes).bind fun text => (format.read (wayTo (workPlace s) place).display text).toOption
  | _ => none

structure Written (s : Surroundings) (format : Format) (file : Path) (fields : Fields) : Prop where
  present : s.tree.isPresent file = true
  content : fieldsIn? s format file = some fields
  mapping : IsMapping fields

def Holds (s : Surroundings) (format : Format) (file : Path) : Option Fields → Prop
  | none => s.tree.isPresent file = false
  | some fields => Written s format file fields

variable {s : Surroundings} {format : Format} {file : Path} {fields : Fields} {table : Entry}
variable {values : (field : Field) → Option field.Value}

namespace Entry

theorem lookup_field (key other : String) (value : Entry) (fields : Fields) :
    ((key, value) :: fields).lookup other = if other = key then some value else fields.lookup other := by
  by_cases same : other = key
  · rw [same, List.lookup_cons_self, if_pos rfl]
  · rw [List.lookup_cons, beq_eq_false_iff_ne.mpr same, if_neg same]

theorem lookup_putField (key other : String) (value : Entry) (fields : Fields) :
    (putField key value fields).lookup other = if other = key then some value else fields.lookup other := by
  induction fields with
  | nil => exact lookup_field key other value []
  | cons field fields ih =>
    obtain ⟨k, v⟩ := field
    by_cases here : k = key
    · subst here
      rw [putField, if_pos rfl, lookup_field, lookup_field]
      split <;> rfl
    · rw [putField, if_neg here, lookup_field, lookup_field, ih]
      by_cases first : other = k
      · have elsewhere : other ≠ key := fun same => here (first ▸ same)
        rw [if_pos first, if_neg elsewhere, if_pos first]
      · rw [if_neg first, if_neg first]

theorem field?_withField (table value : Entry) (key other : String) :
    (table.withField key value).field? other = if other = key then some value else table.field? other := by
  cases table with
  | table origin fields => exact lookup_putField key other value fields
  | _ => exact lookup_putField key other value []

def put (table : Entry) (fields : Fields) : Entry :=
  fields.foldl (fun table field => table.withField field.1 field.2) table

theorem field?_put (table : Entry) (fields : Fields) (key : String) :
    (table.put fields).field? key = (mention? fields key).or (table.field? key) := by
  induction fields generalizing table with
  | nil => rfl
  | cons field fields ih =>
    obtain ⟨k, v⟩ := field
    -- The first entry is the last one to be asked for.
    have earlier : mention? ((k, v) :: fields) key = (mention? fields key).or ([(k, v)].lookup key) := by
      rw [mention?, List.reverse_cons, List.lookup_append]
      rfl
    change ((table.withField k v).put fields).field? key = _
    rw [ih, earlier, Option.or_assoc, field?_withField, lookup_field]
    split <;> rfl

end Entry

theorem setAt_field (table : Entry) (field : Field) {entry : Entry} (plain : entry.isTable = false) :
    table.setAt entry (.ofKey field.name) = .ok (table.withField field.name entry) := by
  have path : KeyPath.ofKey field.name = .top field.name := by
    cases field <;> rfl
  rw [path, Entry.setAt]
  cases entry with
  | table origin fields => cases plain
  | _ => rfl

theorem addLayer_eq (table : Entry) (mapping : IsMapping fields) :
    table.addLayer fields = .ok (table.put fields) := by
  induction fields generalizing table with
  | nil => rfl
  | cons entry fields ih =>
    obtain ⟨key, value⟩ := entry
    obtain ⟨field, same, some⟩ := mapping (key, value) List.mem_cons_self
    obtain ⟨said, given⟩ := Option.isSome_iff_exists.mp some
    obtain rfl : key = field.name := same
    have rest := ih (table.withField field.name value) fun entry mem => mapping entry (List.mem_cons_of_mem _ mem)
    unfold Entry.addLayer at rest ⊢
    rw [List.foldlM_cons]
    change (table.setAt value (.ofKey field.name) >>= _) = _
    rw [setAt_field table field (field.refines value said given).2]
    exact rest

/-- For each field there is an entry that says its value, or neither. -/
def Tells (table : Entry) (values : (field : Field) → Option field.Value) : Prop :=
  ∀ field : Field, (table.field? field.name).map field.said? = (values field).map some

theorem tells_nothing : Tells .emptyTable fun _ => none := fun _ => rfl

theorem IsMapping.said_mention (mapping : IsMapping fields) (field : Field) :
    (mention? fields field.name).map field.said? = (field.value? fields).map some := by
  unfold Field.value?
  cases found : mention? fields field.name with
  | none => rfl
  | some entry =>
    have mem : (field.name, entry) ∈ fields := by
      obtain ⟨before, after, whole, -⟩ := List.lookup_eq_some_iff.mp found
      exact List.mem_reverse.mp (whole ▸ List.mem_append_right before List.mem_cons_self)
    obtain ⟨other, same, some⟩ := mapping _ mem
    obtain rfl := Field.name_injective same
    obtain ⟨value, said⟩ := Option.isSome_iff_exists.mp some
    simp [said]

theorem Tells.put (tells : Tells table values) (mapping : IsMapping fields) :
    Tells (table.put fields) fun field => (field.value? fields).or (values field) := by
  intro field
  rw [Entry.field?_put, Option.map_or, Option.map_or, mapping.said_mention field, tells field]

theorem read_of_find {t : FileTree} {p : Path} {bytes : Bytes} (found : t.find? p = some (.file bytes)) :
    t.read p = .ok bytes := by
  unfold FileTree.find? at found
  cases looked : t.lookup true p with
  | error e => simp [looked, Except.toOption] at found
  | ok entry =>
    have node : entry.2 = .file bytes := by simpa [looked, Except.toOption] using found
    simp [FileTree.read, looked, node, bind, Except.bind, pure, Except.pure]

def layOver (s : Surroundings) (below : Except LayerError Entry) (file : Path) :
    Except Crash (Except LayerError Entry) :=
  match below with
  | .error e => .ok (.error e)
  | .ok table =>
    match Source.find s file >>= Source.fields s with
    | .error e => .ok (.error e)
    | .ok fields => (table.addLayer fields).map .ok

theorem exists_text (content : fieldsIn? s format file = some fields) :
    ∃ bytes text, s.tree.find? ((workPlace s).join file) = some (.file bytes) ∧ Utf8.decode? bytes = some text ∧
      format.read (wayTo (workPlace s) ((workPlace s).join file)).display text = .ok fields := by
  simp only [fieldsIn?] at content
  split at content
  · next bytes found =>
    obtain ⟨text, decoded, reads⟩ := Option.bind_eq_some_iff.mp content
    refine ⟨bytes, text, found, decoded, ?_⟩
    cases result : format.read (wayTo (workPlace s) ((workPlace s).join file)).display text with
    | error e => simp [result, Except.toOption] at reads
    | ok others => simpa [result, Except.toOption] using reads
  · cases content

theorem Written.fields_eq (written : Written s format file fields)
    (ending : Format.ofExtension? (file.extension?.getD []) = some format) :
    (Source.find s file >>= Source.fields s) = .ok fields := by
  obtain ⟨bytes, text, found, decoded, holds⟩ := exists_text written.content
  have isFile : s.tree.isFile ((workPlace s).join file) = true := by simp [FileTree.isFile, found]
  have same : ((workPlace s).join file).extension? = file.extension? := by
    unfold Path.extension? at ending ⊢
    cases named : file.fileName? with
    | none =>
      rw [named] at ending
      cases ending
    | some name => rw [Path.fileName?_join _ named]
  have source : Source.find s file = .ok ⟨(workPlace s).join file, format⟩ := by
    simp only [Source.find, isFile, same, ending, if_true]
  have content : Source.fields s ⟨(workPlace s).join file, format⟩ = .ok fields := by
    simp [Source.fields, read_of_find found, decoded, holds, Except.mapError, bind, Except.bind]
  rw [source]
  exact content

theorem Tells.layOver (tells : Tells table values) (written : Written s format file fields)
    (ending : Format.ofExtension? (file.extension?.getD []) = some format) :
    ∃ after, layOver s (.ok table) file = .ok (.ok after) ∧
      Tells after fun field => (field.value? fields).or (values field) := by
  refine ⟨table.put fields, ?_, tells.put written.mapping⟩
  simp only [Settings.layOver, written.fields_eq ending, addLayer_eq table written.mapping, Except.map]

def Fits (s : Surroundings) (file : Path) (said : Option Fields) : Prop :=
  ∃ format, Format.ofExtension? (file.extension?.getD []) = some format ∧ Holds s format file said

theorem last?_cons (field : Field) (said : Option Fields) (later : List (Option Fields)) :
    field.last? (said :: later) = (field.last? later).or (said.bind field.value?) := by
  rw [Field.last?, List.reverse_cons, List.findSome?_append]
  simp [Field.last?]

theorem Tells.layers (tells : Tells table values) {files : List (Path × Option Fields)}
    (fits : ∀ file ∈ files, Fits s file.1 file.2) :
    ∃ after,
      ((files.map Prod.fst).filter s.tree.isPresent).foldlM (Settings.layOver s) (.ok table) = .ok (.ok after) ∧
      Tells after fun field => (field.last? (files.map Prod.snd)).or (values field) := by
  induction files generalizing table values with
  | nil => exact ⟨table, rfl, tells⟩
  | cons file files ih =>
    obtain ⟨path, said⟩ := file
    obtain ⟨format, ending, holds⟩ := fits (path, said) List.mem_cons_self
    have others : ∀ file ∈ files, Fits s file.1 file.2 := fun file mem => fits file (List.mem_cons_of_mem _ mem)
    cases said with
    | none =>
      have absent : s.tree.isPresent path = false := holds
      simpa [absent, last?_cons] using ih tells others
    | some fields =>
      have written : Written s format path fields := holds
      obtain ⟨next, laid, now⟩ := tells.layOver written ending
      obtain ⟨after, run, settled⟩ := ih now others
      refine ⟨after, ?_, ?_⟩
      · rw [List.map_cons, List.filter_cons_of_pos written.present, List.foldlM_cons, laid]
        exact run
      · simpa [last?_cons, Option.or_assoc] using settled

theorem Tells.readField (tells : Tells table values) (field : Field) :
    Settings.readField table field.name field.read (field.get {}) = .ok ((values field).getD (field.get {})) := by
  have told := tells field
  unfold Settings.readField
  cases found : table.field? field.name with
  | none =>
    rw [found] at told
    rw [Option.map_eq_none_iff.mp told.symm]
    rfl
  | some entry =>
    rw [found, Option.map_some] at told
    obtain ⟨value, given, said⟩ := Option.map_eq_some_iff.mp told.symm
    obtain ⟨reads, -⟩ := field.refines entry value said.symm
    simp [given, reads, Except.mapError]

private theorem bind_eq_of_ok {ε α β : Type} {x : Except ε α} {a : α} {next : α → Except ε β}
    {result : Except ε β} (first : x = .ok a) (rest : next a = result) : (x >>= next) = result := by
  rw [first]
  exact rest

theorem Tells.ofEntry (tells : Tells table values) :
    Settings.ofEntry table = .ok (ofValues fun field => (values field).getD (field.get {})) := by
  unfold Settings.ofEntry
  apply bind_eq_of_ok (tells.readField .rootPath)
  apply bind_eq_of_ok (tells.readField .fileExtensions)
  apply bind_eq_of_ok (tells.readField .ignorePatterns)
  apply bind_eq_of_ok (tells.readField .workerCount)
  apply bind_eq_of_ok (tells.readField .counterCount)
  apply bind_eq_of_ok (tells.readField .stopwordsPath)
  apply bind_eq_of_ok (tells.readField .decoding)
  apply bind_eq_of_ok (tells.readField .logLevel)
  apply bind_eq_of_ok (tells.readField .outputPath)
  apply bind_eq_of_ok (tells.readField .statsOnly)
  rfl

theorem load_of_fits {asked : Option Path} (there : ∀ file, asked = some file → s.tree.isPresent file = true)
    {files : List (Path × Option Fields)} (fits : ∀ file ∈ files, Fits s file.1 file.2)
    (known : Settings.files s asked = (files.map Prod.fst).filter s.tree.isPresent) :
    ∃ settings, load s asked = .ok (.ok settings) ∧
      ∀ field : Field, field.get settings = (field.last? (files.map Prod.snd)).getD (field.get {}) := by
  have found : (asked.filter fun file => !s.tree.isPresent file) = none := by
    cases asked with
    | none => rfl
    | some file => simp [Option.filter, there file rfl]
  obtain ⟨table, laid, tells⟩ := tells_nothing.layers fits
  have layers : Settings.layers s asked = .ok (.ok table) := by
    rw [← laid, ← known]
    rfl
  refine ⟨_, ?_, get_ofValues _⟩
  simp only [load, found, layers, Except.map, tells.ofEntry, Option.or_none]

def homeFile (s : Surroundings) : Path := s.configFile "wordscout/config.yaml"

def workFile : Path := .ofString ".wordscout.yaml"

theorem fits_home {said : Option Fields} (holds : Holds s .yaml (homeFile s) said) :
    Fits s (homeFile s) said := by
  have own : (Path.ofString "wordscout/config.yaml").fileName? = some (Utf8.encode "config.yaml") := by
    decide +kernel
  have named : (homeFile s).fileName? = some (Utf8.encode "config.yaml") :=
    Path.fileName?_join s.configDirectory own
  refine ⟨.yaml, ?_, holds⟩
  rw [Path.extension?, named]
  decide +kernel

theorem fits_work {said : Option Fields} (holds : Holds s .yaml workFile said) :
    Fits s workFile said :=
  ⟨.yaml, by decide +kernel, holds⟩

theorem exists_layers_eq {home work : Option Fields} (holdsHome : Holds s .yaml (homeFile s) home)
    (holdsWork : Holds s .yaml workFile work) {file : Path} (present : s.tree.isPresent file = true) :
    ∃ table, layers s (some file) = layOver s (.ok table) file := by
  have known : ∀ one ∈ [(homeFile s, home), (workFile, work)], Fits s one.1 one.2 := by
    simp [fits_home holdsHome, fits_work holdsWork]
  obtain ⟨table, laid, -⟩ := tells_nothing.layers known
  have asked : files s (some file) = [homeFile s, workFile].filter s.tree.isPresent ++ [file] := by
    rw [files, List.filter_append]
    simp [present, homeFile, workFile]
  have whole : layers s (some file) = (files s (some file)).foldlM (layOver s) (.ok .emptyTable) := rfl
  refine ⟨table, ?_⟩
  rw [whole, asked, List.foldlM_append]
  have first : ([homeFile s, workFile].filter s.tree.isPresent).foldlM (layOver s) (.ok .emptyTable) =
      .ok (.ok table) := laid
  rw [first]
  change [file].foldlM (layOver s) (.ok table) = _
  rw [List.foldlM_cons]
  exact bind_pure (layOver s (.ok table) file)

theorem layOver_of_unregistered (table : Entry) (isFile : s.tree.isFile ((workPlace s).join file) = true)
    (unregistered : Format.ofExtension? (((workPlace s).join file).extension?.getD []) = none) :
    layOver s (.ok table) file = .ok (.error (.unknownFormat ((workPlace s).join file))) := by
  have found : Source.find s file = .error (.unknownFormat ((workPlace s).join file)) := by
    simp only [Source.find, isFile, unregistered, if_true]
  simp only [layOver, found]
  rfl

theorem load_of_unregistered {home work : Option Fields} (holdsHome : Holds s .yaml (homeFile s) home)
    (holdsWork : Holds s .yaml workFile work) (present : s.tree.isPresent file = true)
    (isFile : s.tree.isFile ((workPlace s).join file) = true)
    (unregistered : Format.ofExtension? (((workPlace s).join file).extension?.getD []) = none) :
    load s (some file) =
      .ok (.error (.config (LayerError.unknownFormat ((workPlace s).join file)).message)) := by
  obtain ⟨table, layers⟩ := exists_layers_eq holdsHome holdsWork present
  rw [layOver_of_unregistered table isFile unregistered] at layers
  simp only [load, Option.filter, present, Bool.not_true, Bool.false_eq_true, if_false, layers]
  rfl

/-- Every field is as the last file says that mentions it, and as by default where no file does. A file that is
asked for has to be there, and its name has to tell its format. -/
theorem load_follows_files (s : Surroundings) :
    (∀ (home work : Option Fields) (asked : Option (Path × Fields)),
      Holds s .yaml (homeFile s) home → Holds s .yaml workFile work →
      (∀ file fields, asked = some (file, fields) → Fits s file (some fields)) →
      ∃ settings, load s (asked.map Prod.fst) = .ok (.ok settings) ∧
        ∀ field : Field,
          field.get settings = (field.last? [home, work, asked.map Prod.snd]).getD (field.get {})) ∧
    (∀ (home work : Option Fields) (file : Path),
      Holds s .yaml (homeFile s) home → Holds s .yaml workFile work →
      s.tree.isPresent file = true → s.tree.isFile ((workPlace s).join file) = true →
      Format.ofExtension? (((workPlace s).join file).extension?.getD []) = none →
      load s (some file) =
        .ok (.error (.config (LayerError.unknownFormat ((workPlace s).join file)).message))) ∧
    ∀ file, s.tree.isPresent file = false →
      load s (some file) = .ok (.error (.config (LayerError.missing file).message)) := by
  refine ⟨?_, fun _ _ _ => load_of_unregistered, ?_⟩
  · intro home work asked holdsHome holdsWork fitsAsked
    have known : ∀ one ∈ [(homeFile s, home), (workFile, work)], Fits s one.1 one.2 := by
      simp [fits_home holdsHome, fits_work holdsWork]
    cases asked with
    | none => exact load_of_fits (fun file given => by cases given) known rfl
    | some asked =>
      obtain ⟨file, fields⟩ := asked
      have fits := fitsAsked file fields rfl
      have all : ∀ one ∈ [(homeFile s, home), (workFile, work)] ++ [(file, some fields)],
          Fits s one.1 one.2 := by
        intro one mem
        rcases List.mem_append.mp mem with first | last
        · exact known one first
        · rw [List.mem_singleton.mp last]
          exact fits
      apply load_of_fits ?_ all rfl
      intro other same
      obtain rfl := Option.some.inj same
      obtain ⟨format, -, written⟩ := fits
      exact written.present
  · intro file absent
    simp [load, Option.filter, absent]

def fourFiles : Surroundings where
  tree := {
    nodes := [
      ([Utf8.encode "h"], .directory),
      ([Utf8.encode "h", Utf8.encode ".config"], .directory),
      ([Utf8.encode "h", Utf8.encode ".config", Utf8.encode "wordscout"], .directory),
      ([Utf8.encode "h", Utf8.encode ".config", Utf8.encode "wordscout", Utf8.encode "config.yaml"],
        .file (Utf8.encode "worker_count: 6\nfile_extensions: [md]\nroot_path: texts\n")),
      ([Utf8.encode ".wordscout.yaml"],
        .file (Utf8.encode "file_extensions: [log, txt]\nstopwords_path: null\n")),
      ([Utf8.encode "last.yml"],
        .file (Utf8.encode "worker_count: 8\nencoding_mode: failfast\nstats_only: true\n")),
      ([Utf8.encode "wordscout.conf"], .file (Utf8.encode "worker_count: 8\n"))] }
  home := { directory := .ofString "/u", config? := some (.ofString "/h/.config") }

private theorem last?_three (field : Field) (first second third : Fields) :
    field.last? [some first, some second, some third] =
      ((field.value? third).or (field.value? second)).or (field.value? first) := by
  rw [last?_cons, last?_cons, last?_cons]
  rfl

def homeSays : (field : Field) → Option field.Value
  | .rootPath => some (Path.ofString "texts")
  | .fileExtensions => some (some ["md"])
  | .workerCount => some (6 : UInt64)
  | _ => none

def workSays : (field : Field) → Option field.Value
  | .fileExtensions => some (some ["log", "txt"])
  | .stopwordsPath => some (none : Option Path)
  | _ => none

def lastSays : (field : Field) → Option field.Value
  | .workerCount => some (8 : UInt64)
  | .decoding => some Decoding.failFast
  | .statsOnly => some true
  | _ => none

def confSays : (field : Field) → Option field.Value
  | .workerCount => some (8 : UInt64)
  | _ => none

private theorem exists_written (given : (field : Field) → Option field.Value)
    (present : s.tree.isPresent file = true)
    (checked : (fieldsIn? s format file).any (fun fields =>
      decide (IsMapping fields ∧ ∀ field ∈ Field.all, field.value? fields = given field)) = true) :
    ∃ fields, Written s format file fields ∧ ∀ field : Field, field.value? fields = given field := by
  cases content : fieldsIn? s format file with
  | none => simp [content] at checked
  | some fields =>
    rw [content, Option.any_some, decide_eq_true_iff] at checked
    obtain ⟨mapping, same⟩ := checked
    exact ⟨fields, ⟨present, content, mapping⟩, fun field => same field field.mem_all⟩

def settingsOfThree : Settings where
  rootPath := .ofString "texts"
  fileExtensions := some ["log", "txt"]
  workerCount := 8
  stopwordsPath := none
  decoding := .failFast
  statsOnly := true

theorem load_four_files :
    load fourFiles (some (.ofString "last.yml")) = .ok (.ok settingsOfThree) ∧
    load fourFiles (some (.ofString "wordscout.conf")) =
      .ok (.error (.config (LayerError.unknownFormat (.ofString "/wordscout.conf")).message)) ∧
    load fourFiles (some (.ofString "gone.yml")) =
      .ok (.error (.config (LayerError.missing (.ofString "gone.yml")).message)) := by
  obtain ⟨home, writtenHome, inHome⟩ : ∃ fields, Written fourFiles .yaml (homeFile fourFiles) fields ∧
      ∀ field : Field, field.value? fields = homeSays field :=
    exists_written homeSays (by decide +kernel) (by decide +kernel)
  obtain ⟨work, writtenWork, inWork⟩ : ∃ fields, Written fourFiles .yaml workFile fields ∧
      ∀ field : Field, field.value? fields = workSays field :=
    exists_written workSays (by decide +kernel) (by decide +kernel)
  obtain ⟨last, writtenLast, inLast⟩ : ∃ fields, Written fourFiles .yaml (.ofString "last.yml") fields ∧
      ∀ field : Field, field.value? fields = lastSays field :=
    exists_written lastSays (by decide +kernel) (by decide +kernel)
  have fits : ∀ file fields, some (Path.ofString "last.yml", last) = some (file, fields) →
      Fits fourFiles file (some fields) := by
    intro file fields asked
    obtain ⟨rfl, rfl⟩ := Prod.mk.inj (Option.some.inj asked)
    exact ⟨.yaml, by decide +kernel, writtenLast⟩
  obtain ⟨follows, unregistered, missing⟩ := load_follows_files fourFiles
  obtain ⟨settings, loaded, values⟩ :=
    follows (some home) (some work) (some (_, last)) writtenHome writtenWork fits
  refine ⟨?_, ?_, missing _ (by decide +kernel)⟩
  · have same : settings = settingsOfThree := by
      apply Field.eq_of_get
      intro field
      rw [values field, Option.map_some, last?_three, inHome, inWork, inLast]
      cases field <;> rfl
    rw [← same]
    exact loaded
  · have place : (workPlace fourFiles).join (.ofString "wordscout.conf") = .ofString "/wordscout.conf" := by
      decide +kernel
    have refused := unregistered (some home) (some work) (.ofString "wordscout.conf") writtenHome writtenWork
      (by decide +kernel) (by decide +kernel) (by decide +kernel)
    rw [place] at refused
    exact refused

def confFile : Surroundings where
  tree := { nodes := [([Utf8.encode "wordscout.conf"], .file (Utf8.encode "worker_count: 8\n"))] }
  home := Path.ofString "/h"

def manyWorkers : Surroundings where
  tree := { nodes := [([Utf8.encode ".wordscout.yaml"],
    .file (Utf8.encode "worker_count: 9223372036854775809\n"))] }
  home := Path.ofString "/h"

def Entry.isReal : Entry → Bool
  | .real _ _ => true
  | _ => false

/-- A mapping is refused for the name of its file; and a number that needs 64 bits is read as a float, which has not
as many digits. -/
theorem mapping_refused_by_name :
    (∃ fields, Written confFile .yaml (.ofString "wordscout.conf") fields ∧
      Field.workerCount.value? fields = some (8 : UInt64)) ∧
    Holds confFile .yaml (homeFile confFile) none ∧ Holds confFile .yaml workFile none ∧
    (∀ settings, load confFile (some (.ofString "wordscout.conf")) ≠ .ok (.ok settings)) ∧
    ∃ fields entry, fieldsIn? manyWorkers .yaml workFile = some fields ∧
      mention? fields Field.workerCount.name = some entry ∧ entry.isReal = true := by
  have noHome : Holds confFile .yaml (homeFile confFile) none := by
    change _ = false
    decide +kernel
  have noWork : Holds confFile .yaml workFile none := by
    change _ = false
    decide +kernel
  refine ⟨?_, noHome, noWork, fun settings loaded => ?_, ?_⟩
  · obtain ⟨fields, written, inFile⟩ : ∃ fields, Written confFile .yaml (.ofString "wordscout.conf") fields ∧
        ∀ field : Field, field.value? fields = confSays field :=
      exists_written confSays (by decide +kernel) (by decide +kernel)
    exact ⟨fields, written, inFile .workerCount⟩
  · rw [load_of_unregistered noHome noWork (by decide +kernel) (by decide +kernel) (by decide +kernel)] at loaded
    cases loaded
  · have read : ((fieldsIn? manyWorkers .yaml workFile).bind fun fields =>
        mention? fields Field.workerCount.name).any Entry.isReal = true := by
      decide +kernel
    obtain ⟨entry, found, real⟩ := Option.any_eq_true _ _ |>.mp read
    obtain ⟨fields, content, mention⟩ := Option.bind_eq_some_iff.mp found
    exact ⟨fields, entry, content, mention, real⟩

end Settings

end CorpusTally
