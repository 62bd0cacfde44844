import CorpusTally.Settings.Fields
import Mathlib.Logic.Basic

/-!
The settings as fields, and what is written for a field's value: a text for a path, null for no path, a whole
number for a count. The loader takes more than that for a value, but this is taken for what it is.
-/

namespace CorpusTally.Settings

namespace Entry

def isTable : Entry → Bool
  | .table _ _ => true
  | _ => false

def text? : Entry → Option String
  | .text _ value => some value
  | _ => none

def texts? : Entry → Option (List String)
  | .list _ items => items.mapM text?
  | _ => none

def path? (entry : Entry) : Option Path := entry.text?.map .ofString

def natural? : Entry → Option UInt64
  | .int _ value => if 0 ≤ value ∧ value.toNat < UInt64.size then some value.toNat.toUInt64 else none
  | _ => none

def truth? : Entry → Option Bool
  | .bool _ value => some value
  | _ => none

def mode? (entry : Entry) : Option Decoding :=
  match entry.text? with
  | some "failfast" => some .failFast
  | some "lossy" => some .lossy
  | _ => none

def orNull {α : Type} (said : Entry → Option α) : Entry → Option (Option α)
  | .nil _ => some none
  | entry => (said entry).map some

/-- What is written as a value of a type is read as that value, and is no table: tables of several files are
merged instead of replaced. -/
def Refines {α : Type} (said : Entry → Option α) (read : Entry → Except EntryError α) : Prop :=
  ∀ entry value, said entry = some value → read entry = .ok value ∧ entry.isTable = false

theorem refines_text : Refines text? asText := by
  intro entry value said
  cases entry with
  | text origin text =>
    obtain rfl := Option.some.inj said
    exact ⟨rfl, rfl⟩
  | _ => cases said

theorem mapM_asText {items : List Entry} {listed : List String} (said : items.mapM text? = some listed)
    (index : Nat) :
    ((items.zipIdx index).mapM fun (item, i) => item.asText.mapError (EntryError.underItem i)) =
      .ok listed := by
  induction items generalizing listed index with
  | nil =>
    obtain rfl := Option.some.inj said
    rfl
  | cons item items ih =>
    rw [List.mapM_cons] at said
    obtain ⟨text, first, said⟩ := Option.bind_eq_some_iff.mp said
    obtain ⟨later, others, said⟩ := Option.bind_eq_some_iff.mp said
    obtain rfl := Option.some.inj said
    have reads : item.asText.mapError (EntryError.underItem index) = .ok text := by
      rw [(refines_text item text first).1]
      rfl
    have rest := ih others (index + 1)
    rw [List.zipIdx_cons, List.mapM_cons]
    simp only [reads, bind, Except.bind] at rest ⊢
    rw [rest]
    rfl

theorem refines_texts : Refines texts? texts := by
  intro entry listed said
  cases entry with
  | list origin items => exact ⟨mapM_asText said 0, rfl⟩
  | _ => cases said

theorem refines_path : Refines path? readPath := by
  intro entry path said
  obtain ⟨text, found, rfl⟩ := Option.map_eq_some_iff.mp said
  obtain ⟨reads, plain⟩ := refines_text entry text found
  rw [readPath, reads]
  exact ⟨rfl, plain⟩

theorem refines_natural : Refines natural? count := by
  intro entry value said
  cases entry with
  | int origin number =>
    obtain ⟨⟨positive, -⟩, same⟩ := Option.ite_none_right_eq_some.mp said
    obtain rfl := Option.some.inj same
    rw [count, if_neg (Int.not_lt.mpr positive)]
    exact ⟨rfl, rfl⟩
  | _ => cases said

theorem refines_truth : Refines truth? flag := by
  intro entry value said
  cases entry with
  | bool origin truth =>
    obtain rfl := Option.some.inj said
    exact ⟨rfl, rfl⟩
  | _ => cases said

theorem refines_mode : Refines mode? readMode := by
  intro entry mode said
  cases entry with
  | text origin name =>
    rw [mode?, text?] at said
    split at said
    · next same =>
      obtain rfl := Option.some.inj same
      obtain rfl := Option.some.inj said
      exact ⟨rfl, rfl⟩
    · next same =>
      obtain rfl := Option.some.inj same
      obtain rfl := Option.some.inj said
      exact ⟨rfl, rfl⟩
    · cases said
  | _ => cases said

theorem Refines.orNull {α : Type} {said : Entry → Option α} {read : Entry → Except EntryError α}
    (refines : Refines said read) : Refines (Entry.orNull said) (optional read) := by
  intro entry value given
  cases entry with
  | nil origin =>
    obtain rfl := Option.some.inj given
    exact ⟨rfl, rfl⟩
  | _ =>
    obtain ⟨inner, found, rfl⟩ := Option.map_eq_some_iff.mp given
    obtain ⟨reads, plain⟩ := refines _ inner found
    refine ⟨?_, plain⟩
    rw [optional, reads]
    · rfl
    · simp

end Entry

inductive Field where
  | rootPath
  | fileExtensions
  | ignorePatterns
  | workerCount
  | counterCount
  | stopwordsPath
  | decoding
  | logLevel
  | outputPath
  | statsOnly

namespace Field

def name : Field → String
  | rootPath => "root_path"
  | fileExtensions => "file_extensions"
  | ignorePatterns => "ignore_patterns"
  | workerCount => "worker_count"
  | counterCount => "counter_count"
  | stopwordsPath => "stopwords_path"
  | decoding => "encoding_mode"
  | logLevel => "log_level"
  | outputPath => "output_path"
  | statsOnly => "stats_only"

def Value : Field → Type
  | rootPath => Path
  | fileExtensions => Option (List String)
  | ignorePatterns => List String
  | workerCount | counterCount => UInt64
  | stopwordsPath | outputPath => Option Path
  | decoding => Decoding
  | logLevel => String
  | statsOnly => Bool

instance : (field : Field) → DecidableEq field.Value
  | rootPath => inferInstanceAs (DecidableEq Path)
  | fileExtensions => inferInstanceAs (DecidableEq (Option (List String)))
  | ignorePatterns => inferInstanceAs (DecidableEq (List String))
  | workerCount | counterCount => inferInstanceAs (DecidableEq UInt64)
  | stopwordsPath | outputPath => inferInstanceAs (DecidableEq (Option Path))
  | decoding => inferInstanceAs (DecidableEq Decoding)
  | logLevel => inferInstanceAs (DecidableEq String)
  | statsOnly => inferInstanceAs (DecidableEq Bool)

def get : (field : Field) → Settings → field.Value
  | rootPath => Settings.rootPath
  | fileExtensions => Settings.fileExtensions
  | ignorePatterns => Settings.ignorePatterns
  | workerCount => Settings.workerCount
  | counterCount => Settings.counterCount
  | stopwordsPath => Settings.stopwordsPath
  | decoding => Settings.decoding
  | logLevel => Settings.logLevel
  | outputPath => Settings.outputPath
  | statsOnly => Settings.statsOnly

def read : (field : Field) → Entry → Except EntryError field.Value
  | rootPath => readPath
  | fileExtensions => Entry.optional Entry.texts
  | ignorePatterns => Entry.texts
  | workerCount | counterCount => Entry.count
  | stopwordsPath | outputPath => Entry.optional readPath
  | decoding => readMode
  | logLevel => Entry.asText
  | statsOnly => Entry.flag

/-- The value of the field's type as which an entry is written, if it is; where there need not be a value, it is
null that says so. What only counts as such a value, like a number spelled as a text, is not meant. -/
def said? : (field : Field) → Entry → Option field.Value
  | rootPath => Entry.path?
  | fileExtensions => Entry.orNull Entry.texts?
  | ignorePatterns => Entry.texts?
  | workerCount | counterCount => Entry.natural?
  | stopwordsPath | outputPath => Entry.orNull Entry.path?
  | decoding => Entry.mode?
  | logLevel => Entry.text?
  | statsOnly => Entry.truth?

theorem refines (field : Field) : Entry.Refines field.said? field.read := by
  cases field with
  | rootPath => exact Entry.refines_path
  | fileExtensions => exact Entry.refines_texts.orNull
  | ignorePatterns => exact Entry.refines_texts
  | workerCount | counterCount => exact Entry.refines_natural
  | stopwordsPath | outputPath => exact Entry.refines_path.orNull
  | decoding => exact Entry.refines_mode
  | logLevel => exact Entry.refines_text
  | statsOnly => exact Entry.refines_truth

def all : List Field := [rootPath, fileExtensions, ignorePatterns, workerCount, counterCount, stopwordsPath,
  decoding, logLevel, outputPath, statsOnly]

theorem mem_all (field : Field) : field ∈ all := by
  cases field <;> simp [all]

theorem find?_name (field : Field) : all.find? (·.name == field.name) = some field := by
  cases field <;> rfl

theorem name_injective {a b : Field} (same : a.name = b.name) : a = b := by
  have found := find?_name a
  rw [same, find?_name b] at found
  exact (Option.some.inj found).symm

end Field

def ofValues (value : (field : Field) → field.Value) : Settings where
  rootPath := value .rootPath
  fileExtensions := value .fileExtensions
  ignorePatterns := value .ignorePatterns
  workerCount := value .workerCount
  counterCount := value .counterCount
  stopwordsPath := value .stopwordsPath
  decoding := value .decoding
  logLevel := value .logLevel
  outputPath := value .outputPath
  statsOnly := value .statsOnly

theorem get_ofValues (value : (field : Field) → field.Value) (field : Field) :
    field.get (ofValues value) = value field := by
  cases field <;> rfl

theorem Field.eq_of_get {a b : Settings} (same : ∀ field : Field, field.get a = field.get b) : a = b := by
  have whole : ∀ s : Settings, ofValues (fun field => field.get s) = s := fun _ => rfl
  rw [← whole a, ← whole b, funext same]

end CorpusTally.Settings
