import CorpusTally.CommandLine.Arguments

/-!
What becomes of options that are laid over the settings of the files. An option that is not given leaves
the value of the files. One that is given prevails unless its value is the default, which counts as not
given.
-/

namespace CorpusTally

namespace Settings

theorem sameOptionalPath_refl (path : Option Path) : sameOptionalPath path path = true := by
  cases path <;> simp [sameOptionalPath, Path.same]

structure Same (a b : Settings) : Prop where
  rootPath : a.rootPath.same b.rootPath = true
  fileExtensions : a.fileExtensions = b.fileExtensions
  ignorePatterns : a.ignorePatterns = b.ignorePatterns
  workerCount : a.workerCount = b.workerCount
  counterCount : a.counterCount = b.counterCount
  stopwordsPath : sameOptionalPath a.stopwordsPath b.stopwordsPath = true
  decoding : a.decoding = b.decoding
  logLevel : a.logLevel = b.logLevel
  outputPath : sameOptionalPath a.outputPath b.outputPath = true
  statsOnly : a.statsOnly = b.statsOnly

/-- A value that may be given prevails over the lower layer, but for one case: it is given, is a default
and finds another value below. -/
theorem cover_getD_iff {α : Type} (same : α → α → Prop) (refl : ∀ a, same a a)
    (isDefault : α → Bool) {default : α} (usual : isDefault default = true) (lower : α)
    (given : Option α) :
    same (cover isDefault lower (given.getD default)) (given.getD lower) ↔
      ∀ value, given = some value → isDefault value = true → same lower value := by
  cases given with
  | none => simp [cover, usual, refl]
  | some value =>
    by_cases hidden : isDefault value = true
    · simp [cover, hidden]
    · simp [cover, hidden, refl]

theorem cover_or_iff {α : Type} (same : Option α → Option α → Prop) (refl : ∀ a, same a a)
    (isDefault : Option α → Bool) {default : Option α} (usual : isDefault default = true)
    (lower given : Option α) :
    same (cover isDefault lower (given.or default)) (given.or lower) ↔
      ∀ value, given = some value → isDefault (some value) = true → same lower (some value) := by
  have law := cover_getD_iff same refl isDefault usual lower (given.map some)
  cases given with
  | none => simpa using law
  | some value => simpa using law

end Settings

namespace CommandLine

open Settings (sameOptionalPath sameOptionalPath_refl cover_getD_iff cover_or_iff)

namespace Options

/-- What the user asks for: each value that is given, and that of the files for all others. -/
def wanted (o : Options) (file : Settings) : Settings where
  rootPath := o.root.getD file.rootPath
  fileExtensions := (o.extensions.map extensionsOf).or file.fileExtensions
  ignorePatterns := if o.ignore = [] then file.ignorePatterns else o.ignore
  workerCount := o.workers.getD file.workerCount
  counterCount := o.counters.getD file.counterCount
  stopwordsPath := o.stopwords.or file.stopwordsPath
  decoding := o.encoding.getD file.decoding
  logLevel := o.logLevel.getD file.logLevel
  outputPath := o.output.or file.outputPath
  statsOnly := o.stats || file.statsOnly

/-- Where an option is given with a value that is the default, the files have this value too. -/
structure DefaultsAgree (o : Options) (file : Settings) : Prop where
  root : ∀ path, o.root = some path → path.same ({} : Settings).rootPath = true →
    file.rootPath.same path = true
  extensions : ∀ list, o.extensions.map extensionsOf = some list →
    some list = ({} : Settings).fileExtensions → file.fileExtensions = some list
  workers : ∀ n, o.workers = some n → n = ({} : Settings).workerCount → file.workerCount = n
  counters : ∀ n, o.counters = some n → n = ({} : Settings).counterCount → file.counterCount = n
  stopwords : ∀ path, o.stopwords = some path →
    sameOptionalPath (some path) ({} : Settings).stopwordsPath = true →
    sameOptionalPath file.stopwordsPath (some path) = true
  encoding : ∀ mode, o.encoding = some mode → mode = ({} : Settings).decoding → file.decoding = mode
  logLevel : ∀ level, o.logLevel = some level → level = ({} : Settings).logLevel →
    file.logLevel = level

private theorem cover_eq_iff {α : Type} [DecidableEq α] (default lower : α) (given : Option α) :
    Settings.cover (· == default) lower (given.getD default) = given.getD lower ↔
      ∀ value, given = some value → value = default → lower = value := by
  have law := cover_getD_iff Eq (fun _ => rfl) (· == default) (beq_self_eq_true default) lower given
  simpa using law

variable (o : Options) (file : Settings)

private theorem rootPath_iff :
    (file.merge o.settings).rootPath.same (o.wanted file).rootPath = true ↔
      ∀ path, o.root = some path → path.same ({} : Settings).rootPath = true →
        file.rootPath.same path = true :=
  cover_getD_iff (fun a b : Path => a.same b = true) (by simp [Path.same])
    (·.same ({} : Settings).rootPath) (by simp [Path.same]) file.rootPath o.root

private theorem fileExtensions_iff :
    (file.merge o.settings).fileExtensions = (o.wanted file).fileExtensions ↔
      ∀ list, o.extensions.map extensionsOf = some list →
        some list = ({} : Settings).fileExtensions → file.fileExtensions = some list := by
  have law := cover_or_iff Eq (fun _ => rfl) (· == ({} : Settings).fileExtensions)
    (beq_self_eq_true _) file.fileExtensions (o.extensions.map extensionsOf)
  simp only [beq_iff_eq] at law
  exact law

private theorem stopwordsPath_iff :
    sameOptionalPath (file.merge o.settings).stopwordsPath (o.wanted file).stopwordsPath = true ↔
      ∀ path, o.stopwords = some path →
        sameOptionalPath (some path) ({} : Settings).stopwordsPath = true →
        sameOptionalPath file.stopwordsPath (some path) = true :=
  cover_or_iff (fun a b => sameOptionalPath a b = true) sameOptionalPath_refl
    (sameOptionalPath · ({} : Settings).stopwordsPath) (sameOptionalPath_refl _) file.stopwordsPath
    o.stopwords

private theorem ignorePatterns_eq :
    (file.merge o.settings).ignorePatterns = (o.wanted file).ignorePatterns := by
  simp [Settings.merge, settings, wanted, Settings.cover, List.isEmpty_iff]

private theorem outputPath_eq :
    (file.merge o.settings).outputPath = (o.wanted file).outputPath := by
  cases given : o.output <;> simp [Settings.merge, settings, wanted, Settings.cover, given]

private theorem statsOnly_eq :
    (file.merge o.settings).statsOnly = (o.wanted file).statsOnly := by
  cases given : o.stats <;> simp [Settings.merge, settings, wanted, Settings.cover, given]

/-- Laid over the settings of the files, the options give what the user asks for, setting by setting,
exactly if no option repeats a default that the files have changed. -/
theorem merge_same_wanted_iff :
    (file.merge o.settings).Same (o.wanted file) ↔ o.DefaultsAgree file := by
  have workers := cover_eq_iff ({} : Settings).workerCount file.workerCount o.workers
  have counters := cover_eq_iff ({} : Settings).counterCount file.counterCount o.counters
  have encoding := cover_eq_iff ({} : Settings).decoding file.decoding o.encoding
  have logLevel := cover_eq_iff ({} : Settings).logLevel file.logLevel o.logLevel
  constructor
  · intro same
    exact {
      root := (rootPath_iff o file).mp same.rootPath
      extensions := (fileExtensions_iff o file).mp same.fileExtensions
      workers := workers.mp same.workerCount
      counters := counters.mp same.counterCount
      stopwords := (stopwordsPath_iff o file).mp same.stopwordsPath
      encoding := encoding.mp same.decoding
      logLevel := logLevel.mp same.logLevel }
  · intro agree
    exact {
      rootPath := (rootPath_iff o file).mpr agree.root
      fileExtensions := (fileExtensions_iff o file).mpr agree.extensions
      ignorePatterns := ignorePatterns_eq o file
      workerCount := workers.mpr agree.workers
      counterCount := counters.mpr agree.counters
      stopwordsPath := (stopwordsPath_iff o file).mpr agree.stopwords
      decoding := encoding.mpr agree.encoding
      logLevel := logLevel.mpr agree.logLevel
      outputPath := outputPath_eq o file ▸ sameOptionalPath_refl _
      statsOnly := statsOnly_eq o file }

/-- Files that ask for other extensions keep them against an option that asks for the usual ones. -/
theorem not_merge_same_wanted_of_usual_extensions :
    readAnalyze ["-e", "txt"] = .ok (.analyze { extensions := some "txt" }) ∧
    ¬ (({ fileExtensions := some ["md"] } : Settings).merge
        ({ extensions := some "txt" } : Options).settings).Same
      (({ extensions := some "txt" } : Options).wanted { fileExtensions := some ["md"] }) := by
  refine ⟨by rfl, fun same => ?_⟩
  have agree := (merge_same_wanted_iff _ _).mp same
  have usual : extensionsOf "txt" = ["txt"] := by decide
  have kept := agree.extensions _ rfl (congrArg some usual)
  simp [usual] at kept

end Options

end CommandLine

end CorpusTally
