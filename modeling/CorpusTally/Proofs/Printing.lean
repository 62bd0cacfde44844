import CorpusTally.Proofs.Status

/-!
What the command prints. Its own lines for a file are the text of the file's result, and the numbers of the
summary, which are kept beside the lists, are those of the lists.
-/

namespace CorpusTally

namespace Report

def shownCounts (r : Report) : List UInt64 :=
  r.results.flatMap fun result => result.orderedWords.map (·.count)

theorem sumOf_shownCounts (r : Report) : sumOf r.shownCounts = wordsIn r.results := by
  have each (result : FileTally) :
      sumOf (result.orderedWords.map (·.count)) = sumOf (result.words.map (·.count)) :=
    sumOf_eq_of_perm ((WordCount.sort_perm result.words).map (·.count))
  unfold shownCounts wordsIn
  induction r.results with
  | nil => rfl
  | cons result results ih =>
    have split : sumOf (result.orderedWords.map (·.count) ++
        results.flatMap fun result => result.orderedWords.map (·.count)) =
        sumOf (result.orderedWords.map (·.count)) +
          sumOf (results.flatMap fun result => result.orderedWords.map (·.count)) := by
      simp only [sumOf, List.map_append, List.sum_append]
    rw [List.flatMap_cons, split, ih, each, List.map_cons, List.sum_cons]

end Report

namespace Analysis

variable {s : Surroundings} {settings : Settings} {reading : s.tree.Reading}
variable {a b : Phase reading settings × List Path}

def Phase.Sound : Phase reading settings → Prop
  | ended (.ok report) => report.Exact
  | ended (.error _) | checking | searching _ | counting _ _ _ | crashed _ => True

theorem Step.sound (step : Step reading settings a b) : b.1.Sound := by
  cases step with
  | refuse | check | miss | search | work | crash => trivial
  | @answer c w pool report _ reported =>
    match stands : pool.orchestrator with
    | .free | .waiting | .draining _ | .closing _ _ => simp [stands, Orchestrator.report?] at reported
    | .reported results failures =>
      rw [stands, Orchestrator.report?, Option.some.injEq] at reported
      exact (Report.exact_of_gather reported).sorted

/-- Every report that an analysis ends with is exact, in whatever order its threads went on. -/
theorem exact_of_reaches {report : Report} {reads : List Path}
    (course : Reaches (Step reading settings) (.checking, []) (.ended (.ok report), reads)) :
    report.Exact := by
  have keeps : ∀ {a b : Phase reading settings × List Path}, a.1.Sound → Step reading settings a b →
      b.1.Sound := fun _ step => step.sound
  have begins : (Phase.checking : Phase reading settings).Sound := trivial
  exact course.keeps keeps begins

theorem exact_of_countFiles {counters : Nat} {files : List Path} {report : Report} {stats : Stats}
    (counted : countFiles s settings counters files = .ok (report, stats)) : report.Exact := by
  obtain ⟨whole, gathered, rest⟩ := bind_eq_ok counted
  obtain ⟨rfl, -⟩ := Prod.mk.inj (Except.ok.inj rest)
  exact (Report.exact_of_gather gathered).sorted

theorem exact_of_run {ended : Run} (analyzed : run s settings = .ok (.ok ended)) :
    ended.report.Exact := by
  unfold run at analyzed
  split at analyzed
  · cases analyzed
  · next c _ _ =>
    split at analyzed
    · cases analyzed
    · next files _ _ =>
      obtain ⟨_, counted, rest⟩ := bind_eq_ok analyzed
      obtain rfl := Except.ok.inj (Except.ok.inj rest)
      exact exact_of_countFiles counted

end Analysis

namespace CommandLine

variable {s : Surroundings} {settings : Settings} {report : Report}

theorem printLines_append (lines others : List String) :
    printLines (lines ++ others) = printLines lines ++ printLines others := by
  rw [printLines, List.map_append, String.join_append]
  rfl

theorem printLines_cons (line : String) (lines : List String) :
    printLines (line :: lines) = line ++ "\n" ++ printLines lines := by
  rw [printLines, List.map_cons, String.join_cons]
  rfl

theorem printLines_fileLines (r : FileTally) : printLines (fileLines r) = r.display := by
  have words : printLines (r.orderedWords.map fun w => s!"\t{w.word}: {w.count}") =
      String.join (r.orderedWords.map FileTally.wordLine) := by
    rw [printLines, List.map_map]
    rfl
  have name : s!"{r.fileName}:" ++ "\n" = s!"{r.fileName}:\n" := String.append_assoc
  rw [fileLines, printLines_cons, words, name, FileTally.display]

theorem printLines_flatMap (results : List FileTally) :
    printLines (results.flatMap fileLines) = String.join (results.map FileTally.display) := by
  induction results with
  | nil => rfl
  | cons result results ih =>
    rw [List.flatMap_cons, printLines_append, printLines_fileLines, ih, List.map_cons, String.join_cons]

theorem printed_eq (r : Report) (statsOnly : Bool) :
    printed r statsOnly = (if statsOnly then "" else r.display) ++ summaryLine r := by
  rw [printed, printLines_flatMap, Report.display]

/-- The summary with the figures of the lists: the files that are shown, and the sum of all counts that are. -/
def shownSummary (r : Report) : String :=
  s!"Analyzed {r.results.length} files ({r.failures.length} failed), {sumOf r.shownCounts} words\n"

theorem summaryLine_eq (sound : report.Exact) : summaryLine report = shownSummary report := by
  rw [shownSummary, Report.sumOf_shownCounts, ← sound.analyzed, ← sound.failed, ← sound.words]
  rfl

/-- The output is the display of the report, unless only the summary is wanted, and the summary behind it. -/
def Outcome.Renders (outcome : Outcome) (report : Report) (statsOnly : Bool) : Prop :=
  outcome.output = (if statsOnly then "" else report.display) ++ summaryLine report ∧
    summaryLine report = shownSummary report

theorem finish_renders (sound : report.Exact) (done : (finish s.tree settings report).status = 0) :
    (finish s.tree settings report).Renders report settings.statsOnly := by
  refine ⟨?_, summaryLine_eq sound⟩
  match written : writeReport s.tree settings report with
  | (tree, .error e) =>
    simp only [finish, written] at done
    cases done
  | (tree, .ok ()) =>
    simp only [finish, written]
    exact printed_eq report settings.statsOnly

theorem exists_ended_of_status {arguments : List String} {options : Options}
    (asked : read arguments = .ok (.analyze options)) (done : (run s arguments).status = 0) :
    ∃ settings ended, settingsOf s options = .ok (.ok settings) ∧
      Analysis.run s settings = .ok (.ok ended) := by
  simp only [run, asked, runRequest] at done
  cases answered : analyze s options with
  | error crash =>
    simp only [answered] at done
    cases done
  | ok outcome =>
    simp only [answered] at done
    obtain ⟨loaded, found, rest⟩ := bind_eq_ok answered
    cases loaded with
    | error e =>
      obtain rfl := Except.ok.inj rest
      cases done
    | ok settings =>
      refine ⟨settings, ?_⟩
      cases analyzed : Analysis.run s settings with
      | error crash =>
        simp only [analyzeWith, analyzed, Except.map] at rest
        cases rest
      | ok answer =>
        simp only [analyzeWith, analyzed, Except.map] at rest
        cases answer with
        | error e =>
          obtain rfl := Except.ok.inj rest
          cases done
        | ok ended => exact ⟨ended, found, rfl⟩

/-- A run that ends with zero has printed its report, with the figures of its lists in the summary. So does
an analysis that takes everything in order as one whose threads go on in any other order, with any number of
workers and counters. -/
theorem output_of_run (s : Surroundings) :
    (∀ (settings : Settings) (reading : s.tree.Reading) (report : Report) (reads : List Path),
      Reaches (Analysis.Step reading settings) (.checking, []) (.ended (.ok report), reads) →
      (finish s.tree settings report).status = 0 →
      (finish s.tree settings report).Renders report settings.statsOnly) ∧
    ∀ (arguments : List String) (options : Options), read arguments = .ok (.analyze options) →
      (run s arguments).status = 0 →
      ∃ settings ended, settingsOf s options = .ok (.ok settings) ∧
        Analysis.run s settings = .ok (.ok ended) ∧
        run s arguments = finish s.tree settings ended.report ∧
        (run s arguments).Renders ended.report settings.statsOnly := by
  refine ⟨fun settings reading report reads course done => ?_, fun arguments options asked done => ?_⟩
  · exact finish_renders (Analysis.exact_of_reaches course) done
  · obtain ⟨settings, ended, loaded, analyzed⟩ := exists_ended_of_status asked done
    have same := run_eq_finish asked loaded analyzed
    rw [same] at done ⊢
    exact ⟨settings, ended, loaded, analyzed, rfl, finish_renders (Analysis.exact_of_run analyzed) done⟩

theorem output_of_singleFile :
    ∃ report reads,
      Reaches (Analysis.Step (.whole singleFile.tree) {}) (.checking, []) (.ended (.ok report), reads) ∧
      (finish singleFile.tree {} report).output = report.display ++ shownSummary report ∧
      (run singleFile ["analyze"]).output = report.display ++ shownSummary report := by
  have storable : singleFile.tree.Storable := by decide +kernel
  have present : singleFile.tree.isPresent (.ofString ".") = true := by decide +kernel
  have staffed : Settings.Staffed {} := by decide
  have asked : read ["analyze"] = .ok (.analyze {}) := by rfl
  have loaded : settingsOf singleFile {} = .ok (.ok {}) := by rfl
  obtain ⟨answer, reads, analyzed, course⟩ := Analysis.reaches_run storable {}
  obtain ⟨valid, -⟩ := Analysis.valid_of_reaches storable course
  obtain ⟨report, same⟩ := Analysis.Phase.Valid.exists_report staffed present valid
  match answer with
  | .error e => cases same
  | .ok ended =>
    have done : (finish singleFile.tree {} ended.report).status = 0 := by rfl
    have ran := run_eq_finish asked loaded analyzed
    obtain ⟨inAnyOrder, inOrder⟩ := output_of_run singleFile
    obtain ⟨shown, figures⟩ := inAnyOrder {} _ ended.report reads course done
    obtain ⟨settings, other, accepted, again, -, printed, others⟩ :=
      inOrder ["analyze"] {} asked (ran ▸ done)
    obtain rfl := Except.ok.inj (Except.ok.inj (loaded.symm.trans accepted))
    obtain rfl := Except.ok.inj (Except.ok.inj (analyzed.symm.trans again))
    exact ⟨ended.report, reads, course, figures ▸ shown, others ▸ printed⟩

end CommandLine

end CorpusTally
