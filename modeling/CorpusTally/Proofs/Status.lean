import CorpusTally.CommandLine.Program
import CorpusTally.Proofs.Course

/-!
The status that the command ends with. Once the settings are accepted and the root is there, no file that is
analyzed can make it other than zero. A report that cannot be written does: the command ends before it prints
what it has found.
-/

namespace CorpusTally

theorem Report.io_of_write {r : Report} {t : FileTree} {target : Path} {e : CorpusError}
    (broken : (r.write t target).2 = .error e) : ∃ cause, e = .io cause := by
  unfold write at broken
  split at broken
  · exact ⟨_, (Except.error.inj broken).symm⟩
  · split at broken
    · exact ⟨_, (Except.error.inj broken).symm⟩
    · split at broken
      · exact ⟨_, (Except.error.inj broken).symm⟩
      · cases broken

namespace CommandLine

variable {s : Surroundings} {settings : Settings} {report : Report} {target : Path}

/-- The status is zero, and the output ends with the summary of the report. -/
def Outcome.Concludes (outcome : Outcome) (report : Report) : Prop :=
  outcome.status = 0 ∧ ∃ blocks, outcome.output = blocks ++ summaryLine report

private theorem finish_of_written {t : FileTree}
    (written : writeReport s.tree settings report = (t, .ok ())) :
    (finish s.tree settings report).Concludes report := by
  simp only [finish, written]
  exact ⟨rfl, _, rfl⟩

private theorem finish_of_unwritten {e : CorpusError} (wanted : settings.outputPath = some target)
    (broken : (report.write s.tree target).2 = .error e) :
    finish s.tree settings report = failed (report.write s.tree target).1 e := by
  have both : report.write s.tree target = ((report.write s.tree target).1, .error e) :=
    Prod.ext rfl broken
  simp only [finish, writeReport, wanted]
  rw [both]

theorem finish_concludes_iff :
    (finish s.tree settings report).Concludes report ↔
      ∀ target, settings.outputPath = some target → (report.write s.tree target).2 = .ok () := by
  constructor
  · rintro ⟨zero, -⟩ target wanted
    match written : (report.write s.tree target).2 with
    | .ok () => rfl
    | .error e =>
      rw [finish_of_unwritten wanted written] at zero
      cases zero
  · intro writes
    match wanted : settings.outputPath with
    | none => exact finish_of_written (t := s.tree) (by rw [writeReport, wanted])
    | some target =>
      refine finish_of_written (t := (report.write s.tree target).1) ?_
      rw [writeReport, wanted]
      exact Prod.ext rfl (writes target wanted)

theorem run_eq_finish {arguments : List String} {options : Options}
    (asked : read arguments = .ok (.analyze options))
    (loaded : settingsOf s options = .ok (.ok settings)) {ended : Analysis.Run}
    (analyzed : Analysis.run s settings = .ok (.ok ended)) :
    run s arguments = finish s.tree settings ended.report := by
  simp only [run, asked, runRequest, analyze, loaded, analyzeWith, analyzed, bind, Except.bind, Except.map]

/-- Arguments that are read, settings that are accepted and a root that is there lead to a report, whatever
the files are, whichever of them cannot be read and in whatever order they are counted. The command ends with
zero and the summary of the report exactly if there is nowhere to write it or it can be written. Else it ends
with one and prints nothing but the error. -/
theorem concludes_iff_written (s : Surroundings) (storable : s.tree.Storable) (reading : s.tree.Reading)
    {arguments : List String} {options : Options} {settings : Settings}
    (asked : read arguments = .ok (.analyze options))
    (loaded : settingsOf s options = .ok (.ok settings)) (staffed : settings.Staffed)
    (present : s.tree.isPresent settings.rootPath = true) :
    (∃ report reads,
      Reaches (Analysis.Step (.whole s.tree) settings) (.checking, []) (.ended (.ok report), reads) ∧
      run s arguments = finish s.tree settings report) ∧
    Ends (Analysis.Step reading settings) (.checking, []) ∧
    ∀ phase reads, Reaches (Analysis.Step reading settings) (.checking, []) (phase, reads) →
      ((∃ next, Analysis.Step reading settings (phase, reads) next) ∨ ∃ answer, phase = .ended answer) ∧
      ∀ answer, phase = .ended answer → ∃ report, answer = .ok report ∧
        ((finish s.tree settings report).Concludes report ↔
          ∀ target, settings.outputPath = some target → (report.write s.tree target).2 = .ok ()) ∧
        ∀ target e, settings.outputPath = some target → (report.write s.tree target).2 = .error e →
          (∃ cause, e = .io cause) ∧
          finish s.tree settings report = failed (report.write s.tree target).1 e := by
  refine ⟨?_, Analysis.ends storable reading settings, fun phase reads course => ?_⟩
  · obtain ⟨answer, reads, analyzed, course⟩ := Analysis.reaches_run storable settings
    obtain ⟨valid, -⟩ := Analysis.valid_of_reaches storable course
    obtain ⟨report, ended⟩ := Analysis.Phase.Valid.exists_report staffed present valid
    match answer with
    | .error e => cases ended
    | .ok ended => exact ⟨ended.report, reads, course, run_eq_finish asked loaded analyzed⟩
  · obtain ⟨valid, goesOn⟩ := Analysis.valid_of_reaches storable course
    refine ⟨goesOn, ?_⟩
    rintro answer rfl
    obtain ⟨report, rfl⟩ := Analysis.Phase.Valid.exists_report staffed present valid
    exact ⟨report, rfl, finish_concludes_iff, fun target e wanted broken =>
      ⟨Report.io_of_write broken, finish_of_unwritten wanted broken⟩⟩

def singleFile : Surroundings where
  tree := { nodes := [([Utf8.encode "a.txt"], .file (Utf8.encode "alpha"))] }
  home := Path.ofString "/home"

/-- A report that is to be written below a file. -/
theorem not_concludes_below_file :
    (run singleFile ["analyze", "-o", "a.txt/x.json"]).status = 1 ∧
    (run singleFile ["analyze", "-o", "a.txt/x.json"]).output = "" := by
  have storable : singleFile.tree.Storable := by decide +kernel
  have asked : read ["analyze", "-o", "a.txt/x.json"] =
      .ok (.analyze { output := some (.ofString "a.txt/x.json") }) := by rfl
  have loaded : settingsOf singleFile { output := some (.ofString "a.txt/x.json") } =
      .ok (.ok { outputPath := some (.ofString "a.txt/x.json") }) := by rfl
  have staffed : Settings.Staffed { outputPath := some (.ofString "a.txt/x.json") } := by decide
  have present : singleFile.tree.isPresent (.ofString ".") = true := by decide +kernel
  have barred : Report.makeRoom singleFile.tree (.ofString "a.txt/x.json") =
      (singleFile.tree, .error .alreadyExists) := by rfl
  obtain ⟨⟨report, reads, course, ran⟩, -, every⟩ :=
    concludes_iff_written singleFile storable (.whole _) asked loaded staffed present
  obtain ⟨_, ⟨⟩, -, unwritten⟩ := (every _ _ course).2 _ rfl
  have broken : (report.write singleFile.tree (.ofString "a.txt/x.json")).2 =
      .error (.io .alreadyExists) := by
    rw [Report.write, barred]
  rw [ran, (unwritten _ _ rfl broken).2]
  exact ⟨rfl, rfl⟩

end CommandLine

end CorpusTally
