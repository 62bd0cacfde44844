import CorpusTally.Analysis
import CorpusTally.Proofs.Pool.FileWork
import CorpusTally.Proofs.Sorting

/-!
The answer of an analysis for files that are done in some order. The order shows in nothing but the
places of results that share their file name, and there it does show.
-/

namespace CorpusTally

namespace Analysis

variable {s : Surroundings} {settings : Settings} {paths others : List Path}

def outcomeOf (s : Surroundings) (settings : Settings) : Path → Outcome :=
  (fileCounter s settings 1).outcome ((workbench settings).tokenizer.stopwords.view s.tree.read)

def resultsOf (s : Surroundings) (settings : Settings) (paths : List Path) : List FileTally :=
  Workers.results (paths.map (outcomeOf s settings))

def failuresOf (s : Surroundings) (settings : Settings) (paths : List Path) : List FailedFile :=
  Workers.failures (paths.map (outcomeOf s settings))

def answerFor (s : Surroundings) (settings : Settings) (paths : List Path) : Except Crash Report :=
  (Workers.report (paths.map (outcomeOf s settings))).map Report.sorted

theorem answerFor_eq (s : Surroundings) (settings : Settings) (paths : List Path) :
    answerFor s settings paths =
      if Report.Fits (resultsOf s settings paths) (failuresOf s settings paths)
      then .ok (Report.ofItems (resultsOf s settings paths) (failuresOf s settings paths)).sorted
      else .error .sumTooLarge := by
  rw [answerFor, Workers.report, Workers.gather_eq]
  unfold resultsOf failuresOf
  split <;> rfl

theorem resultsOf_append (s : Surroundings) (settings : Settings) (paths others : List Path) :
    resultsOf s settings (paths ++ others) =
      resultsOf s settings paths ++ resultsOf s settings others := by
  rw [resultsOf, List.map_append, Workers.results_append]
  rfl

theorem resultsOf_cons {path : Path} {result : FileTally}
    (counted : outcomeOf s settings path = .ok result) (later : List Path) :
    resultsOf s settings (path :: later) = result :: resultsOf s settings later := by
  simp [resultsOf, Workers.results, counted, Except.toOption]

theorem resultsOf_perm (s : Surroundings) (settings : Settings) (perm : paths.Perm others) :
    (resultsOf s settings paths).Perm (resultsOf s settings others) := (perm.map _).filterMap _

theorem failuresOf_perm (s : Surroundings) (settings : Settings) (perm : paths.Perm others) :
    (failuresOf s settings paths).Perm (failuresOf s settings others) := (perm.map _).filterMap _

theorem exists_path_of_result {result : FileTally} (mem : result ∈ resultsOf s settings paths) :
    ∃ path ∈ paths, outcomeOf s settings path = .ok result := by
  obtain ⟨outcome, among, isResult⟩ := List.mem_filterMap.mp mem
  obtain ⟨path, inside, rfl⟩ := List.mem_map.mp among
  refine ⟨path, inside, ?_⟩
  match ends : outcomeOf s settings path with
  | .error failure => simp [ends, Except.toOption] at isResult
  | .ok other => simpa [ends, Except.toOption] using isResult

theorem outcome_of_failure {failure : FailedFile} (mem : failure ∈ failuresOf s settings paths) :
    failure.path ∈ paths ∧ outcomeOf s settings failure.path = .error failure := by
  obtain ⟨outcome, among, isFailure⟩ := List.mem_filterMap.mp mem
  obtain ⟨path, inside, rfl⟩ := List.mem_map.mp among
  match ends : outcomeOf s settings path with
  | .ok result => simp [ends] at isFailure
  | .error other =>
    obtain rfl : other = failure := by simpa [ends] using isFailure
    have own : other.path = path := FileCounter.path_of_outcome ends
    exact ⟨own ▸ inside, own ▸ ends⟩

def Placed (paths : List Path) : Prop := ∀ f ∈ paths, ∀ g ∈ paths, f.components = g.components → f = g

def Apart (results : List FileTally) : Prop :=
  ∀ x ∈ results, ∀ y ∈ results, x.fileName = y.fileName → x = y

theorem Apart.perm {results others : List FileTally} (apart : Apart results)
    (perm : results.Perm others) : Apart others := fun x memX y memY =>
  apart x (perm.mem_iff.mpr memX) y (perm.mem_iff.mpr memY)

theorem Placed.failures (placed : Placed paths) :
    ∀ x ∈ failuresOf s settings paths, ∀ y ∈ failuresOf s settings paths,
      x.path.components = y.path.components → x = y := by
  intro x memX y memY place
  obtain ⟨hereX, endsX⟩ := outcome_of_failure memX
  obtain ⟨hereY, endsY⟩ := outcome_of_failure memY
  have same : x.path = y.path := placed _ hereX _ hereY place
  rw [same, endsY] at endsX
  exact (Except.error.inj endsX).symm

/-- Paths in another order lead to the same failures and numbers, and to the same results in some order. -/
theorem answerFor_perm (perm : paths.Perm others) (placed : Placed paths) {r : Report}
    (first : answerFor s settings paths = .ok r) :
    ∃ results, results.Perm r.results ∧
      answerFor s settings others = .ok { r with results := results } := by
  have same := resultsOf_perm s settings perm
  have sameFailures := failuresOf_perm s settings perm
  rw [answerFor_eq] at first
  split at first
  case isFalse => cases first
  case isTrue fits =>
    obtain rfl := Except.ok.inj first
    refine ⟨(Report.ofItems (resultsOf s settings others) (failuresOf s settings others)).sorted.results,
      ?_, ?_⟩
    · have before := Report.sorted_results_perm
        (.ofItems (resultsOf s settings paths) (failuresOf s settings paths))
      have after := Report.sorted_results_perm
        (.ofItems (resultsOf s settings others) (failuresOf s settings others))
      exact after.trans (same.symm.trans before.symm)
    · rw [answerFor_eq, if_pos (fits.perm same sameFailures),
        Report.sorted_ofItems_perm same sameFailures placed.failures]

theorem results_of_answerFor {r : Report} (answers : answerFor s settings paths = .ok r) :
    r.results.Perm (resultsOf s settings paths) := by
  rw [answerFor_eq] at answers
  split at answers
  · obtain rfl := Except.ok.inj answers
    exact Report.sorted_results_perm _
  · cases answers

theorem answerFor_eq_of_apart (perm : paths.Perm others) (placed : Placed paths)
    (apart : ∀ r, answerFor s settings paths = .ok r → Apart r.results) :
    answerFor s settings paths = answerFor s settings others := by
  have same := resultsOf_perm s settings perm
  have sameFailures := failuresOf_perm s settings perm
  have before := answerFor_eq s settings paths
  rw [before, answerFor_eq s settings others]
  by_cases fits : Report.Fits (resultsOf s settings paths) (failuresOf s settings paths)
  · rw [if_pos fits] at before
    have told := (apart _ before).perm (results_of_answerFor before)
    rw [if_pos fits, if_pos (fits.perm same sameFailures),
      Report.sorted_ofItems_perm same sameFailures placed.failures,
      ← Report.sorted_results_eq same told]
  · rw [if_neg fits, if_neg fun other => fits (other.perm same.symm sameFailures.symm)]

theorem filter_of_answerFor {r : Report} (answers : answerFor s settings paths = .ok r) (name : String) :
    r.results.filter (·.fileName = name) =
      (resultsOf s settings paths).filter (·.fileName = name) := by
  rw [answerFor_eq] at answers
  split at answers
  · obtain rfl := Except.ok.inj answers
    exact Report.sorted_results_filter _ name
  · cases answers

/-- If a file may come before or after another of its name, and it does not show, they have one result. -/
theorem eq_of_answerFor_late {before between after : List Path} {late other : Path}
    {x y : FileTally} {r : Report} (countedX : outcomeOf s settings late = .ok x)
    (countedY : outcomeOf s settings other = .ok y) (sameName : x.fileName = y.fileName)
    (first : answerFor s settings (before ++ late :: (between ++ other :: after)) = .ok r)
    (second : answerFor s settings (before ++ ((between ++ [other]) ++ late :: after)) = .ok r) :
    y = x := by
  let named (paths : List Path) := (resultsOf s settings paths).filter (·.fileName = y.fileName)
  have same := (filter_of_answerFor first y.fileName).symm.trans (filter_of_answerFor second y.fileName)
  simp only [resultsOf_append, resultsOf_cons countedX, resultsOf_cons countedY, List.filter_append,
    List.filter_cons, sameName, decide_true, if_true, List.append_cancel_left_eq] at same
  have turned : (x :: (named between ++ [y])) ++ named after =
      ((named between ++ [y]) ++ [x]) ++ named after := by
    simpa [resultsOf, Workers.results, named] using same
  exact eq_of_cons_eq_append (List.append_cancel_right turned) y (by simp)

end Analysis

end CorpusTally
