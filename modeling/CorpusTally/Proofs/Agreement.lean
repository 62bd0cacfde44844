import CorpusTally.Proofs.Answers
import CorpusTally.Proofs.Pool.Arrivals
import CorpusTally.Proofs.Search

/-!
Analyses of one tree that differ in how many work at once. All come to the same items, failures and
numbers. As the results are sorted by their file names alone, results that share a name stand in the
order in which they came, and only one worker for all files brings them always in the same.
-/

namespace CorpusTally

namespace Settings

/-- All is equal but how many work at once. -/
def EqualButCounts (a b : Settings) : Prop :=
  { b with workerCount := a.workerCount, counterCount := a.counterCount } = a

theorem EqualButCounts.files_eq {a b : Settings} (alike : a.EqualButCounts b) (s : Surroundings) :
    FileSearch.files s a = FileSearch.files s b := by
  rw [← alike]
  exact FileSearch.files_congr s rfl rfl rfl

theorem EqualButCounts.answerFor_eq {a b : Settings} (alike : a.EqualButCounts b) (s : Surroundings) :
    Analysis.answerFor s a = Analysis.answerFor s b := by
  rw [← alike]
  rfl

def Staffed (settings : Settings) : Prop := 0 < settings.workerCount ∧ 0 < settings.counterCount

instance (settings : Settings) : Decidable settings.Staffed := inferInstanceAs (Decidable (_ ∧ _))

theorem Staffed.exists_concurrency {settings : Settings} (staffed : settings.Staffed) :
    ∃ c capped, settings.concurrency = .ok (c, capped) := by
  have workers : settings.workerCount.toNat ≠ 0 :=
    Nat.ne_of_gt (UInt64.lt_iff_toNat_lt.mp staffed.1)
  have counters : settings.counterCount.toNat ≠ 0 :=
    Nat.ne_of_gt (UInt64.lt_iff_toNat_lt.mp staffed.2)
  unfold concurrency Concurrency.ofCounts
  rw [dif_neg workers, dif_neg counters]
  split <;> exact ⟨_, _, rfl⟩

theorem workers_eq_one_iff {settings : Settings} {c : Concurrency} {capped : Log}
    (concurrency : settings.concurrency = .ok (c, capped)) :
    c.workers = 1 ↔ settings.workerCount = 1 := by
  have one : settings.workerCount = 1 ↔ settings.workerCount.toNat = 1 := UInt64.toNat_inj.symm
  unfold Settings.concurrency Concurrency.ofCounts at concurrency
  rw [one]
  split at concurrency
  · cases concurrency
  split at concurrency
  · cases concurrency
  split at concurrency
  case isTrue => cases concurrency; rfl
  case isFalse many =>
    -- the cap leaves more than one worker
    cases concurrency
    constructor
    · intro impossible
      cases impossible
    · intro same
      exact absurd (by rw [same]; decide) many

end Settings

namespace Analysis

variable {s : Surroundings} {settings a b : Settings} {answer : Except Crash Report}
variable {paths : List Path} {c : Concurrency} {capped found : Log}

/-- An analysis of the tree can end with this answer, as its threads may take turns. -/
def Yields (s : Surroundings) (settings : Settings) (answer : Except Crash Report) : Prop :=
  ∃ c capped paths found last gathered,
    settings.concurrency = .ok (c, capped) ∧
    FileSearch.files s settings = .ok (paths, found) ∧
    Reaches (Pool.Step (fileCounter s settings c.counters))
      (workbench settings, .start _ c.workers paths .waiting) last ∧
    last.2.orchestrator.report? = some gathered ∧
    answer = gathered.map Report.sorted

theorem serves_workbench (readFile : ReadFile) (settings : Settings) :
    (workbench settings).Serves readFile ((workbench settings).tokenizer.stopwords.view readFile) :=
  ⟨rfl, by simp [workbench, Buffers.Clean]⟩

theorem Yields.order (yields : Yields s settings answer) (proper : s.tree.Proper) :
    ∃ c capped paths found done, settings.concurrency = .ok (c, capped) ∧
      FileSearch.files s settings = .ok (paths, found) ∧ List.Perm done paths ∧
      (c.workers = 1 → done = paths) ∧ answer = answerFor s settings done := by
  obtain ⟨c, capped, paths, found, last, gathered, staffed, search, run, reported, rfl⟩ := yields
  have fits := (proper.holds settings c.counters).fits
    ((workbench settings).tokenizer.stopwords.view s.tree.read)
  have begins := Pool.underway_start (serves_workbench s.tree.read settings) fits c.workers_pos paths
  have underway := run.keeps Pool.Underway.keeps begins
  obtain ⟨done, same, perm, inOrder, -⟩ := underway.report reported
  refine ⟨c, capped, paths, found, done, staffed, search, perm, inOrder, ?_⟩
  rw [same]
  rfl

theorem yields_in_order (proper : s.tree.Proper) (staffed : settings.concurrency = .ok (c, capped))
    (search : FileSearch.files s settings = .ok (paths, found)) :
    Yields s settings (answerFor s settings paths) := by
  obtain ⟨last, run, reported⟩ := Pool.exists_report_in_order (serves_workbench s.tree.read settings)
    ((proper.holds settings c.counters).fits _) c.workers_pos paths
  exact ⟨c, capped, paths, found, last, _, staffed, search, run, reported, rfl⟩

theorem yields_late (proper : s.tree.Proper) (staffed : settings.concurrency = .ok (c, capped))
    (several : 2 ≤ c.workers) (before between after : List Path) (late : Path)
    (search : FileSearch.files s settings = .ok (before ++ late :: (between ++ after), found)) :
    Yields s settings (answerFor s settings (before ++ (between ++ late :: after))) := by
  obtain ⟨last, run, reported⟩ := Pool.exists_report_late (serves_workbench s.tree.read settings)
    ((proper.holds settings c.counters).fits _) several before between after late
  exact ⟨c, capped, _, found, last, _, staffed, search, run, reported, rfl⟩

theorem placed_of_files (proper : s.tree.Proper)
    (search : FileSearch.files s settings = .ok (paths, found)) : Placed paths :=
  fun _ memF _ memG place => FileSearch.eq_of_components_eq proper search memF memG place

section Unique

variable {r : Report}

theorem eq_of_unique (proper : s.tree.Proper) (staffed : settings.concurrency = .ok (c, capped))
    (several : 2 ≤ c.workers) (unique : ∀ q, Yields s settings q → q = .ok r)
    {before between after : List Path} {f g : Path} {x y : FileTally}
    (search : FileSearch.files s settings = .ok (before ++ f :: (between ++ g :: after), found))
    (countedX : outcomeOf s settings f = .ok x) (countedY : outcomeOf s settings g = .ok y)
    (sameName : x.fileName = y.fileName) : y = x := by
  have first : Yields s settings _ :=
    yields_late proper staffed several before [] (between ++ g :: after) f search
  have second : Yields s settings _ :=
    yields_late proper staffed several before (between ++ [g]) after f (by simpa using search)
  exact eq_of_answerFor_late countedX countedY sameName (unique _ first) (unique _ second)

private theorem split_of_two_mem {f g : Path} (memF : f ∈ paths) (memG : g ∈ paths) (other : f ≠ g) :
    ∃ before between after, paths = before ++ f :: (between ++ g :: after) ∨
      paths = before ++ g :: (between ++ f :: after) := by
  obtain ⟨before, after, rfl⟩ := List.append_of_mem memF
  rcases List.mem_append.mp memG with earlier | later
  · obtain ⟨first, between, rfl⟩ := List.append_of_mem earlier
    exact ⟨first, between, after, .inr (by simp)⟩
  · rcases List.mem_cons.mp later with same | later
    · exact absurd same.symm other
    · obtain ⟨between, last, rfl⟩ := List.append_of_mem later
      exact ⟨before, between, last, .inl rfl⟩

theorem apart_of_unique (proper : s.tree.Proper) (notOne : settings.workerCount ≠ 1)
    (unique : ∀ q, Yields s settings q → q = .ok r) (yields : Yields s settings (.ok r)) :
    Apart r.results := by
  obtain ⟨c, capped, paths, found, done, staffed, search, perm, -, answer⟩ := yields.order proper
  have several : 2 ≤ c.workers := by
    have positive := c.workers_pos
    have other := mt (Settings.workers_eq_one_iff staffed).mp notOne
    omega
  have results := (results_of_answerFor answer.symm).trans (resultsOf_perm s settings perm)
  intro x memX y memY sameName
  obtain ⟨f, memF, countedX⟩ := exists_path_of_result (results.mem_iff.mp memX)
  obtain ⟨g, memG, countedY⟩ := exists_path_of_result (results.mem_iff.mp memY)
  by_cases oneFile : f = g
  · subst oneFile
    exact Except.ok.inj (countedX.symm.trans countedY)
  · obtain ⟨before, between, after, rfl | rfl⟩ := split_of_two_mem memF memG oneFile
    · exact (eq_of_unique proper staffed several unique search countedX countedY sameName).symm
    · exact eq_of_unique proper staffed several unique search countedY countedX sameName.symm

end Unique

theorem countFiles_eq (proper : s.tree.Proper) (settings : Settings) (counters : Nat)
    (paths : List Path) :
    ∃ stats, countFiles s settings counters paths =
      (answerFor s settings paths).map fun report => (report, stats) := by
  have outcomes : (Workers.runFrom (fileCounter s settings counters) (workbench settings) paths).1 =
      paths.map (outcomeOf s settings) :=
    Workers.runFrom_eq (serves_workbench s.tree.read settings) ((proper.holds settings counters).fits _) paths
  refine ⟨(Workers.runFrom (fileCounter s settings counters) (workbench settings) paths).2.allStats, ?_⟩
  simp only [countFiles, outcomes, answerFor, bind, Except.bind, pure, Except.pure]
  cases Workers.report (paths.map (outcomeOf s settings)) <;> rfl

theorem run_yields (proper : s.tree.Proper) {ended : Run} (run : run s settings = .ok (.ok ended)) :
    Yields s settings (.ok ended.report) := by
  unfold Analysis.run at run
  split at run
  case h_1 => cases run
  case h_2 c capped staffed =>
    split at run
    case h_1 => cases run
    case h_2 paths found search =>
      obtain ⟨⟨r, _⟩, counted, rest⟩ := bind_eq_ok run
      obtain rfl := Except.ok.inj (Except.ok.inj rest)
      obtain ⟨stats, same⟩ := countFiles_eq proper settings c.counters paths
      have yields := yields_in_order proper staffed search
      rw [counted] at same
      match answer : answerFor s settings paths with
      | .error e => simp [answer, Except.map] at same
      | .ok report =>
        rw [answer] at same yields
        obtain ⟨rfl, -⟩ := Prod.mk.inj (Except.ok.inj same)
        exact yields

theorem Yields.orders {r q : Except Crash Report} (first : Yields s a r) (second : Yields s b q)
    (proper : s.tree.Proper) (alike : a.EqualButCounts b) :
    ∃ paths others, Placed paths ∧ List.Perm paths others ∧
      (a.workerCount = 1 → b.workerCount = 1 → paths = others) ∧
      r = answerFor s a paths ∧ q = answerFor s a others := by
  obtain ⟨c, _, files, _, done, concurrencyA, search, permA, inOrderA, rfl⟩ := first.order proper
  obtain ⟨d, _, same, _, others, concurrencyB, searchB, permB, inOrderB, rfl⟩ := second.order proper
  rw [alike.files_eq s, searchB] at search
  obtain ⟨rfl, -⟩ := Prod.mk.inj (Except.ok.inj search)
  refine ⟨done, others, ?_, permA.trans permB.symm, fun oneA oneB => ?_, rfl, ?_⟩
  · intro f memF g memG
    exact placed_of_files proper searchB f (permA.mem_iff.mp memF) g (permA.mem_iff.mp memG)
  · rw [inOrderA ((Settings.workers_eq_one_iff concurrencyA).mpr oneA),
      inOrderB ((Settings.workers_eq_one_iff concurrencyB).mpr oneB)]
  · rw [alike.answerFor_eq]

/-- Every two analyses agree in the failures and the numbers, and up to their order in the results.
They agree in all, on every schedule, just if both have one worker, or file names tell results apart. -/
theorem reports_agree_iff (proper : s.tree.Proper) (alike : a.EqualButCounts b)
    (staffed : b.Staffed) :
    (∀ r answer, Yields s a (.ok r) → Yields s b answer →
      ∃ results, results.Perm r.results ∧ answer = .ok { r with results := results }) ∧
    ((∀ r q, Yields s a r → Yields s b q → r = q) ↔
      a.workerCount = 1 ∧ b.workerCount = 1 ∨ ∀ r, Yields s a (.ok r) → Apart r.results) := by
  refine ⟨fun r answer first second => ?_, fun agree => ?_, ?_⟩
  · obtain ⟨paths, others, placed, perm, -, same, rfl⟩ := first.orders second proper alike
    exact answerFor_perm perm placed same.symm
  · refine or_iff_not_imp_left.mpr fun notOne r yields => ?_
    obtain ⟨-, -, paths, found, -, -, search, -⟩ := yields.order proper
    obtain ⟨d, capped, concurrency⟩ := staffed.exists_concurrency
    have other := yields_in_order proper concurrency (alike.files_eq s ▸ search)
    -- whatever the one comes to, the other does, so each of them comes to nothing else
    rw [← agree _ _ yields other] at other
    by_cases oneA : a.workerCount = 1
    · have severalB : b.workerCount ≠ 1 := fun oneB => notOne ⟨oneA, oneB⟩
      exact apart_of_unique proper severalB (fun q one => (agree _ _ yields one).symm) other
    · exact apart_of_unique proper oneA (fun q one => agree _ _ one other) yields
  · rintro (⟨oneA, oneB⟩ | apart) r q first second
    · obtain ⟨paths, others, -, -, inOrder, rfl, rfl⟩ := first.orders second proper alike
      rw [inOrder oneA oneB]
    · obtain ⟨paths, others, placed, perm, -, rfl, rfl⟩ := first.orders second proper alike
      exact answerFor_eq_of_apart perm placed fun r same => apart r (same ▸ first)

def namesakes : Surroundings where
  tree := { nodes := [([Utf8.encode "a"], .directory), ([Utf8.encode "b"], .directory),
    ([Utf8.encode "a", Utf8.encode "x.txt"], .file (Utf8.encode "zeta")),
    ([Utf8.encode "b", Utf8.encode "x.txt"], .file (Utf8.encode "alpha"))] }
  home := Path.ofString "/home"

private theorem files_of_namesakes :
    ∃ found, FileSearch.files namesakes { workerCount := 2 } =
      .ok ([.ofString "./a/x.txt", .ofString "./b/x.txt"], found) := by
  refine FileSearch.exists_files
    [[Utf8.encode "a", Utf8.encode "x.txt"], [Utf8.encode "b", Utf8.encode "x.txt"]] ?_ ?_ ?_ ?_ ?_
  all_goals decide +kernel

private theorem outcome_of_word {path : Path} {size : Nat} {text name : String} {word : WordCount}
    (fetched : (fileCounter s settings 1).fetch path = .ok (.ok (size, text)))
    (named : FileTally.displayName path = name)
    (counted : (textTally ((workbench settings).tokenizer.stopwords.view s.tree.read) text).toWordCounts =
      [word]) :
    outcomeOf s settings path = .ok ⟨name, [word]⟩ := by
  simp only [outcomeOf, FileCounter.outcome, fetched, FileTally.ofCounts, named, counted]
  rw [WordCount.sort, List.mergeSort_singleton]

private theorem exists_report_of_namesakes :
    ∃ r, Yields namesakes { workerCount := 2 } (.ok r) ∧ ¬ Apart r.results := by
  have zeta : outcomeOf namesakes { workerCount := 2 } (.ofString "./a/x.txt") =
      .ok ⟨"x.txt", [⟨"zeta", 1⟩]⟩ := outcome_of_word rfl (by decide +kernel) (by decide +kernel)
  have alpha : outcomeOf namesakes { workerCount := 2 } (.ofString "./b/x.txt") =
      .ok ⟨"x.txt", [⟨"alpha", 1⟩]⟩ := outcome_of_word rfl (by decide +kernel) (by decide +kernel)
  obtain ⟨found, search⟩ := files_of_namesakes
  have two : Settings.concurrency { workerCount := 2 } =
      .ok (⟨2, 2, by decide, by decide, by decide⟩, []) := rfl
  have yields := yields_in_order (by decide +kernel) two search
  have failures : failuresOf namesakes { workerCount := 2 }
      [.ofString "./a/x.txt", .ofString "./b/x.txt"] = [] := by
    simp [failuresOf, Workers.failures, zeta, alpha]
  rw [answerFor_eq, resultsOf_cons zeta, resultsOf_cons alpha, failures, if_pos (by decide)] at yields
  refine ⟨_, yields, fun apart => ?_⟩
  have told := apart.perm (Report.sorted_results_perm _)
  have same := told ⟨"x.txt", [⟨"zeta", 1⟩]⟩ (by simp [Report.ofItems]) ⟨"x.txt", [⟨"alpha", 1⟩]⟩
    (by simp [Report.ofItems]) rfl
  exact absurd same (by decide)

/-- Two workers can bring the results of namesakes in another order than one worker does. -/
theorem not_agree_on_namesakes :
    ¬ ∀ r q, Yields namesakes { workerCount := 2 } r → Yields namesakes { workerCount := 1 } q →
      r = q := by
  intro agree
  have proper : namesakes.tree.Proper := by decide +kernel
  have alike : Settings.EqualButCounts { workerCount := 2 } { workerCount := 1 } := rfl
  have staffed : Settings.Staffed { workerCount := 1 } := by decide
  rcases (reports_agree_iff proper alike staffed).2.mp agree with ⟨one, -⟩ | apart
  · exact absurd one (by decide)
  · obtain ⟨r, yields, shared⟩ := exists_report_of_namesakes
    exact shared (apart r yields)

end Analysis

end CorpusTally
