import CorpusTally.Proofs.Crew

/-!
Orders in which a crew can deliver. One member alone keeps to the queue; of two, one can hold a finished
job back for as long as it likes, so that any later jobs come before it.
-/

namespace CorpusTally

variable {σ α β : Type} {c : Craft σ α β} {shared : σ → Prop} {good : α → Prop} {value : α → β}

namespace Crew

/-- A run in which jobs are delivered one after the other, and nobody leaves. -/
inductive Delivers (value : α → β) : σ × Crew c → List α → σ × Crew c → Prop
  | done {a} : Delivers value a [] a
  | quiet {a b d jobs} (first : Step c a .quiet b) (rest : Delivers value b jobs d) :
      Delivers value a jobs d
  | deliver {a b d job jobs} (first : Step c a (.delivers job (value job)) b)
      (rest : Delivers value b jobs d) : Delivers value a (job :: jobs) d

theorem Delivers.append {a b d : σ × Crew c} {jobs more : List α} (first : Delivers value a jobs b)
    (second : Delivers value b more d) : Delivers value a (jobs ++ more) d := by
  induction first with
  | done => exact second
  | quiet step _ ih => exact .quiet step (ih second)
  | deliver step _ ih => exact .deliver step (ih second)

private theorem Delivers.of_reaches {a b : σ × Crew c}
    (run : Reaches (fun a b => Step c a .quiet b) a b) : Delivers value a [] b := by
  induction run using Relation.ReflTransGen.head_induction_on with
  | refl => exact .done
  | head step _ ih => exact .quiet step ih

private theorem exists_taken (law : c.Law shared good value) {s : σ} (ok : shared s) {job : α}
    (fits : good job) (queue : List α) (pre post : List (Member c)) (kept : Bool) :
    ∃ s' task, shared s' ∧ c.result? task = some (.ok (value job)) ∧
      Delivers value (s, ⟨none, job :: queue, pre ++ .waiting :: post, kept⟩) []
        (s', ⟨none, queue, pre ++ .busy job task :: post, kept⟩) := by
  have alone := law.settles job
  obtain ⟨⟨s', task⟩, run, after, finished⟩ :=
    alone.reaches_over (a := (s, c.start job)) ⟨ok, law.begins fits⟩
  let whole (a : σ × c.Task) : σ × Crew c := (a.1, ⟨none, queue, pre ++ .busy job a.2 :: post, kept⟩)
  have worked : Reaches (fun a b => Step c a .quiet b) (whole (s, c.start job)) (whole (s', task)) :=
    run.within whole fun step => .member (.work step)
  exact ⟨s', task, after.1, finished, .quiet (.member .take) (.of_reaches worked)⟩

private theorem deliver_taken {s : σ} {job : α} {task : c.Task}
    (finished : c.result? task = some (.ok (value job))) (queue : List α)
    (pre post : List (Member c)) (kept : Bool) :
    Delivers value (s, ⟨none, queue, pre ++ .busy job task :: post, kept⟩) [job]
      (s, ⟨none, queue, pre ++ .waiting :: post, kept⟩) :=
  .deliver (.member (.deliver finished)) .done

private theorem exists_delivered (law : c.Law shared good value) {s : σ} (ok : shared s)
    {jobs : List α} (fits : ∀ job ∈ jobs, good job) (queue : List α) (others : List (Member c))
    (kept : Bool) :
    ∃ s', shared s' ∧
      Delivers value (s, ⟨none, jobs ++ queue, .waiting :: others, kept⟩) jobs
        (s', ⟨none, queue, .waiting :: others, kept⟩) := by
  induction jobs generalizing s with
  | nil => exact ⟨s, ok, .done⟩
  | cons job jobs ih =>
    obtain ⟨s₁, task, after, finished, taken⟩ :=
      exists_taken law ok (fits job List.mem_cons_self) (jobs ++ queue) [] others kept
    have delivered : Delivers value (s₁, ⟨none, jobs ++ queue, .busy job task :: others, kept⟩) [job]
        (s₁, ⟨none, jobs ++ queue, .waiting :: others, kept⟩) :=
      deliver_taken finished (jobs ++ queue) [] others kept
    obtain ⟨s₂, last, rest⟩ := ih after fun other mem => fits other (List.mem_cons_of_mem _ mem)
    exact ⟨s₂, last, (taken.append delivered).append rest⟩

private theorem delivers_sent (value : α → β) (s : σ) {members : List (Member c)} {m : Member c}
    (mem : m ∈ members) (here : m ≠ .gone) (unsent queue : List α) (kept : Bool) :
    Delivers value (s, ⟨some unsent, queue, members, kept⟩) []
      (s, ⟨none, queue ++ unsent, members, kept⟩) := by
  induction unsent generalizing queue with
  | nil =>
    rw [List.append_nil]
    exact .quiet .close .done
  | cons job unsent ih =>
    have rest := ih (queue ++ [job])
    rw [List.append_assoc] at rest
    exact .quiet (.send (.inr ⟨m, mem, here⟩)) rest

/-- A crew of any size can deliver in the order of the jobs: its first member does them all. -/
theorem exists_delivers_in_order (law : c.Law shared good value) {s : σ} (ok : shared s)
    {jobs : List α} (fits : ∀ job ∈ jobs, good job) {size : Nat} (positive : 0 < size) (kept : Bool) :
    ∃ b, Delivers value (s, start c size jobs kept) jobs b := by
  obtain ⟨more, rfl⟩ : ∃ more, size = more + 1 := ⟨size - 1, by omega⟩
  let idle : List (Member c) := List.replicate more .waiting
  have sent : Delivers value (s, start c (more + 1) jobs kept) [] (s, ⟨none, jobs, _, kept⟩) :=
    delivers_sent value s List.mem_cons_self (by simp) jobs [] kept
  obtain ⟨s', -, delivered⟩ := exists_delivered law ok fits [] idle kept
  rw [List.append_nil] at delivered
  exact ⟨_, sent.append delivered⟩

/-- With two members or more, one job can come after any number of those behind it. -/
theorem exists_delivers_late (law : c.Law shared good value) {s : σ} (ok : shared s)
    {before between after : List α} {late : α}
    (fits : ∀ job ∈ before ++ late :: (between ++ after), good job) {size : Nat} (several : 2 ≤ size)
    (kept : Bool) :
    ∃ b, Delivers value (s, start c size (before ++ late :: (between ++ after)) kept)
      (before ++ (between ++ late :: after)) b := by
  obtain ⟨more, rfl⟩ : ∃ more, size = more + 2 := ⟨size - 2, by omega⟩
  have fitsBefore : ∀ job ∈ before, good job := fun job mem => fits job (by simp [mem])
  have fitsBetween : ∀ job ∈ between, good job := fun job mem => fits job (by simp [mem])
  have fitsAfter : ∀ job ∈ after, good job := fun job mem => fits job (by simp [mem])
  let idle : List (Member c) := List.replicate more .waiting
  have sent : Delivers value (s, start c (more + 2) _ kept) [] (s, ⟨none, _, _, kept⟩) :=
    delivers_sent value s List.mem_cons_self (by simp) (before ++ late :: (between ++ after)) [] kept
  obtain ⟨s₁, ok₁, first⟩ :=
    exists_delivered law ok fitsBefore (late :: (between ++ after)) (.waiting :: idle) kept
  -- the second member takes the late job and holds it until the first is through with the others
  obtain ⟨s₂, task, ok₂, finished, taken⟩ :=
    exists_taken law ok₁ (fits late (by simp)) (between ++ after) [.waiting] idle kept
  obtain ⟨s₃, ok₃, second⟩ := exists_delivered law ok₂ fitsBetween after (.busy late task :: idle) kept
  have delivered : Delivers value (s₃, ⟨none, after, .waiting :: .busy late task :: idle, kept⟩) [late]
      (s₃, ⟨none, after, .waiting :: .waiting :: idle, kept⟩) :=
    deliver_taken finished after [.waiting] idle kept
  obtain ⟨s₄, -, third⟩ := exists_delivered law ok₃ fitsAfter [] (.waiting :: idle) kept
  rw [List.append_nil] at third
  exact ⟨_, sent.append (first.append (taken.append (second.append (delivered.append third))))⟩

end Crew

end CorpusTally
