import CorpusTally.Proofs.Latch
import CorpusTally.Proofs.Pool.Pool

/-!
A pool whose report is waited for by a thread that takes the lock of the barrier, sleeps while workers are
left and is woken by them. Nothing on the way to the report waits for ever: whatever the threads have done
so far, one of them can go on, and they stop only when the report is there and everybody is gone.
-/

namespace CorpusTally

structure LatchedPool (p : FileCounter) where
  pool : Pool p
  holder : Holder := .nobody
  waiter : Waiter := .entering false

namespace LatchedPool

variable {p : FileCounter}

def latch (a : LatchedPool p) : Latch := ⟨a.pool.barrier, a.holder, [a.waiter]⟩

def start (p : FileCounter) (workers : Nat) (paths : List Path) : LatchedPool p :=
  { pool := .start p workers paths .waiting }

/-- A worker needs the lock to count itself out; all else is as in the pool. Where `stirs` holds the
waiting thread may also wake for no reason. -/
inductive Step (p : FileCounter) (stirs : Prop) :
    Workbench × LatchedPool p → Workbench × LatchedPool p → Prop
  | work {w w' pool holder waiter event crew'}
      (inner : Crew.Step (fileCraft p) (w, pool.crew) event (w', crew')) (stays : event.departures = 0) :
      Step p stirs (w, ⟨pool, holder, waiter⟩) (w', ⟨pool.after event crew', holder, waiter⟩)
  | leave {w w' pool holder holder' waiter waiter' crew'}
      (inner : Crew.Step (fileCraft p) (w, pool.crew) .leaves (w', crew'))
      (out : Latch.Step ⟨pool.barrier, holder, [waiter]⟩ .leaves
        ⟨pool.barrier.leave, holder', [waiter']⟩) :
      Step p stirs (w, ⟨pool, holder, waiter⟩) (w', ⟨pool.after .leaves crew', holder', waiter'⟩)
  | latch {w pool holder holder' waiter waiter'}
      (inner : Latch.Step ⟨pool.barrier, holder, [waiter]⟩ .quiet ⟨pool.barrier, holder', [waiter']⟩) :
      Step p stirs (w, ⟨pool, holder, waiter⟩) (w, ⟨pool, holder', waiter'⟩)
  | stir {w pool holder holder' waiter waiter'} (allowed : stirs)
      (inner : Latch.Step ⟨pool.barrier, holder, [waiter]⟩ .stirs ⟨pool.barrier, holder', [waiter']⟩) :
      Step p stirs (w, ⟨pool, holder, waiter⟩) (w, ⟨pool, holder', waiter'⟩)
  | release {w pool holder holder' waiter waiter'} (waits : pool.orchestrator = .waiting)
      (inner : Latch.Step ⟨pool.barrier, holder, [waiter]⟩ (.returns true)
        ⟨pool.barrier, holder', [waiter']⟩) :
      Step p stirs (w, ⟨pool, holder, waiter⟩)
        (w, ⟨{ pool with orchestrator := .draining [] }, holder', waiter'⟩)
  | collect {w pool pool' holder waiter} (past : pool.orchestrator.Released)
      (same : pool'.crew = pool.crew) (inner : Pool.Step p (w, pool) (w, pool')) :
      Step p stirs (w, ⟨pool, holder, waiter⟩) (w, ⟨pool', holder, waiter⟩)

variable {stirs : Prop} {set : StopwordSet} {paths : List Path} {w w' : Workbench}
variable {a a' : LatchedPool p}

/-- Without the lock and the sleep a step is one of the pool, or nothing has happened. -/
theorem Step.pool_step (step : Step p stirs (w, a) (w', a')) :
    Pool.Step p (w, a.pool) (w', a'.pool) ∨ w' = w ∧ a'.pool = a.pool := by
  cases step with
  | work inner | leave inner => exact .inl (.worker inner)
  | latch | stir => exact .inr ⟨rfl, rfl⟩
  | release waits inner => exact .inl (.release waits inner.open_of_returns)
  | collect past same inner => exact .inl inner

/-- The thread is at the latch, or past it for good; then the lock is free. -/
structure Valid (set : StopwordSet) (paths : List Path) (a : LatchedPool p) : Prop where
  pool : a.pool.Valid set paths
  sound : a.latch.Sound
  patient : ∀ w ∈ a.latch.waiters, w.Patient
  stands : a.pool.orchestrator = .waiting ∧ a.waiter.isOutside = false ∨
    a.pool.orchestrator.Released ∧ a.waiter = .outside ∧ a.holder = .nobody

theorem valid_start {workers : Nat} (positive : 0 < workers) (fits : ∀ path, p.Fits set path)
    (paths : List Path) : (start p workers paths).Valid set paths where
  pool := Pool.valid_start positive fits paths (.inr rfl)
  sound := ⟨rfl, fun w mem sleeps => by simp_all [latch, start, Waiter.sleeps]⟩
  patient := fun w mem => by
    obtain rfl := List.mem_singleton.mp mem
    rfl
  stands := .inl ⟨rfl, rfl⟩

private theorem barrier_after {event : Event Path Outcome} (stays : event.departures = 0)
    (pool : Pool p) (crew : Crew (fileCraft p)) : (pool.after event crew).barrier = pool.barrier := by
  rw [Pool.after, stays, Nat.repeat]

private theorem barrier_of_same_crew {pool pool' : Pool p}
    (step : Pool.Step p (w, pool) (w', pool')) (same : pool'.crew = pool.crew) :
    pool'.barrier = pool.barrier := by
  cases step with
  | @worker _ _ _ event crew' inner =>
    have moved := inner.present_eq
    obtain rfl : crew' = pool.crew := same
    exact barrier_after (by omega) pool _
  | takeResult | takeFailure | timeout | wait | release | drain | drained | close | finish => rfl

private theorem latch_congr {pool pool' : Pool p} (same : pool'.barrier = pool.barrier)
    {holder : Holder} {waiter : Waiter} :
    latch ⟨pool', holder, waiter⟩ = latch ⟨pool, holder, waiter⟩ := by
  rw [latch, latch, same]

theorem Step.latch_step (step : Step p stirs (w, a) (w', a')) :
    a'.latch = a.latch ∨ ∃ label, Latch.Step a.latch label a'.latch ∧ label ≠ .calls := by
  cases step with
  | work inner stays => exact .inl (latch_congr (barrier_after stays _ _))
  | leave inner out => exact .inr ⟨_, out, by simp⟩
  | latch inner => exact .inr ⟨_, inner, by simp⟩
  | stir allowed inner => exact .inr ⟨_, inner, by simp⟩
  | release waits inner => exact .inr ⟨_, inner, by simp⟩
  | collect past same inner => exact .inl (latch_congr (barrier_of_same_crew inner same))

private theorem inside_of_step {b b' : Barrier} {holder holder' : Holder} {waiter waiter' : Waiter}
    {label : Latch.Label} (step : Latch.Step ⟨b, holder, [waiter]⟩ label ⟨b', holder', [waiter']⟩)
    (uncalled : label ≠ .calls) (silent : label.answers = 0) (inside : waiter.isOutside = false) :
    waiter'.isOutside = false := by
  have count := step.outside_eq uncalled
  simpa [List.countP_cons, silent, inside] using count

private theorem no_step_of_outside {b b' : Barrier} {holder' : Holder} {waiter' : Waiter}
    {label : Latch.Label} (calm : label.Calm ∨ label = .stirs) :
    ¬ Latch.Step ⟨b, .nobody, [.outside]⟩ label ⟨b', holder', [waiter']⟩ := by
  intro step
  rcases calm with calm | rfl
  · have lower := step.rank_lt calm
    simp [Latch.rank, Holder.rank, Waiter.rank] at lower
  · obtain ⟨w, mem, sleeps⟩ := step.exists_sleeper
    obtain rfl := List.mem_singleton.mp mem
    simp [Waiter.sleeps] at sleeps

private theorem released_of_step {pool pool' : Pool p} (step : Pool.Step p (w, pool) (w', pool'))
    (past : pool.orchestrator.Released) : pool'.orchestrator.Released := by
  cases step with
  | worker | takeResult | takeFailure | timeout => exact past
  | wait free => simp [free, Orchestrator.Released] at past
  | release | drain | drained | close | finish => trivial

private theorem Step.stands (step : Step p stirs (w, a) (w', a')) (valid : a.Valid set paths) :
    a'.pool.orchestrator = .waiting ∧ a'.waiter.isOutside = false ∨
      a'.pool.orchestrator.Released ∧ a'.waiter = .outside ∧ a'.holder = .nobody := by
  have gone := valid.pool.released
  have stands := valid.stands
  cases step with
  | work => exact stands
  | leave inner out =>
    rcases stands with ⟨waits, inside⟩ | ⟨past, -⟩
    · exact .inl ⟨waits, inside_of_step out (by simp) rfl inside⟩
    · exact absurd inner (gone past).no_step
  | latch inner =>
    rcases stands with ⟨waits, inside⟩ | ⟨-, rfl, rfl⟩
    · exact .inl ⟨waits, inside_of_step inner (by simp) rfl inside⟩
    · exact absurd inner (no_step_of_outside (.inl trivial))
  | stir allowed inner =>
    rcases stands with ⟨waits, inside⟩ | ⟨-, rfl, rfl⟩
    · exact .inl ⟨waits, inside_of_step inner (by simp) rfl inside⟩
    · exact absurd inner (no_step_of_outside (.inr rfl))
  | release waits inner =>
    have count := inner.outside_eq (by simp)
    refine .inr ⟨trivial, Waiter.eq_outside_of_isOutside ?_, inner.unlocked_of_returns⟩
    by_contra inside
    simp [Latch.Label.answers, inside] at count
  | collect past same inner =>
    rcases stands with ⟨waits, -⟩ | ⟨-, outside⟩
    · dsimp only at waits
      simp [waits, Orchestrator.Released] at past
    · exact .inr ⟨released_of_step inner past, outside⟩

theorem Step.keeps (step : Step p stirs (w, a) (w', a')) (serves : w.Serves p.stopwordFile set)
    (valid : a.Valid set paths) : w'.Serves p.stopwordFile set ∧ a'.Valid set paths := by
  have pool : w'.Serves p.stopwordFile set ∧ a'.pool.Valid set paths := by
    rcases step.pool_step with inner | ⟨rfl, same⟩
    · exact inner.keeps serves valid.pool
    · rw [same]
      exact ⟨serves, valid.pool⟩
  have latch : a'.latch.Sound ∧ ∀ w ∈ a'.latch.waiters, w.Patient := by
    rcases step.latch_step with same | ⟨label, inner, uncalled⟩
    · rw [same]
      exact ⟨valid.sound, valid.patient⟩
    · exact ⟨inner.sound valid.sound, inner.patient uncalled valid.patient⟩
  exact ⟨pool.1, pool.2, latch.1, latch.2, step.stands valid⟩

theorem Valid.waits (valid : a.Valid set paths) : a.pool.orchestrator ≠ .free := by
  intro free
  rcases valid.stands with ⟨waits, -⟩ | ⟨past, -⟩
  · simp [free] at waits
  · simp [free, Orchestrator.Released] at past

def rank (set : StopwordSet) (a : LatchedPool p) : Nat := 5 * a.pool.rank set + a.latch.rank

theorem Step.rank_lt (step : Step p False (w, a) (w', a')) (serves : w.Serves p.stopwordFile set)
    (valid : a.Valid set paths) : a'.rank set < a.rank set := by
  have begun := valid.waits
  cases step with
  | work inner stays =>
    have lower := ((Pool.Step.worker inner).rank_lt serves valid.pool begun).1
    rw [LatchedPool.rank, LatchedPool.rank, latch_congr (barrier_after stays _ _)]
    dsimp only at lower ⊢
    omega
  | @leave _ _ pool holder holder' waiter waiter' crew' inner out =>
    have lower := ((Pool.Step.worker inner).rank_lt serves valid.pool begun).1
    -- Who leaves wakes the waiting thread once more, which the weight of the pool makes up for.
    have woken : (LatchedPool.latch ⟨pool.after .leaves crew', holder', waiter'⟩).rank =
        (LatchedPool.latch ⟨pool, holder, waiter⟩).rank + 2 + 2 * 1 := out.rank_of_leaves
    rw [LatchedPool.rank, LatchedPool.rank, woken]
    dsimp only at lower ⊢
    omega
  | latch inner => exact Nat.add_lt_add_left (inner.rank_lt trivial) _
  | stir allowed => exact absurd allowed id
  | release waits inner =>
    have lower := ((Pool.Step.release waits inner.open_of_returns).rank_lt serves valid.pool begun).1
    exact Nat.add_lt_add (Nat.mul_lt_mul_of_pos_left lower (by decide)) (inner.rank_lt trivial)
  | collect past same inner =>
    have lower := (inner.rank_lt serves valid.pool begun).1
    rw [LatchedPool.rank, LatchedPool.rank, latch_congr (barrier_of_same_crew inner same)]
    dsimp only at lower ⊢
    omega

private theorem crew_of_over {pool pool' : Pool p} (step : Pool.Step p (w, pool) (w', pool'))
    (gone : pool.crew.Over) : w' = w ∧ pool'.crew = pool.crew := by
  cases step with
  | worker inner => exact absurd inner gone.no_step
  | takeResult | takeFailure | timeout | wait | release | drain | drained | close | finish =>
    exact ⟨rfl, rfl⟩

/-- While there is no report a thread can go on, and need not wake for no reason to do so. -/
theorem exists_step (serves : w.Serves p.stopwordFile set) (valid : a.Valid set paths)
    (going : a.pool.orchestrator.report? = none) : ∃ next, Step p False (w, a) next := by
  obtain ⟨pool, holder, waiter⟩ := a
  rcases valid.stands with ⟨waits, inside⟩ | ⟨past, -⟩
  · by_cases stirring : holder ≠ .nobody ∨ waiter.sleeps = false
    · have awake : holder ≠ .nobody ∨ ∃ w ∈ [waiter], w ≠ .outside ∧ w.sleeps = false := by
        refine stirring.imp_right fun awake => ⟨waiter, by simp, ?_, awake⟩
        rintro rfl
        simp [Waiter.isOutside] at inside
      obtain ⟨label, ⟨b, holder', waiters⟩, step, calm⟩ := valid.sound.exists_step awake
      obtain rfl : b = pool.barrier := step.barrier_eq calm
      obtain ⟨waiter', rfl⟩ := List.length_eq_one_iff.mp step.length_eq
      cases label with
      | quiet => exact ⟨_, .latch step⟩
      | returns answer =>
        obtain rfl := step.answer_of_patient valid.patient
        exact ⟨_, .release waits step⟩
      | enters | leaves | calls | stirs => exact absurd calm id
    · -- Who sleeps while the lock is free has found the barrier closed, so that a worker is left.
      rw [not_or, not_not, Bool.not_eq_false] at stirring
      obtain ⟨rfl, asleep⟩ := stirring
      have closed : pool.barrier.isOpen = false :=
        (valid.sound.heard waiter (by simp [latch]) asleep).resolve_right (by simp [latch])
      have left : ¬ pool.crew.Over := by
        intro isOver
        have counted : pool.barrier.active = pool.crew.present := valid.pool.counted
        simp [Barrier.isOpen, counted, isOver.present_eq] at closed
      obtain ⟨event, ⟨w', crew'⟩, inner⟩ :=
        Crew.exists_step (fileLaw p set) serves valid.pool.crew left
      cases event with
      | leaves => exact ⟨_, .leave inner .leave⟩
      | quiet | delivers | crashes => exact ⟨_, .work inner rfl⟩
  · obtain ⟨⟨w', pool'⟩, inner⟩ := Pool.exists_step serves valid.pool going
    obtain ⟨rfl, same⟩ := crew_of_over inner (valid.pool.released past)
    exact ⟨_, .collect past same inner⟩

theorem Valid.no_step (valid : a.Valid set paths) (reported : a.pool.orchestrator.report? ≠ none) :
    ¬ Step p stirs (w, a) (w', a') := by
  obtain ⟨pool, holder, waiter⟩ := a
  intro step
  rcases valid.stands with ⟨waits, -⟩ | ⟨past, rfl, rfl⟩
  · dsimp only at waits reported
    simp [waits, Orchestrator.report?] at reported
  · have gone := valid.pool.released past
    cases step with
    | work inner | leave inner => exact gone.no_step inner
    | latch inner => exact absurd inner (no_step_of_outside (.inl trivial))
    | stir allowed inner => exact absurd inner (no_step_of_outside (.inr rfl))
    | release waits =>
      dsimp only at past
      simp [waits, Orchestrator.Released] at past
    | collect past same inner =>
      cases inner with
      | worker inner => exact gone.no_step inner
      | takeResult free | takeFailure free | timeout free | wait free =>
        simp [free, Orchestrator.Released] at past
      | release waits => simp [waits, Orchestrator.Released] at past
      | drain stands | drained stands | close stands | finish stands =>
        dsimp only at reported
        simp [stands, Orchestrator.report?] at reported

def settles (p : FileCounter) (set : StopwordSet) (paths : List Path) :
    Settles (Step p False)
      (fun a => a.1.Serves p.stopwordFile set ∧ a.2.Valid set paths)
      (fun a => a.2.pool.orchestrator.report? ≠ none) where
  rank := fun a => a.2.rank set
  keeps := fun ok step => step.keeps ok.1 ok.2
  drops := fun ok step => step.rank_lt ok.1 ok.2
  moves := fun ok going => exists_step ok.1 ok.2 (not_not.mp going)

/-- Whatever the threads of a pool have done, while there is no report one of them can go on, and they
cannot go on for ever unless the waiting thread is woken for ever. They stop with the report, the count at
zero, the lock free and all workers gone. -/
theorem never_hangs (p : FileCounter) (holds : p.Holds) (w : Workbench)
    (clean : w.tokenizer.buffers.Clean) (paths : List Path) {workers : Nat} (positive : 0 < workers) :
    ∀ left a, Reaches (Step p True) (w, start p workers paths) (left, a) →
      (a.pool.orchestrator.report? = none ↔ ∃ next, Step p False (left, a) next) ∧
      Ends (Step p False) (left, a) ∧
      (∃ last, Reaches (Step p False) (left, a) last ∧ last.2.pool.orchestrator.report? ≠ none) ∧
      (a.pool.orchestrator.report? ≠ none →
        a.pool.barrier.active = 0 ∧ a.holder = .nobody ∧ a.pool.crew.Over) := by
  intro left a run
  have fits := holds.fits (w.tokenizer.stopwords.view p.stopwordFile)
  obtain ⟨serves, valid⟩ : left.Serves p.stopwordFile _ ∧ a.Valid _ paths :=
    run.keeps (fun ok step => step.keeps ok.1 ok.2) ⟨⟨rfl, clean⟩, valid_start positive fits paths⟩
  have law := settles p (w.tokenizer.stopwords.view p.stopwordFile) paths
  refine ⟨⟨exists_step serves valid, ?_⟩, law.ends ⟨serves, valid⟩, ?_, ?_⟩
  · rintro ⟨next, step⟩
    by_contra reported
    exact valid.no_step reported step
  · obtain ⟨last, onward, -, reported⟩ := law.reaches_over (a := (left, a)) ⟨serves, valid⟩
    exact ⟨last, onward, reported⟩
  · intro reported
    rcases valid.stands with ⟨waits, -⟩ | ⟨past, -, free⟩
    · simp [waits, Orchestrator.report?] at reported
    · have gone := valid.pool.released past
      exact ⟨valid.pool.counted.trans gone.present_eq, free, gone⟩

private theorem reaches_stirring {a b : Workbench × LatchedPool p}
    (run : Reaches (Step p False) a b) : Reaches (Step p True) a b := by
  refine run.within id fun {a b} step => ?_
  cases step with
  | work inner stays => exact .work inner stays
  | leave inner out => exact .leave inner out
  | latch inner => exact .latch inner
  | stir allowed => exact absurd allowed id
  | release waits inner => exact .release waits inner
  | collect past same inner => exact .collect past same inner

def brittleSource : FileCounter where
  corpus := fun path =>
    if path = .ofString "a.txt" then .ok (.ok (Utf8.encode "the cat")) else .error (.raised "boom")
  stopwordFile := fun _ => .error .notText
  decoding := .lossy
  counters := 2

private theorem brittleSource_holds : brittleSource.Holds := by
  intro path bytes read
  simp only [brittleSource] at read
  split at read
  · obtain rfl := Except.ok.inj (Except.ok.inj read)
    decide
  · cases read

/-- Three workers for a file that is counted and one on which the source crashes. -/
theorem exists_rest_of_crash :
    ∃ left a,
      Reaches (Step brittleSource True)
        (({ tokenizer := { stopwords := { origin := .words ["the"] } } } : Workbench),
          start _ 3 [.ofString "a.txt", .ofString "b.txt"]) (left, a) ∧
      a.pool.orchestrator.report? ≠ none ∧ a.pool.barrier.active = 0 ∧ a.pool.crew.Over := by
  have every := never_hangs brittleSource brittleSource_holds
    { tokenizer := { stopwords := { origin := .words ["the"] } } } (by simp [Buffers.Clean])
    [.ofString "a.txt", .ofString "b.txt"] (show 0 < 3 by decide)
  obtain ⟨-, -, ⟨⟨left, a⟩, run, reported⟩, -⟩ := every _ _ .refl
  have reached := reaches_stirring run
  obtain ⟨-, -, -, atRest⟩ := every left a reached
  obtain ⟨nobody, -, gone⟩ := atRest reported
  exact ⟨left, a, reached, reported, nobody, gone⟩

end LatchedPool

end CorpusTally
