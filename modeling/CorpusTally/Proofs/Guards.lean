import CorpusTally.Proofs.Latch

/-!
Guards at a latch that any number of threads use. Whoever gets a guard is counted in; the guard is given
up when its worker ends, or crashes, and then counts the worker out. The count is that of the guards that
are out, nobody gets past the latch before it is zero, and nobody sleeps on once it is.
-/

namespace CorpusTally

namespace GuardedBarrier

def Counted (g : GuardedBarrier) : Prop := g.barrier.active = g.guards.length

variable {g : GuardedBarrier}

theorem Counted.drop (counted : g.Counted) (guard : Nat) : (g.drop guard).Counted := by
  unfold GuardedBarrier.drop holds
  split
  · next held =>
    have mem : guard ∈ g.guards := by simpa using held
    have length := List.length_erase_of_mem mem
    unfold Counted at counted ⊢
    rw [Barrier.leave, counted, length]
  · exact counted

theorem Counted.enter (counted : g.Counted) (guard : Nat) : (g.enter guard).Counted := by
  unfold Counted at counted
  unfold GuardedBarrier.enter GuardedBarrier.drop holds
  split
  -- the guard that is replaced is counted out after the new one is counted in
  · next held =>
    have mem : guard ∈ g.guards := by simpa using held
    have positive := List.length_pos_of_mem mem
    have length := List.length_erase_of_mem mem
    simp only [Counted, Barrier.leave, Barrier.enter, List.length_cons, length]
    omega
  · simp only [Counted, Barrier.enter, List.length_cons, counted]

theorem Counted.run (counted : g.Counted) (workers : Nat) : (g.run workers).Counted := by
  induction workers with
  | zero => exact counted
  | succ workers ih => exact ih

end GuardedBarrier

namespace Latch

variable {l l' : Latch} {label : Label}

def Label.moves (label : Label) (b : Barrier) : Barrier :=
  match label with
  | enters => b.enter
  | leaves => b.leave
  | quiet | calls | returns _ | stirs => b

theorem Step.barrier_moves (step : Step l label l') : l'.barrier = label.moves l.barrier := by
  cases step <;> rfl

/-- Who gets an answer has the lock and has just looked at the count; the answer is what it saw. -/
theorem Step.looker_of_returns {answer : Bool} (step : Step l (.returns answer) l') :
    l.holder = .waiter ∧ answer = l.barrier.isOpen ∧ ∃ pre post timed expired,
      l.waiters = pre ++ .looking timed expired :: post ∧ l'.waiters = pre ++ .outside :: post ∧
      (answer = false → expired = true) := by
  cases step with
  | @pass _ pre post timed expired opened =>
    exact ⟨rfl, opened.symm, pre, post, timed, expired, rfl, rfl, by simp⟩
  | @giveUp _ pre post timed closed =>
    exact ⟨rfl, closed.symm, pre, post, timed, true, rfl, rfl, by simp⟩

end Latch

def Waiter.Timely : Waiter → Prop
  | looking timed expired | roused timed expired => expired = true → timed = true
  | outside | entering _ | asleep _ => True

theorem Latch.Step.timely {l l' : Latch} {label : Latch.Label} (step : Latch.Step l label l')
    (timely : ∀ w ∈ l.waiters, w.Timely) : ∀ w ∈ l'.waiters, w.Timely := by
  cases step with
  | enter | leave | unlock => exact timely
  | ring =>
    intro w mem
    obtain ⟨before, inside, rfl⟩ := List.mem_map.mp mem
    have kept := timely before inside
    cases before with
    | asleep => exact fun late => absurd late (by decide)
    | outside | entering | looking | roused => exact kept
  | call | sleep => exact Waiter.forall_replace timely fun _ => trivial
  | lock | stir => exact Waiter.forall_replace timely fun _ late => absurd late (by decide)
  | relock => exact Waiter.forall_replace timely id
  | pass | giveUp => exact Waiter.forall_replace timely fun _ => trivial
  | expire => exact Waiter.forall_replace timely fun _ _ => rfl

/-- A guard that somebody wants: not there yet, held by a worker, given up as the worker ended or crashed,
or counted out. -/
inductive Guard where
  | wanted
  | held
  | givenUp (crashed : Bool)
  | gone

def Guard.isLive : Guard → Bool
  | held | givenUp _ => true
  | wanted | gone => false

structure GuardedLatch where
  latch : Latch
  guards : List Guard := []

namespace GuardedLatch

def live (g : GuardedLatch) : Nat := g.guards.countP Guard.isLive

def start (waiters : Nat) : GuardedLatch := { latch := { waiters := List.replicate waiters .outside } }

inductive Step : GuardedLatch → Latch.Label → GuardedLatch → Prop
  | want {latch guards} : Step ⟨latch, guards⟩ .quiet ⟨latch, guards ++ [.wanted]⟩
  | enter {latch latch' pre post} (inner : Latch.Step latch .enters latch') :
      Step ⟨latch, pre ++ .wanted :: post⟩ .enters ⟨latch', pre ++ .held :: post⟩
  | giveUp {latch pre post} (crashed : Bool) :
      Step ⟨latch, pre ++ .held :: post⟩ .quiet ⟨latch, pre ++ .givenUp crashed :: post⟩
  | leave {latch latch' pre post crashed} (inner : Latch.Step latch .leaves latch') :
      Step ⟨latch, pre ++ .givenUp crashed :: post⟩ .leaves ⟨latch', pre ++ .gone :: post⟩
  | wait {latch latch' label guards} (inner : Latch.Step latch label latch')
      (stays : label ≠ .enters ∧ label ≠ .leaves) :
      Step ⟨latch, guards⟩ label ⟨latch', guards⟩

variable {g g' : GuardedLatch} {label : Latch.Label}

theorem Step.latch_step (step : Step g label g') :
    label = .quiet ∧ g'.latch = g.latch ∨ Latch.Step g.latch label g'.latch := by
  cases step with
  | want | giveUp => exact .inl ⟨rfl, rfl⟩
  | enter inner | leave inner | wait inner => exact .inr inner

theorem Step.latch_step_of_loud (step : Step g label g') (loud : label ≠ .quiet) :
    Latch.Step g.latch label g'.latch :=
  step.latch_step.resolve_left fun same => loud same.1

structure Valid (g : GuardedLatch) : Prop where
  sound : g.latch.Sound
  timely : ∀ w ∈ g.latch.waiters, w.Timely
  counted : g.latch.barrier.active = g.live

theorem valid_start (waiters : Nat) : (start waiters).Valid where
  sound := by
    refine ⟨?_, fun w mem sleeps => ?_⟩
    · simp [start, Waiter.looks]
    · rw [List.eq_of_mem_replicate mem] at sleeps
      simp [Waiter.sleeps] at sleeps
  timely := fun w mem => by
    rw [List.eq_of_mem_replicate mem]
    trivial
  counted := rfl

theorem Step.positive_of_leaves (step : Step g .leaves g') : 0 < g.live := by
  cases step with
  | @leave _ _ pre post crashed =>
    exact List.countP_pos_iff.mpr ⟨.givenUp crashed, by simp, rfl⟩
  | wait _ stays => exact absurd rfl stays.2

private theorem Step.counted (step : Step g label g')
    (counted : g.latch.barrier.active = g.live) : g'.latch.barrier.active = g'.live := by
  cases step with
  | want => simpa [live, Guard.isLive] using counted
  | giveUp => simpa [live, List.countP_cons, Guard.isLive] using counted
  -- the count moves with the guard that changes its state, by one on both sides
  | enter inner =>
    have moved := inner.barrier_moves
    simp only [live, List.countP_append, List.countP_cons, Guard.isLive] at counted ⊢
    simp only [moved, Latch.Label.moves, Barrier.enter, counted]
    simp [Nat.add_assoc]
  | leave inner =>
    have moved := inner.barrier_moves
    simp only [live, List.countP_append, List.countP_cons, Guard.isLive] at counted ⊢
    simp only [moved, Latch.Label.moves, Barrier.leave, counted]
    simp [← Nat.add_assoc]
  | wait inner stays =>
    have moved := inner.barrier_moves
    cases label with
    | enters => exact absurd rfl stays.1
    | leaves => exact absurd rfl stays.2
    | quiet | calls | returns | stirs =>
      rw [moved]
      exact counted

theorem Step.valid (step : Step g label g') (valid : g.Valid) : g'.Valid := by
  refine ⟨?_, ?_, step.counted valid.counted⟩
  · rcases step.latch_step with ⟨-, same⟩ | inner
    · exact same ▸ valid.sound
    · exact inner.sound valid.sound
  · rcases step.latch_step with ⟨-, same⟩ | inner
    · exact same ▸ valid.timely
    · exact inner.timely valid.timely

/-- Whatever the threads have done, the count is that of the live guards, and who is counted out was in it.
Who gets an answer has the lock and is told whether the count is zero; who waits for as long as it takes is
told nothing else. While the count is zero and the lock free, nobody sleeps. -/
theorem guarded_of_reaches (waiters : Nat) :
    ∀ g, Reaches (fun a b => ∃ label, Step a label b) (start waiters) g →
      g.latch.barrier.active = g.live ∧
      (∀ g', Step g .leaves g' → 0 < g.latch.barrier.active ∧
        g'.latch.barrier.active + 1 = g.latch.barrier.active) ∧
      (∀ answer g', Step g (.returns answer) g' → g.latch.holder = .waiter ∧
        (answer = true ↔ g.latch.barrier.active = 0) ∧
        ∃ pre post timed expired, g.latch.waiters = pre ++ .looking timed expired :: post ∧
          g'.latch.waiters = pre ++ .outside :: post ∧ (timed = false → answer = true)) ∧
      (g.latch.holder = .nobody → g.latch.barrier.active = 0 →
        ∀ w ∈ g.latch.waiters, w.sleeps = false) := by
  intro g run
  have valid : g.Valid :=
    run.keeps (fun valid ⟨_, step⟩ => step.valid valid) (valid_start waiters)
  refine ⟨valid.counted, ?_, ?_, ?_⟩
  · intro g' step
    have positive : 0 < g.latch.barrier.active := valid.counted ▸ step.positive_of_leaves
    have moved := (step.latch_step_of_loud (by simp)).barrier_moves
    refine ⟨positive, ?_⟩
    rw [moved]
    exact Nat.sub_add_cancel positive
  · intro answer g' step
    obtain ⟨locked, seen, pre, post, timed, expired, before, after, late⟩ :=
      (step.latch_step_of_loud (by simp)).looker_of_returns
    refine ⟨locked, by rw [seen, Barrier.isOpen, decide_eq_true_iff],
      pre, post, timed, expired, before, after, fun patient => ?_⟩
    have timely : expired = true → timed = true := valid.timely (.looking timed expired) (by simp [before])
    by_contra denied
    -- only who is late is told no, and nobody is late for a wait without a time
    have expired := late (by simpa using denied)
    simp [patient, expired] at timely
  · intro free zero w mem
    by_contra sleeps
    rcases valid.sound.heard w mem (by simpa using sleeps) with closed | rings
    · simp [Barrier.isOpen, zero] at closed
    · simp [free] at rings

/-- One thread sleeps until the only worker, which has crashed, is counted out. -/
theorem exists_answer_of_crash :
    ∃ g g', Reaches (fun a b => ∃ label, Step a label b) (start 1) g ∧
      g.guards = [.gone] ∧ g.latch.barrier.active = 0 ∧
      Step g (.returns true) g' ∧ g'.latch.waiters = [.outside] := by
  let closed : Barrier := ⟨1⟩
  let opened : Barrier := ⟨0⟩
  have slept : Reaches (fun a b => ∃ label, Step a label b) (start 1)
      ⟨⟨closed, .nobody, [.asleep false]⟩, [.givenUp true]⟩ := by
    refine .head ⟨_, .want⟩ <| .head ⟨_, @Step.enter _ _ [] [] .enter⟩ <|
      .head ⟨_, .wait (@Latch.Step.call _ _ [] [] false) (by simp)⟩ <|
      .head ⟨_, .wait (@Latch.Step.lock _ [] [] _) (by simp)⟩ <|
      .head ⟨_, .wait (@Latch.Step.sleep _ [] [] _ rfl) (by simp)⟩ <|
      .single ⟨_, @Step.giveUp _ [] [] true⟩
  have woken : Reaches (fun a b => ∃ label, Step a label b)
      ⟨⟨closed, .nobody, [.asleep false]⟩, [.givenUp true]⟩
      ⟨⟨opened, .waiter, [.looking false false]⟩, [.gone]⟩ := by
    refine .head ⟨_, @Step.leave _ _ [] [] _ .leave⟩ <|
      .head ⟨_, .wait .ring (by simp)⟩ <| .head ⟨_, .wait .unlock (by simp)⟩ <|
      .single ⟨_, .wait (@Latch.Step.relock _ [] [] _ _) (by simp)⟩
  have run := slept.trans woken
  obtain ⟨counted, -⟩ := guarded_of_reaches 1 _ run
  exact ⟨_, ⟨⟨opened, .nobody, [.outside]⟩, [.gone]⟩, run, rfl, counted,
    .wait (@Latch.Step.pass _ [] [] _ _ rfl) (by simp), rfl⟩

end GuardedLatch

end CorpusTally
