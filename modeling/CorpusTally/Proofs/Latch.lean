import CorpusTally.Barrier
import CorpusTally.Proofs.Run
import Mathlib.Algebra.Ring.Nat

/-!
A barrier as threads use it. Its count is read and changed under a lock. Who gives a guard up counts
itself out, wakes all sleepers and gives the lock back; who finds the barrier closed falls asleep and
gives the lock back in one step. A sleeper also wakes when its time is up, or for no reason.
-/

namespace CorpusTally

/-- Who has the lock: nobody, a thread that waits, or one that has counted itself out and has still to
wake the others, or only to give the lock back. -/
inductive Holder where
  | nobody
  | waiter
  | ringing
  | unlocking
  deriving DecidableEq

def Holder.rank (waiters : Nat) : Holder → Nat
  | nobody | waiter => 0
  | ringing => 2 + 2 * waiters
  | unlocking => 1

inductive Waiter where
  | outside
  | entering (timed : Bool)
  | looking (timed expired : Bool)
  | asleep (timed : Bool)
  | roused (timed expired : Bool)

namespace Waiter

def rouse : Waiter → Waiter
  | asleep timed => roused timed false
  | outside => outside
  | entering timed => entering timed
  | looking timed expired => looking timed expired
  | roused timed expired => roused timed expired

def looks : Waiter → Bool
  | looking _ _ => true
  | outside | entering _ | asleep _ | roused _ _ => false

def sleeps : Waiter → Bool
  | asleep _ => true
  | outside | entering _ | looking _ _ | roused _ _ => false

def isOutside : Waiter → Bool
  | outside => true
  | entering _ | looking _ _ | asleep _ | roused _ _ => false

def Patient : Waiter → Prop
  | outside => True
  | entering timed | asleep timed => timed = false
  | looking timed expired | roused timed expired => timed = false ∧ expired = false

/-- The steps of the thread until it is outside, if nothing wakes it for no reason. Whose time is up does
not sleep again. -/
def rank : Waiter → Nat
  | outside => 0
  | looking _ true => 1
  | roused _ true => 2
  | asleep _ => 3
  | looking _ false => 4
  | roused _ false => 5
  | entering _ => 5

@[simp] theorem looks_rouse (w : Waiter) : w.rouse.looks = w.looks := by cases w <;> rfl

@[simp] theorem isOutside_rouse (w : Waiter) : w.rouse.isOutside = w.isOutside := by cases w <;> rfl

@[simp] theorem sleeps_rouse (w : Waiter) : w.rouse.sleeps = false := by cases w <;> rfl

theorem eq_outside_of_isOutside {w : Waiter} (out : w.isOutside = true) : w = outside := by
  cases w with
  | outside => rfl
  | entering | looking | asleep | roused => simp [isOutside] at out

theorem Patient.rouse {w : Waiter} (patient : w.Patient) : w.rouse.Patient := by
  cases w with
  | asleep => exact ⟨patient, rfl⟩
  | outside | entering | looking | roused => exact patient

theorem rank_rouse_le (w : Waiter) : w.rouse.rank ≤ w.rank + 2 := by
  cases w with
  | asleep => exact Nat.le_refl _
  | outside | entering | looking | roused => exact Nat.le_add_right _ _

theorem forall_replace {P : Waiter → Prop} {pre post : List Waiter} {w w' : Waiter}
    (all : ∀ v ∈ pre ++ w :: post, P v) (kept : P w → P w') : ∀ v ∈ pre ++ w' :: post, P v := by
  intro v mem
  rcases mem_mid.mp mem with rfl | other
  · exact kept (all w (mem_mid.mpr (.inl rfl)))
  · exact all v (mem_mid.mpr (.inr other))

end Waiter

structure Latch where
  barrier : Barrier := {}
  holder : Holder := .nobody
  waiters : List Waiter := []

namespace Latch

/-- What others see of a step: a worker is counted in or out, a thread begins to wait, gets its answer, or
stirs for no reason. -/
inductive Label where
  | quiet
  | enters
  | leaves
  | calls
  | returns (answer : Bool)
  | stirs

def Label.answers : Label → Nat
  | returns _ => 1
  | quiet | enters | leaves | calls | stirs => 0

def Label.Calm : Label → Prop
  | quiet | returns _ => True
  | enters | leaves | calls | stirs => False

inductive Step : Latch → Label → Latch → Prop
  | enter {b waiters} : Step ⟨b, .nobody, waiters⟩ .enters ⟨b.enter, .nobody, waiters⟩
  | leave {b waiters} : Step ⟨b, .nobody, waiters⟩ .leaves ⟨b.leave, .ringing, waiters⟩
  | ring {b waiters} :
      Step ⟨b, .ringing, waiters⟩ .quiet ⟨b, .unlocking, waiters.map Waiter.rouse⟩
  | unlock {b waiters} : Step ⟨b, .unlocking, waiters⟩ .quiet ⟨b, .nobody, waiters⟩
  | call {b holder pre post timed} :
      Step ⟨b, holder, pre ++ .outside :: post⟩ .calls ⟨b, holder, pre ++ .entering timed :: post⟩
  | lock {b pre post timed} :
      Step ⟨b, .nobody, pre ++ .entering timed :: post⟩ .quiet
        ⟨b, .waiter, pre ++ .looking timed false :: post⟩
  | relock {b pre post timed expired} :
      Step ⟨b, .nobody, pre ++ .roused timed expired :: post⟩ .quiet
        ⟨b, .waiter, pre ++ .looking timed expired :: post⟩
  | pass {b pre post timed expired} (opened : b.isOpen = true) :
      Step ⟨b, .waiter, pre ++ .looking timed expired :: post⟩ (.returns true)
        ⟨b, .nobody, pre ++ .outside :: post⟩
  | giveUp {b pre post timed} (closed : b.isOpen = false) :
      Step ⟨b, .waiter, pre ++ .looking timed true :: post⟩ (.returns false)
        ⟨b, .nobody, pre ++ .outside :: post⟩
  | sleep {b pre post timed} (closed : b.isOpen = false) :
      Step ⟨b, .waiter, pre ++ .looking timed false :: post⟩ .quiet
        ⟨b, .nobody, pre ++ .asleep timed :: post⟩
  | expire {b holder pre post} :
      Step ⟨b, holder, pre ++ .asleep true :: post⟩ .quiet
        ⟨b, holder, pre ++ .roused true true :: post⟩
  | stir {b holder pre post timed} :
      Step ⟨b, holder, pre ++ .asleep timed :: post⟩ .stirs
        ⟨b, holder, pre ++ .roused timed false :: post⟩

/-- One thread at most looks at the count, and has the lock then. While somebody sleeps the barrier is
closed, or the one who opened it has yet to wake the sleepers. -/
structure Sound (l : Latch) : Prop where
  held : l.waiters.countP Waiter.looks = if l.holder = .waiter then 1 else 0
  heard : ∀ w ∈ l.waiters, w.sleeps = true → l.barrier.isOpen = false ∨ l.holder = .ringing

variable {l l' : Latch} {label : Label}

private theorem Sound.replace {b : Barrier} {holder holder' : Holder} {pre post : List Waiter}
    {w w' : Waiter} (sound : Sound ⟨b, holder, pre ++ w :: post⟩)
    (held : w'.looks.toNat + (if holder = .waiter then 1 else 0) =
      w.looks.toNat + (if holder' = .waiter then 1 else 0))
    (rings : holder = .ringing → holder' = .ringing)
    (sleeper : w'.sleeps = true → b.isOpen = false) :
    Sound ⟨b, holder', pre ++ w' :: post⟩ where
  held := by
    have before := sound.held
    simp only [List.countP_append, List.countP_cons] at before ⊢
    cases looked : w.looks <;> cases looks : w'.looks <;> simp [looked, looks] at held before ⊢ <;>
      omega
  heard := fun v mem sleeps => by
    rcases mem_mid.mp mem with rfl | other
    · exact .inl (sleeper sleeps)
    · exact (sound.heard v (mem_mid.mpr (.inr other)) sleeps).imp_right rings

/-- No step makes anybody miss that the barrier was opened. -/
theorem Step.sound (step : Step l label l') (sound : l.Sound) : l'.Sound := by
  cases step with
  | enter => exact ⟨sound.held, fun w mem sleeps => .inl (by simp [Barrier.isOpen, Barrier.enter])⟩
  -- The count may be zero now, but the holder of the lock has yet to ring.
  | leave => exact ⟨sound.held, fun w mem sleeps => .inr rfl⟩
  | ring =>
    refine ⟨?_, fun w mem sleeps => ?_⟩
    · simpa [List.countP_map, Function.comp_def] using sound.held
    · obtain ⟨before, -, rfl⟩ := List.mem_map.mp mem
      simp at sleeps
  | unlock =>
    refine ⟨sound.held, fun w mem sleeps => ?_⟩
    exact (sound.heard w mem sleeps).imp_right (by simp)
  | call => exact sound.replace rfl id (by simp [Waiter.sleeps])
  | lock | relock => exact sound.replace rfl (by simp) (by simp [Waiter.sleeps])
  | pass | giveUp => exact sound.replace rfl (by simp) (by simp [Waiter.sleeps])
  | sleep closed => exact sound.replace rfl (by simp) fun _ => closed
  | expire | stir => exact sound.replace rfl id (by simp [Waiter.sleeps])

theorem Step.length_eq (step : Step l label l') : l'.waiters.length = l.waiters.length := by
  cases step <;> simp

theorem Step.outside_eq (step : Step l label l') (uncalled : label ≠ .calls) :
    l'.waiters.countP Waiter.isOutside = l.waiters.countP Waiter.isOutside + label.answers := by
  cases step with
  | call => exact absurd rfl uncalled
  | enter | leave | unlock => rfl
  | ring => simp [List.countP_map, Function.comp_def, Label.answers]
  | lock | relock | sleep | expire | stir =>
    simp [List.countP_append, Waiter.isOutside, Label.answers]
  | pass | giveUp =>
    simp [List.countP_append, List.countP_cons, Waiter.isOutside, Label.answers, Nat.add_assoc]

theorem Step.exists_sleeper (step : Step l .stirs l') : ∃ w ∈ l.waiters, w.sleeps = true := by
  cases step with
  | @stir _ _ _ _ timed => exact ⟨.asleep timed, by simp, rfl⟩

theorem Step.unlocked_of_returns {answer : Bool} (step : Step l (.returns answer) l') :
    l'.holder = .nobody := by
  cases step <;> rfl

theorem Step.open_of_returns (step : Step l (.returns true) l') : l.barrier.isOpen = true := by
  cases step with
  | pass opened => exact opened

theorem Step.barrier_eq (step : Step l label l') (calm : label.Calm) : l'.barrier = l.barrier := by
  cases step with
  | enter | leave | call | stir => exact absurd calm id
  | ring | unlock | lock | relock | pass | giveUp | sleep | expire => rfl

theorem Step.patient (step : Step l label l') (uncalled : label ≠ .calls)
    (patient : ∀ w ∈ l.waiters, w.Patient) : ∀ w ∈ l'.waiters, w.Patient := by
  cases step with
  | enter | leave | unlock => exact patient
  | ring =>
    intro w mem
    obtain ⟨before, inside, rfl⟩ := List.mem_map.mp mem
    exact (patient before inside).rouse
  | call => exact absurd rfl uncalled
  | lock => exact Waiter.forall_replace patient fun timed => ⟨timed, rfl⟩
  | relock => exact Waiter.forall_replace patient id
  | pass | giveUp => exact Waiter.forall_replace patient fun _ => trivial
  | sleep => exact Waiter.forall_replace patient fun before => before.1
  | expire => exact Waiter.forall_replace patient fun timed => ⟨timed, timed⟩
  | stir => exact Waiter.forall_replace patient fun timed => ⟨timed, rfl⟩

theorem Step.answer_of_patient {answer : Bool} (step : Step l (.returns answer) l')
    (patient : ∀ w ∈ l.waiters, w.Patient) : answer = true := by
  cases step with
  | pass => rfl
  | @giveUp _ pre post timed =>
    have late := (patient (.looking timed true) (by simp)).2
    exact absurd late (by decide)

def rank (l : Latch) : Nat := l.holder.rank l.waiters.length + (l.waiters.map Waiter.rank).sum

private theorem sum_rank_rouse_le (waiters : List Waiter) :
    ((waiters.map Waiter.rouse).map Waiter.rank).sum ≤
      (waiters.map Waiter.rank).sum + 2 * waiters.length := by
  induction waiters with
  | nil => simp
  | cons w waiters ih =>
    have here := w.rank_rouse_le
    simp only [List.map_cons, List.sum_cons, List.length_cons]
    omega

private theorem rank_replace_lt {b : Barrier} {holder holder' : Holder} {pre post : List Waiter}
    {w w' : Waiter} (lower : w'.rank < w.rank)
    (same : ∀ waiters, holder'.rank waiters = holder.rank waiters) :
    rank ⟨b, holder', pre ++ w' :: post⟩ < rank ⟨b, holder, pre ++ w :: post⟩ := by
  simp only [rank, same, List.map_append, List.map_cons, List.sum_append, List.sum_cons,
    List.length_append, List.length_cons]
  omega

theorem Step.rank_lt (step : Step l label l') (calm : label.Calm) : l'.rank < l.rank := by
  cases step with
  | enter | leave | call | stir => exact absurd calm id
  | @ring b waiters =>
    -- Every sleeper has two steps more when it is woken; the holder has set them aside.
    have woken := sum_rank_rouse_le waiters
    simp only [rank, Holder.rank]
    omega
  | unlock => simp [rank, Holder.rank]
  | lock => exact rank_replace_lt (by simp [Waiter.rank]) fun _ => rfl
  | @relock _ _ _ _ expired =>
    exact rank_replace_lt (by cases expired <;> simp [Waiter.rank]) fun _ => rfl
  | @pass _ _ _ _ expired =>
    exact rank_replace_lt (by cases expired <;> simp [Waiter.rank]) fun _ => rfl
  | giveUp | sleep => exact rank_replace_lt (by simp [Waiter.rank]) fun _ => rfl
  | expire => exact rank_replace_lt (by simp [Waiter.rank]) fun _ => rfl

theorem Step.rank_of_leaves (step : Step l .leaves l') :
    l'.rank = l.rank + 2 + 2 * l.waiters.length := by
  cases step with
  | leave =>
    simp only [rank, Holder.rank]
    omega

/-- The lock is given back and taken by who wants it. Only those who are outside or asleep have nothing to
do. -/
theorem Sound.exists_step (sound : l.Sound)
    (stirring : l.holder ≠ .nobody ∨ ∃ w ∈ l.waiters, w ≠ .outside ∧ w.sleeps = false) :
    ∃ label l', Step l label l' ∧ label.Calm := by
  obtain ⟨b, holder, waiters⟩ := l
  have held : waiters.countP Waiter.looks = if holder = .waiter then 1 else 0 := sound.held
  match holder with
  | .ringing => exact ⟨_, _, .ring, trivial⟩
  | .unlocking => exact ⟨_, _, .unlock, trivial⟩
  | .waiter =>
    obtain ⟨w, mem, looks⟩ := List.countP_pos_iff.mp (show 0 < waiters.countP Waiter.looks by simp [held])
    obtain ⟨pre, post, rfl⟩ := List.append_of_mem mem
    cases w with
    | outside | entering | asleep | roused => simp [Waiter.looks] at looks
    | looking timed expired =>
      match opened : b.isOpen, expired with
      | true, _ => exact ⟨_, _, .pass opened, trivial⟩
      | false, true => exact ⟨_, _, .giveUp opened, trivial⟩
      | false, false => exact ⟨_, _, .sleep opened, trivial⟩
  | .nobody =>
    -- Nobody looks at the count while the lock is free, so whoever is up wants the lock.
    obtain ⟨w, mem, inside, awake⟩ := stirring.resolve_left (absurd rfl)
    have unlooked := List.countP_eq_zero.mp held w mem
    obtain ⟨pre, post, rfl⟩ := List.append_of_mem mem
    cases w with
    | outside => exact absurd rfl inside
    | asleep => simp [Waiter.sleeps] at awake
    | looking => simp [Waiter.looks] at unlooked
    | entering timed => exact ⟨_, _, .lock, trivial⟩
    | roused timed expired => exact ⟨_, _, .relock, trivial⟩

end Latch

end CorpusTally
