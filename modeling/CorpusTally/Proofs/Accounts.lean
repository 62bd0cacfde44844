import CorpusTally.Proofs.Crew
import Mathlib.Algebra.BigOperators.Group.List.Basic
import Mathlib.Tactic.Abel

/-!
What work books in the state that its members share. A job has a price that is booked bit by bit while it
is worked on, and by nobody else. What is booked and what is still owed make up the same sum all the time,
so that a crew that is done has booked the price of every job.
-/

namespace CorpusTally

variable {σ α β : Type} {c : Craft σ α β} {shared : σ → Prop} {good : α → Prop} {value : α → β}

/-- A step books what the task owes less behind it; a task with a result owes nothing. -/
structure Craft.Law.Account (law : c.Law shared good value) (M : Type) [AddCommMonoid M] where
  booked : σ → M
  price : α → M
  owed : α → c.Task → M
  begins : ∀ {job}, good job → owed job (c.start job) = price job
  keeps : ∀ {s s' job task task'}, shared s → law.Valid job task → c.Step (s, task) (s', task') →
    booked s' + owed job task' = booked s + owed job task
  ends : ∀ {job task result}, law.Valid job task → c.result? task = some result → owed job task = 0

variable {M : Type} [AddCommMonoid M] {law : c.Law shared good value} {s s' : σ} {event : Event α β}

def Craft.Law.Account.prices (account : law.Account M) (jobs : List α) : M :=
  (jobs.map account.price).sum

namespace Member

variable {closed : Bool} {queue queue' : List α} {m m' : Member c}

def owed (account : law.Account M) : Member c → M
  | busy job task => account.owed job task
  | waiting | leaving | gone => 0

theorem Step.books (account : law.Account M)
    (step : Step c closed (s, queue, m) event (s', queue', m')) (ok : shared s) (valid : m.Valid law)
    (jobs : ∀ job ∈ queue, good job) :
    account.booked s' + (m'.owed account + account.prices queue') =
      account.booked s + (m.owed account + account.prices queue) := by
  cases step with
  -- the price of the job goes over from the queue to the member
  | take =>
    have begun := account.begins (jobs _ List.mem_cons_self)
    simp only [owed, begun, Craft.Law.Account.prices, List.map_cons, List.sum_cons, zero_add]
  | work inner =>
    have kept := account.keeps ok valid.2 inner
    simp only [owed, ← add_assoc, kept]
  | deliver done => simp only [owed, account.ends valid.2 done]
  | crash failed => simp only [owed, account.ends valid.2 failed]
  | stop | leave => rfl

end Member

namespace Crew

variable {crew crew' : Crew c}

def owed (account : law.Account M) (crew : Crew c) : M :=
  (crew.members.map (Member.owed account)).sum + account.prices (crew.queue ++ crew.sender.getD [])

private theorem owed_member (account : law.Account M) (sender : Option (List α)) (queue : List α)
    (pre post : List (Member c)) (m : Member c) (kept : Bool) :
    owed account ⟨sender, queue, pre ++ m :: post, kept⟩ =
      (m.owed account + account.prices queue) +
        (((pre ++ post).map (Member.owed account)).sum + account.prices (sender.getD [])) := by
  simp only [owed, Craft.Law.Account.prices, List.map_append, List.map_cons, List.sum_append,
    List.sum_cons]
  abel

theorem Step.books (account : law.Account M) (step : Step c (s, crew) event (s', crew'))
    (ok : shared s) (valid : crew.Valid law) :
    account.booked s' + crew'.owed account = account.booked s + crew.owed account := by
  cases step with
  | send => simp [owed]
  -- somebody who can take it is left while jobs are sent
  | refused unheard => exact absurd (valid.heard (by simp)) unheard
  | close => simp [owed]
  | member inner =>
    have moved := inner.books account ok (valid.members _ (by simp))
      fun job mem => valid.good job (List.mem_append_left _ mem)
    rw [owed_member, owed_member, ← add_assoc, moved, add_assoc]

theorem owed_start (account : law.Account M) (size : Nat) (jobs : List α) (kept : Bool) :
    (start c size jobs kept).owed account = account.prices jobs := by
  simp [start, owed, Member.owed]

theorem Valid.owed_of_over (valid : crew.Valid law) (account : law.Account M)
    (isOver : crew.Over) : crew.owed account = 0 := by
  have gone : (crew.members.map (Member.owed account)).sum = 0 := List.sum_eq_zero fun owed mem => by
    obtain ⟨m, among, rfl⟩ := List.mem_map.mp mem
    rw [isOver.2 m among]
    rfl
  have due := valid.due_of_over isOver
  have left : crew.queue ++ crew.sender.getD [] = [] := (List.append_eq_nil_iff.mp due).2
  rw [owed, gone, left, zero_add]
  rfl

end Crew

end CorpusTally
