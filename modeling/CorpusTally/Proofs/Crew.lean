import CorpusTally.Crash
import CorpusTally.Proofs.Run
import Mathlib.Algebra.Ring.Nat
import Mathlib.Data.List.Perm.Basic

/-!
A crew whose members take jobs from one queue, each as it is free, while a sender still fills the queue.
Members share a state and their steps interleave in any way. If one piece of work is lawful by itself,
the crew does every job once and is done some day.
-/

namespace CorpusTally

/-- Work on one job over a shared state: how it is begun, its single steps, and when it is done. -/
structure Craft (σ α β : Type) where
  Task : Type
  start : α → Task
  Step : σ × Task → σ × Task → Prop
  result? : Task → Option (Except Crash β)

variable {σ α β : Type}

/-- Work that comes to the value of its job, however others change the shared state in between. -/
structure Craft.Law (c : Craft σ α β) (shared : σ → Prop) (good : α → Prop) (value : α → β) where
  Valid : α → c.Task → Prop
  rank : c.Task → Nat
  begins : ∀ {job}, good job → Valid job (c.start job)
  keeps : ∀ {s s' job task task'}, shared s → Valid job task → c.Step (s, task) (s', task') →
    shared s' ∧ Valid job task' ∧ rank task' < rank task
  moves : ∀ {s job task}, shared s → Valid job task → c.result? task = none →
    ∃ next, c.Step (s, task) next
  answers : ∀ {job task r}, Valid job task → c.result? task = some r → r = .ok (value job)

def Craft.Law.settles {c : Craft σ α β} {shared : σ → Prop} {good : α → Prop} {value : α → β}
    (law : c.Law shared good value) (job : α) :
    Settles c.Step (fun a => shared a.1 ∧ law.Valid job a.2)
      (fun a => c.result? a.2 = some (.ok (value job))) where
  rank := fun a => law.rank a.2
  keeps := fun ok step =>
    have kept := law.keeps ok.1 ok.2 step
    ⟨kept.1, kept.2.1⟩
  drops := fun ok step => (law.keeps ok.1 ok.2 step).2.2
  moves := fun {a} ok going => by
    match done : c.result? a.2 with
    | none => exact law.moves ok.1 ok.2 done
    | some r => exact absurd (law.answers ok.2 done ▸ done) going

/-- What others see of a step: a job is done, or its member breaks down over it, or a member is gone. -/
inductive Event (α β : Type) where
  | quiet
  | delivers (job : α) (result : β)
  | crashes (job : α) (crash : Crash)
  | leaves

namespace Event

def jobs : Event α β → List α
  | delivers job _ | crashes job _ => [job]
  | quiet | leaves => []

def results : Event α β → List β
  | delivers _ result => [result]
  | crashes _ _ | quiet | leaves => []

def breaks : Event α β → Bool
  | crashes _ _ => true
  | delivers _ _ | quiet | leaves => false

def Right (value : α → β) : Event α β → Prop
  | delivers job result => result = value job
  | crashes _ _ => False
  | quiet | leaves => True

def departures : Event α β → Nat
  | leaves => 1
  | delivers _ _ | crashes _ _ | quiet => 0

theorem Right.results_eq {value : α → β} {event : Event α β} (right : event.Right value) :
    event.results = event.jobs.map value := by
  cases event with
  | delivers job result => exact congrArg (fun r => [r]) right
  | crashes => exact absurd right id
  | quiet | leaves => rfl

theorem Right.breaks_eq {value : α → β} {event : Event α β} (right : event.Right value) :
    event.breaks = false := by
  cases event with
  | crashes => exact absurd right id
  | delivers | quiet | leaves => rfl

end Event

inductive Member (c : Craft σ α β) where
  | waiting
  | busy (job : α) (task : c.Task)
  | leaving
  | gone

namespace Member

variable {c : Craft σ α β}

inductive Step (c : Craft σ α β) (closed : Bool) :
    σ × List α × Member c → Event α β → σ × List α × Member c → Prop
  | take {s job later} : Step c closed (s, job :: later, waiting) .quiet
      (s, later, busy job (c.start job))
  | work {s s' queue job task task'} (inner : c.Step (s, task) (s', task')) :
      Step c closed (s, queue, busy job task) .quiet (s', queue, busy job task')
  | deliver {s queue job task result} (done : c.result? task = some (.ok result)) :
      Step c closed (s, queue, busy job task) (.delivers job result) (s, queue, waiting)
  | crash {s queue job task e} (failed : c.result? task = some (.error e)) :
      Step c closed (s, queue, busy job task) (.crashes job e) (s, queue, leaving)
  | stop {s} (shut : closed = true) : Step c closed (s, [], waiting) .quiet (s, [], leaving)
  | leave {s queue} : Step c closed (s, queue, leaving) .leaves (s, queue, gone)

def jobs : Member c → List α
  | busy job _ => [job]
  | waiting | leaving | gone => []

def Done : Member c → Prop
  | leaving | gone => True
  | waiting | busy _ _ => False

variable {shared : σ → Prop} {good : α → Prop} {value : α → β} {closed : Bool} {s s' : σ}
variable {queue queue' : List α} {m m' : Member c} {event : Event α β}

def isHere : Member c → Bool
  | gone => false
  | waiting | busy _ _ | leaving => true

theorem eq_gone_of_not_here {m : Member c} (away : m.isHere = false) : m = gone := by
  cases m <;> simp [isHere] at away
  rfl

def Valid (law : c.Law shared good value) : Member c → Prop
  | busy job task => good job ∧ law.Valid job task
  | waiting | leaving | gone => True

def rank (law : c.Law shared good value) : Member c → Nat
  | waiting => 2
  | busy _ task => 3 + law.rank task
  | leaving => 1
  | gone => 0

def cost (law : c.Law shared good value) (queue : List α) : Nat :=
  (queue.map fun job => 2 + law.rank (c.start job)).sum

theorem Step.jobs_eq (step : Step c closed (s, queue, m) event (s', queue', m')) :
    m.jobs ++ queue = event.jobs ++ (m'.jobs ++ queue') := by
  cases step <;> rfl

theorem Step.here_eq (step : Step c closed (s, queue, m) event (s', queue', m')) :
    m.isHere.toNat = m'.isHere.toNat + event.departures := by
  cases step <;> rfl

theorem Step.keeps (law : c.Law shared good value)
    (step : Step c closed (s, queue, m) event (s', queue', m')) (ok : shared s)
    (valid : m.Valid law) (jobs : ∀ job ∈ queue, good job) :
    shared s' ∧ m'.Valid law ∧ event.Right value ∧
      m'.rank law + cost law queue' < m.rank law + cost law queue := by
  cases step with
  | take =>
    have here := jobs _ List.mem_cons_self
    refine ⟨ok, ⟨here, law.begins here⟩, trivial, ?_⟩
    simp only [rank, cost, List.map_cons, List.sum_cons]
    omega
  | work inner =>
    obtain ⟨left, kept, lower⟩ := law.keeps ok valid.2 inner
    refine ⟨left, ⟨valid.1, kept⟩, trivial, ?_⟩
    simp only [rank]
    omega
  | deliver done =>
    have answer := law.answers valid.2 done
    refine ⟨ok, trivial, Except.ok.inj answer, ?_⟩
    simp only [rank]
    omega
  | crash failed => exact absurd (law.answers valid.2 failed) (by simp)
  | stop => exact ⟨ok, trivial, trivial, by simp [rank]⟩
  | leave => exact ⟨ok, trivial, trivial, by simp [rank]⟩

/-- Who has stopped has done so at the end of the queue, unless it broke down. -/
theorem Step.done_of (step : Step c closed (s, queue, m) event (s', queue', m'))
    (right : event.Right value) (done : m'.Done) : m.Done ∨ closed = true ∧ queue' = [] := by
  cases step with
  | take | work | deliver => simp [Done] at done
  | crash => exact absurd right id
  | stop shut => exact .inr ⟨shut, rfl⟩
  | leave => exact .inl trivial

theorem Step.queue_of_nil (step : Step c closed (s, [], m) event (s', queue', m')) :
    queue' = [] := by
  cases step <;> rfl

theorem Step.queue_subset (step : Step c closed (s, queue, m) event (s', queue', m')) :
    queue' ⊆ queue := by
  cases step with
  | take => exact List.subset_cons_self _ _
  | work | deliver | crash | stop | leave => exact List.Subset.refl _

theorem exists_step (law : c.Law shared good value) (ok : shared s) (valid : m.Valid law)
    (here : m ≠ gone) (notIdle : queue = [] → closed = true) :
    ∃ s' event queue' m', Step c closed (s, queue, m) event (s', queue', m') := by
  match m, queue with
  | waiting, [] => exact ⟨_, _, _, _, .stop (notIdle rfl)⟩
  | waiting, _ :: _ => exact ⟨_, _, _, _, .take⟩
  | busy job task, queue =>
    match done : c.result? task with
    | none =>
      obtain ⟨⟨s', task'⟩, inner⟩ := law.moves ok valid.2 done
      exact ⟨_, _, _, _, .work inner⟩
    | some (.ok result) => exact ⟨_, _, _, _, .deliver done⟩
    | some (.error e) => exact ⟨_, _, _, _, .crash done⟩
  | leaving, queue => exact ⟨_, _, _, _, .leave⟩
  | gone, _ => exact absurd rfl here

end Member

/-- The members, the queue, and the sender with the jobs that it has yet to send, until it is dropped.
The receiving end of the queue may be `kept` by somebody else as well. -/
structure Crew (c : Craft σ α β) where
  sender : Option (List α)
  queue : List α
  members : List (Member c)
  kept : Bool

namespace Crew

variable {c : Craft σ α β}

def start (c : Craft σ α β) (size : Nat) (jobs : List α) (kept : Bool) : Crew c :=
  { sender := some jobs, queue := [], members := List.replicate size .waiting, kept := kept }

def Heard (crew : Crew c) : Prop := crew.kept = true ∨ ∃ m ∈ crew.members, m ≠ .gone

inductive Step (c : Craft σ α β) : σ × Crew c → Event α β → σ × Crew c → Prop
  | send {s job unsent queue members kept}
      (heard : Heard ⟨some (job :: unsent), queue, members, kept⟩) :
      Step c (s, ⟨some (job :: unsent), queue, members, kept⟩) .quiet
        (s, ⟨some unsent, queue ++ [job], members, kept⟩)
  | refused {s job unsent queue members kept}
      (unheard : ¬ Heard ⟨some (job :: unsent), queue, members, kept⟩) :
      Step c (s, ⟨some (job :: unsent), queue, members, kept⟩) .quiet
        (s, ⟨none, queue, members, kept⟩)
  | close {s queue members kept} :
      Step c (s, ⟨some [], queue, members, kept⟩) .quiet (s, ⟨none, queue, members, kept⟩)
  | member {s s' sender queue queue' pre post m m' kept event}
      (inner : Member.Step c sender.isNone (s, queue, m) event (s', queue', m')) :
      Step c (s, ⟨sender, queue, pre ++ m :: post, kept⟩) event
        (s', ⟨sender, queue', pre ++ m' :: post, kept⟩)

def due (crew : Crew c) : List α :=
  crew.members.flatMap Member.jobs ++ (crew.queue ++ crew.sender.getD [])

def present (crew : Crew c) : Nat := (crew.members.map fun m => m.isHere.toNat).sum

def Over (crew : Crew c) : Prop := crew.sender = none ∧ ∀ m ∈ crew.members, m = .gone

variable {shared : σ → Prop} {good : α → Prop} {value : α → β} {s s' : σ} {crew crew' : Crew c}
variable {event : Event α β}

structure Valid (law : c.Law shared good value) (crew : Crew c) : Prop where
  good : ∀ job ∈ crew.queue ++ crew.sender.getD [], good job
  members : ∀ m ∈ crew.members, m.Valid law
  drained : ∀ m ∈ crew.members, m.Done → crew.queue = [] ∧ crew.sender = none
  staffed : crew.members ≠ []

def rank (law : c.Law shared good value) (crew : Crew c) : Nat :=
  crew.sender.elim 0 (fun unsent => Member.cost law unsent + unsent.length + 1) +
    Member.cost law crew.queue + (crew.members.map (Member.rank law)).sum

private theorem due_member (sender : Option (List α)) (queue : List α) (pre post : List (Member c))
    (m : Member c) (kept : Bool) :
    (due ⟨sender, queue, pre ++ m :: post, kept⟩).Perm
      ((m.jobs ++ queue) ++ ((pre ++ post).flatMap Member.jobs ++ sender.getD [])) := by
  classical
  refine List.perm_iff_count.mpr fun job => ?_
  simp only [due, List.flatMap_append, List.flatMap_cons, List.count_append]
  omega

theorem Valid.heard {law : c.Law shared good value} (valid : crew.Valid law)
    (sends : crew.sender ≠ none) : crew.Heard := by
  obtain ⟨m, mem⟩ := List.exists_mem_of_ne_nil _ valid.staffed
  refine .inr ⟨m, mem, ?_⟩
  rintro rfl
  exact sends (valid.drained _ mem trivial).2

theorem Valid.of_member {law : c.Law shared good value} {sender : Option (List α)}
    {queue queue' : List α} {pre post : List (Member c)} {m m' : Member c} {kept : Bool}
    (valid : Valid law ⟨sender, queue, pre ++ m :: post, kept⟩)
    (inner : Member.Step c sender.isNone (s, queue, m) event (s', queue', m'))
    (right : event.Right value) (ok : m'.Valid law) :
    Valid law ⟨sender, queue', pre ++ m' :: post, kept⟩ where
  good := fun job mem => by
    rcases List.mem_append.mp mem with queued | unsent
    · exact valid.good job (List.mem_append_left _ (inner.queue_subset queued))
    · exact valid.good job (List.mem_append_right _ unsent)
  members := fun other mem => by
    rcases List.mem_append.mp mem with before | here
    · exact valid.members other (List.mem_append_left _ before)
    · rcases List.mem_cons.mp here with rfl | after
      · exact ok
      · exact valid.members other (by simp [after])
  drained := fun other mem done => by
    have rested : ∀ {n : Member c}, n ∈ pre ++ m :: post → n.Done → queue' = [] ∧ sender = none := by
      intro n mem done
      obtain ⟨empty, dropped⟩ : queue = [] ∧ sender = none := valid.drained n mem done
      subst empty
      exact ⟨inner.queue_of_nil, dropped⟩
    rcases List.mem_append.mp mem with before | here
    · exact rested (List.mem_append_left _ before) done
    · rcases List.mem_cons.mp here with rfl | after
      · rcases inner.done_of right done with already | ⟨closed, empty⟩
        · exact rested (by simp) already
        · exact ⟨empty, Option.isNone_iff_eq_none.mp closed⟩
      · exact rested (by simp [after]) done
  staffed := by simp

theorem Step.keeps (law : c.Law shared good value) (step : Step c (s, crew) event (s', crew'))
    (ok : shared s) (valid : crew.Valid law) :
    shared s' ∧ crew'.Valid law ∧ event.Right value := by
  cases step with
  | send =>
    refine ⟨ok, ⟨?_, valid.members, fun m mem done => ?_, valid.staffed⟩, trivial⟩
    · intro job mem
      exact valid.good job (by simpa using mem)
    · simpa using (valid.drained m mem done).2
  | refused unheard => exact absurd (valid.heard (by simp)) unheard
  | close =>
    exact ⟨ok, ⟨valid.good, valid.members, fun m mem done => ⟨(valid.drained m mem done).1, rfl⟩,
      valid.staffed⟩, trivial⟩
  | member inner =>
    obtain ⟨left, kept, right, -⟩ := inner.keeps law ok (valid.members _ (by simp))
      fun job mem => valid.good job (List.mem_append_left _ mem)
    exact ⟨left, valid.of_member inner right kept, right⟩

/-- No job is lost, and none is done twice. -/
theorem Step.due_perm (law : c.Law shared good value) (step : Step c (s, crew) event (s', crew'))
    (valid : crew.Valid law) : crew.due.Perm (event.jobs ++ crew'.due) := by
  cases step with
  | send => simp [due, Event.jobs]
  | refused unheard => exact absurd (valid.heard (by simp)) unheard
  | close => simp [due, Event.jobs]
  | member inner =>
    refine (due_member _ _ _ _ _ _).trans ?_
    rw [inner.jobs_eq, List.append_assoc]
    exact (due_member _ _ _ _ _ _).symm.append_left _

theorem Step.present_eq (step : Step c (s, crew) event (s', crew')) :
    crew.present = crew'.present + event.departures := by
  cases step with
  | send | refused | close => rfl
  | member inner =>
    have here := inner.here_eq
    simp only [present, List.map_append, List.map_cons, List.sum_append, List.sum_cons]
    omega

theorem Step.length_eq (step : Step c (s, crew) event (s', crew')) :
    crew'.members.length = crew.members.length := by
  cases step with
  | send | refused | close => rfl
  | member => simp

/-- One member alone does the jobs in the order of the queue. -/
theorem Step.due_eq (law : c.Law shared good value) (step : Step c (s, crew) event (s', crew'))
    (valid : crew.Valid law) (alone : crew.members.length = 1) :
    crew.due = event.jobs ++ crew'.due := by
  cases step with
  | send => simp [due, Event.jobs]
  | refused unheard => exact absurd (valid.heard (by simp)) unheard
  | close => simp [due, Event.jobs]
  | @member _ _ sender queue queue' pre post m m' _ _ inner =>
    have none : pre = [] ∧ post = [] := by
      simp only [List.length_append, List.length_cons] at alone
      exact ⟨List.length_eq_zero_iff.mp (by omega), List.length_eq_zero_iff.mp (by omega)⟩
    obtain ⟨rfl, rfl⟩ := none
    have same := inner.jobs_eq
    simp only [due, List.nil_append, List.flatMap_cons, List.flatMap_nil, List.append_nil]
    rw [← List.append_assoc, same]
    simp

theorem Step.rank_lt (law : c.Law shared good value) (step : Step c (s, crew) event (s', crew'))
    (ok : shared s) (valid : crew.Valid law) : crew'.rank law < crew.rank law := by
  cases step with
  | send =>
    simp only [rank, Option.elim, Member.cost, List.map_append, List.sum_append, List.map_cons,
      List.sum_cons, List.map_nil, List.sum_nil, List.length_cons]
    omega
  | refused =>
    simp only [rank, Option.elim]
    omega
  | close =>
    simp only [rank, Option.elim]
    omega
  | member inner =>
    obtain ⟨-, -, -, lower⟩ := inner.keeps law ok (valid.members _ (by simp))
      fun job mem => valid.good job (List.mem_append_left _ mem)
    simp only [rank, List.map_append, List.map_cons, List.sum_append, List.sum_cons]
    omega

theorem exists_step (law : c.Law shared good value) (ok : shared s) (valid : crew.Valid law)
    (going : ¬ crew.Over) : ∃ event next, Step c (s, crew) event next := by
  obtain ⟨sender, queue, members, kept⟩ := crew
  match sender with
  | some [] => exact ⟨_, _, .close⟩
  | some (job :: unsent) => exact ⟨_, _, .send (valid.heard (by simp))⟩
  | none =>
    have left : ∃ m ∈ members, m ≠ .gone := by
      by_contra nobody
      exact going ⟨rfl, fun m mem => by_contra fun here => nobody ⟨m, mem, here⟩⟩
    obtain ⟨m, mem, here⟩ := left
    obtain ⟨pre, post, rfl⟩ := List.append_of_mem mem
    obtain ⟨s', event, queue', m', inner⟩ :
        ∃ s' event queue' m', Member.Step c true (s, queue, m) event (s', queue', m') :=
      Member.exists_step law ok (valid.members m mem) here fun _ => rfl
    exact ⟨event, (s', ⟨none, queue', pre ++ m' :: post, kept⟩), .member inner⟩

theorem Valid.due_of_over {law : c.Law shared good value} (valid : crew.Valid law)
    (isOver : crew.Over) : crew.due = [] := by
  obtain ⟨m, mem⟩ := List.exists_mem_of_ne_nil _ valid.staffed
  have empty := (valid.drained m mem (by rw [isOver.2 m mem]; trivial)).1
  have hands : crew.members.flatMap Member.jobs = [] := List.flatMap_eq_nil_iff.mpr fun m mem => by
    rw [isOver.2 m mem]
    rfl
  rw [due, hands, empty, isOver.1]
  rfl

theorem Valid.over_of_present {law : c.Law shared good value} (valid : crew.Valid law)
    (nobody : crew.present = 0) : crew.Over := by
  have all : ∀ m ∈ crew.members, m = .gone := fun m mem => by
    have away := List.sum_eq_zero_iff_forall_eq_nat.mp nobody _ (List.mem_map_of_mem mem)
    exact Member.eq_gone_of_not_here (by simpa using away)
  obtain ⟨m, mem⟩ := List.exists_mem_of_ne_nil _ valid.staffed
  exact ⟨(valid.drained m mem (by rw [all m mem]; trivial)).2, all⟩

theorem Over.present_eq (isOver : crew.Over) : crew.present = 0 := by
  refine List.sum_eq_zero_iff_forall_eq_nat.mpr fun n mem => ?_
  obtain ⟨m, inside, rfl⟩ := List.mem_map.mp mem
  rw [isOver.2 m inside]
  rfl

theorem Over.no_step (isOver : crew.Over) : ¬ Step c (s, crew) event (s', crew') := by
  intro step
  cases step with
  | send | refused | close => simp [Over] at isOver
  | @member _ _ _ _ _ _ _ m _ _ _ inner =>
    obtain rfl : m = .gone := isOver.2 m (by simp)
    cases inner

theorem present_start (c : Craft σ α β) (size : Nat) (jobs : List α) (kept : Bool) :
    (start c size jobs kept).present = size := by
  simp [start, present, Member.isHere]

theorem valid_start (law : c.Law shared good value) {size : Nat} (positive : 0 < size)
    {jobs : List α} (ok : ∀ job ∈ jobs, good job) (kept : Bool) :
    (start c size jobs kept).Valid law where
  good := by simpa [start] using ok
  members := fun m mem => by
    rw [List.eq_of_mem_replicate mem]
    trivial
  drained := fun m mem done => by
    rw [List.eq_of_mem_replicate mem] at done
    exact done.elim
  staffed := by
    simp only [start, ne_eq, List.replicate_eq_nil_iff]
    omega

theorem due_start (c : Craft σ α β) (size : Nat) (jobs : List α) (kept : Bool) :
    (start c size jobs kept).due = jobs := by
  have hands : (List.replicate size (Member.waiting : Member c)).flatMap Member.jobs = [] :=
    List.flatMap_eq_nil_iff.mpr fun m mem => by
      rw [List.eq_of_mem_replicate mem]
      rfl
  simp [start, due, hands]

end Crew

end CorpusTally
