import CorpusTally.Proofs.Pool.Arrivals

/-!
What a pool reads. A worker reads each file once it has taken the path; until then the path is in the queue or
with the sender. The list of stopwords is read when the set is built.
-/

namespace CorpusTally

variable {p : FileCounter}

def FileTask.unread : FileTask p → List Path
  | opened path => [path]
  | counting _ _ _ | failing _ _ | raised _ _ | settled _ => []

theorem FileTask.Valid.mem_unread {set : StopwordSet} {job path : Path} {task : FileTask p}
    (valid : task.Valid set job) (mem : path ∈ task.unread) : path = job := by
  cases task with
  | opened same =>
    obtain rfl : same = job := valid
    exact List.mem_singleton.mp mem
  | counting | failing | raised | settled => cases mem

namespace Pool

variable {set : StopwordSet} {paths : List Path} {w w' : Workbench} {pool pool' : Pool p} {path : Path}

def unreadBy : Member (fileCraft p) → List Path
  | .busy _ task => FileTask.unread task
  | .waiting | .leaving | .gone => []

def opened (pool : Pool p) : List Path := pool.crew.members.flatMap unreadBy

def untaken (pool : Pool p) : List Path := pool.crew.queue ++ pool.crew.sender.getD []

def Waits (pool : Pool p) (path : Path) : Prop := path ∈ pool.opened ∨ path ∈ pool.untaken

/-- What is read by a step from one state to the other, where the stopwords are `listed` in a file. -/
def readBy (listed : Option Path) (a b : Workbench × Pool p) : List Path :=
  a.2.opened.diff b.2.opened ++
    if a.1.tokenizer.stopwords.isBuilt = b.1.tokenizer.stopwords.isBuilt then [] else listed.toList

theorem mem_of_mem_readBy {listed : Option Path} {a b : Workbench × Pool p}
    (mem : path ∈ readBy listed a b) : path ∈ a.2.opened ∨ listed = some path := by
  rcases List.mem_append.mp mem with fetched | loaded
  · exact .inl (List.diff_subset _ _ fetched)
  · split at loaded
    · cases loaded
    · exact .inr (Option.mem_toList.mp loaded)

theorem Valid.opened_subset (valid : pool.Valid set paths) : pool.opened ⊆ paths := by
  intro path mem
  obtain ⟨done, perm, -⟩ := valid.arrived
  refine perm.subset (List.mem_append_right _ (List.mem_append_left _ ?_))
  obtain ⟨m, member, unread⟩ := List.mem_flatMap.mp mem
  refine List.mem_flatMap.mpr ⟨m, member, ?_⟩
  cases m with
  | busy job task =>
    obtain ⟨-, -, inHand⟩ := valid.crew.members _ member
    exact List.mem_singleton.mpr (inHand.mem_unread unread)
  | waiting | leaving | gone => cases unread

theorem waits_start {workers : Nat} {orchestrator : Orchestrator} (mem : path ∈ paths) :
    (start p workers paths orchestrator).Waits path := .inr mem

private theorem untaken_of_crew {event : Event Path Outcome} {crew crew' : Crew (fileCraft p)}
    (step : Crew.Step (fileCraft p) (w, crew) event (w', crew')) (valid : crew.Valid (fileLaw p set))
    (mem : path ∈ crew.queue ++ crew.sender.getD []) :
    path ∈ crew'.members.flatMap unreadBy ∨ path ∈ crew'.queue ++ crew'.sender.getD [] := by
  cases step with
  | send => exact .inr (by simpa using mem)
  | refused unheard => exact absurd (valid.heard (by simp)) unheard
  | close => exact .inr mem
  | member inner =>
    cases inner with
    | take =>
      rcases List.mem_cons.mp mem with rfl | later
      · refine .inl (List.mem_flatMap.mpr ⟨_, List.mem_append_right _ List.mem_cons_self, ?_⟩)
        exact List.mem_singleton_self path
      · exact .inr later
    | work | deliver | crash | stop | leave => exact .inr mem

/-- What waits to be read and is not read by a step goes on to wait. -/
theorem Step.read_or_waits (step : Step p (w, pool) (w', pool')) (valid : pool.Valid set paths)
    (listed : Option Path) (waits : pool.Waits path) :
    path ∈ readBy listed (w, pool) (w', pool') ∨ pool'.Waits path := by
  rcases waits with taken | untaken
  · by_cases still : path ∈ pool'.opened
    · exact .inr (.inl still)
    · exact .inl (List.mem_append_left _ (List.mem_diff_of_mem taken still))
  · cases step with
    | worker inner => exact .inr (untaken_of_crew inner valid.crew untaken)
    | takeResult | takeFailure | timeout | wait | release | drain | drained | close | finish =>
      exact .inr (.inr untaken)

theorem Valid.not_waits (valid : pool.Valid set paths) (past : pool.orchestrator.Released) :
    ¬ pool.Waits path := by
  obtain ⟨dropped, away⟩ := valid.released past
  obtain ⟨m, mem⟩ := List.exists_mem_of_ne_nil _ valid.crew.staffed
  obtain ⟨empty, -⟩ := valid.crew.drained m mem (by rw [away m mem]; trivial)
  rintro (taken | untaken)
  · obtain ⟨m, mem, unread⟩ := List.mem_flatMap.mp taken
    rw [away m mem] at unread
    cases unread
  · rw [Pool.untaken, empty, dropped] at untaken
    cases untaken

end Pool

end CorpusTally
