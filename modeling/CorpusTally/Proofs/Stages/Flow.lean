import CorpusTally.Proofs.Run
import CorpusTally.Tokenizer
import Mathlib.Algebra.Ring.Nat

/-!
Stages as threads that run side by side. Each one takes items from the queue before it and puts what
becomes of them into a queue of its own, until its reader is gone or nothing more will come. While
somebody reads at the end, nothing on the way is lost and the order of the items stays.
-/

namespace CorpusTally

def Buffers.Clean (p : Buffers) : Prop := ∀ buffer ∈ p.idle, buffer = ""

namespace Buffers.Clean

variable {p : Buffers}

theorem lend (clean : p.Clean) : p.lend.1 = "" ∧ p.lend.2.Clean := by
  unfold Buffers.lend
  split
  · next buffer rest idle =>
    refine ⟨clean buffer (by simp [idle]), fun other mem => clean other ?_⟩
    rw [idle]
    exact List.mem_cons_of_mem _ mem
  · exact ⟨rfl, clean⟩

theorem takeBack (clean : p.Clean) : p.takeBack.Clean := by
  unfold Buffers.takeBack
  split
  · intro buffer mem
    rcases List.mem_cons.mp mem with rfl | older
    · rfl
    · exact clean buffer older
  · exact clean

end Buffers.Clean

namespace LazyStopwords

theorem view_force (read : ReadFile) (s : LazyStopwords) : (s.force read).1.view read = s.view read := by
  unfold force
  split
  · rfl
  · next unbuilt => simp [view, unbuilt]

end LazyStopwords

namespace Tokenizer

def lendBuffer (t : Tokenizer) : String × Tokenizer :=
  (t.buffers.lend.1, { t with buffers := t.buffers.lend.2 })

def takeBackBuffer (t : Tokenizer) : Tokenizer := { t with buffers := t.buffers.takeBack }

def query (read : ReadFile) (t : Tokenizer) (word : String) : Bool × Tokenizer :=
  ((t.stopwords.view read).contains word, { t with stopwords := (t.stopwords.force read).1 })

/-- A tokenizer that any number of threads can share: queries are answered from one set, and whoever
borrows a buffer gets an empty one. -/
structure Serves (read : ReadFile) (set : StopwordSet) (t : Tokenizer) : Prop where
  answers : t.stopwords.view read = set
  clean : t.buffers.Clean

namespace Serves

variable {read : ReadFile} {set : StopwordSet} {t : Tokenizer}

theorem lendBuffer (serves : t.Serves read set) :
    t.lendBuffer.1 = "" ∧ t.lendBuffer.2.Serves read set :=
  ⟨serves.clean.lend.1, serves.answers, serves.clean.lend.2⟩

theorem takeBackBuffer (serves : t.Serves read set) : t.takeBackBuffer.Serves read set :=
  ⟨serves.answers, serves.clean.takeBack⟩

theorem query (serves : t.Serves read set) (word : String) :
    (t.query read word).1 = set.contains word ∧ (t.query read word).2.Serves read set := by
  refine ⟨by rw [Tokenizer.query, serves.answers], ?_, serves.clean⟩
  exact (LazyStopwords.view_force read t.stopwords).trans serves.answers

end Serves

end Tokenizer

inductive StageThread where
  | waiting
  | taken (item : String)
  | writing (changed : String)
  | sending (items : List String)
  | leaving
  | ended

def StageThread.listens : StageThread → Bool
  | .ended => false
  | _ => true

def StageThread.works : StageThread → Bool
  | .leaving | .ended => false
  | _ => true

theorem StageThread.listens_of_works (thread : StageThread) (works : thread.works = true) :
    thread.listens = true := by
  cases thread <;> simp [StageThread.works] at works <;> rfl

/-- The first thing a thread does with an item. One that changes the text writes into a buffer, which it
gives back before it sends. -/
def Stage.begin (read : ReadFile) (t : Tokenizer) (item : String) : Stage → Tokenizer × StageThread
  | .lowercase => (t.lendBuffer.2, .writing (t.lendBuffer.1 ++ foldText item))
  | .strip => (t.lendBuffer.2, .writing (t.lendBuffer.1 ++ stripText item))
  | .tokenize => (t, .sending (splitBlanks item))
  | .filter => ((t.query read item).2, .sending (if (t.query read item).1 then [] else [item]))

/-- A queue and all that comes before it. At the far end a sender has items to put in, until it is
dropped. -/
inductive Flow where
  | feed (sender : Option (List String)) (queue : List String)
  | stage (kind : Stage) (input : Flow) (thread : StageThread) (queue : List String)

namespace Flow

def queue : Flow → List String
  | feed _ queue => queue
  | stage _ _ _ queue => queue

def withQueue (queue : List String) : Flow → Flow
  | feed sender _ => feed sender queue
  | stage kind input thread _ => stage kind input thread queue

def isOpen : Flow → Bool
  | feed sender _ => sender.isSome
  | stage _ _ thread _ => thread.listens

def Finished : Flow → Prop
  | feed sender _ => sender = none
  | stage _ input thread _ => input.Finished ∧ thread = .ended

theorem Finished.closed {f : Flow} (finished : f.Finished) : f.isOpen = false := by
  cases f with
  | feed sender queue => exact Option.isSome_eq_false_iff.mpr (Option.isNone_iff_eq_none.mpr finished)
  | stage kind input thread queue =>
    rw [isOpen, finished.2]
    rfl

/-- One step of one thread, where the queue at the end is `heard` by its reader or not. A thread whose
items are not heard any more stops at the first of them; what it leaves unread is lost. -/
inductive Step (read : ReadFile) : Bool → Tokenizer × Flow → Tokenizer × Flow → Prop
  | put {t item unsent queue} :
      Step read true (t, feed (some (item :: unsent)) queue) (t, feed (some unsent) (queue ++ [item]))
  | refused {t item unsent queue} :
      Step read false (t, feed (some (item :: unsent)) queue) (t, feed none queue)
  | close {heard t queue} : Step read heard (t, feed (some []) queue) (t, feed none queue)
  | receive {heard t kind input item later queue} (next : input.queue = item :: later) :
      Step read heard (t, stage kind input .waiting queue)
        (t, stage kind (input.withQueue later) (.taken item) queue)
  | endOfInput {heard t kind input queue} (drained : input.queue = [])
      (closed : input.isOpen = false) :
      Step read heard (t, stage kind input .waiting queue) (t, stage kind input .leaving queue)
  | begin {heard t kind input item queue} :
      Step read heard (t, stage kind input (.taken item) queue)
        ((kind.begin read t item).1, stage kind input (kind.begin read t item).2 queue)
  | copied {heard t kind input changed queue} :
      Step read heard (t, stage kind input (.writing changed) queue)
        (t.takeBackBuffer, stage kind input (.sending [changed]) queue)
  | send {t kind input item more queue} :
      Step read true (t, stage kind input (.sending (item :: more)) queue)
        (t, stage kind input (.sending more) (queue ++ [item]))
  | hungUp {t kind input item more queue} :
      Step read false (t, stage kind input (.sending (item :: more)) queue)
        (t, stage kind input .leaving queue)
  | again {heard t kind input queue} :
      Step read heard (t, stage kind input (.sending []) queue) (t, stage kind input .waiting queue)
  | leave {heard t kind input queue} :
      Step read heard (t, stage kind input .leaving queue) (t, stage kind input .ended queue)
  | upstream {heard t t' kind input input' thread queue}
      (inner : Step read thread.listens (t, input) (t', input')) :
      Step read heard (t, stage kind input thread queue) (t', stage kind input' thread queue)

end Flow

def StageThread.pending (set : StopwordSet) (kind : Stage) : StageThread → List String
  | .taken item => kind.step set item
  | .writing changed => [changed]
  | .sending items => items
  | .waiting | .leaving | .ended => []

namespace Flow

def behind (set : StopwordSet) : Flow → List String
  | feed sender _ => sender.getD []
  | stage kind input thread _ =>
    if thread.works then
      thread.pending set kind ++ kind.apply set (input.queue ++ input.behind set)
    else []

def rest (set : StopwordSet) (f : Flow) : List String := f.queue ++ f.behind set

variable {read : ReadFile} {set : StopwordSet} {heard : Bool} {f : Flow} {a b : Tokenizer × Flow}

@[simp] theorem queue_withQueue (queue : List String) (f : Flow) :
    (f.withQueue queue).queue = queue := by
  cases f <;> rfl

@[simp] theorem behind_withQueue (queue : List String) (f : Flow) :
    (f.withQueue queue).behind set = f.behind set := by
  cases f <;> rfl

theorem rest_of_queue {item : String} {later : List String} (next : f.queue = item :: later) :
    f.rest set = item :: (f.withQueue later).rest set := by
  simp [rest, next]

theorem behind_of_closed (closed : f.isOpen = false) : f.behind set = [] := by
  cases f with
  | feed sender queue =>
    have dropped : sender = none := by simpa [isOpen] using closed
    simp [behind, dropped]
  | stage kind input thread queue =>
    cases thread <;> simp [isOpen, StageThread.listens] at closed
    rfl

end Flow

namespace Stage

variable {read : ReadFile} {set : StopwordSet} {t : Tokenizer}

theorem apply_cons (kind : Stage) (item : String) (items : List String) :
    kind.apply set (item :: items) = kind.step set item ++ kind.apply set items := by
  simp [apply]

theorem begin_pending (kind : Stage) (serves : t.Serves read set) (item : String) :
    (kind.begin read t item).1.Serves read set ∧
      (kind.begin read t item).2.pending set kind = kind.step set item ∧
      (kind.begin read t item).2.works = true := by
  cases kind with
  | lowercase =>
    obtain ⟨empty, left⟩ := serves.lendBuffer
    exact ⟨left, by simp [begin, step, StageThread.pending, empty], rfl⟩
  | strip =>
    obtain ⟨empty, left⟩ := serves.lendBuffer
    exact ⟨left, by simp [begin, step, StageThread.pending, empty], rfl⟩
  | tokenize => exact ⟨serves, rfl, rfl⟩
  | filter =>
    obtain ⟨answer, left⟩ := serves.query item
    exact ⟨left, by simp [begin, step, StageThread.pending, answer], rfl⟩

end Stage

namespace Flow

variable {read : ReadFile} {set : StopwordSet} {heard : Bool} {f : Flow} {a b : Tokenizer × Flow}

private theorem rest_stage {kind : Stage} {input : Flow} {thread : StageThread}
    {queue : List String} (works : thread.works = true) :
    (stage kind input thread queue).rest set =
      queue ++ (thread.pending set kind ++ kind.apply set (input.rest set)) := by
  cases thread <;> first | rfl | simp [StageThread.works] at works

private theorem rest_stage_idle {kind : Stage} {input : Flow} {thread : StageThread}
    {queue : List String} (idle : thread.works = false) :
    (stage kind input thread queue).rest set = queue := by
  simp [rest, behind, idle, Flow.queue]

/-- A step loses nothing that is heard, and never adds anything. -/
theorem Step.keeps (step : Step read heard a b) (serves : a.1.Serves read set) :
    b.1.Serves read set ∧ (b.2.rest set).Sublist (a.2.rest set) ∧
      (heard = true → b.2.rest set = a.2.rest set) := by
  have kept : ∀ {a b : Tokenizer × Flow} {heard : Bool}, b.1.Serves read set →
      b.2.rest set = a.2.rest set →
      b.1.Serves read set ∧ (b.2.rest set).Sublist (a.2.rest set) ∧
        (heard = true → b.2.rest set = a.2.rest set) :=
    fun serves same => ⟨serves, same ▸ .refl _, fun _ => same⟩
  induction step with
  | put => exact kept serves (by simp [rest, queue, behind])
  | refused => exact ⟨serves, by simp [rest, queue, behind], by simp⟩
  | close => exact kept serves rfl
  | receive next =>
    refine kept serves ?_
    rw [rest_stage rfl, rest_stage rfl, rest_of_queue next, Stage.apply_cons]
    rfl
  | endOfInput drained closed =>
    refine kept serves ?_
    rw [rest_stage_idle rfl, rest_stage rfl, rest, drained, behind_of_closed closed]
    simp [StageThread.pending, Stage.apply]
  | @begin _ _ kind _ item =>
    obtain ⟨left, pending, works⟩ := kind.begin_pending serves item
    refine kept left ?_
    rw [rest_stage works, rest_stage rfl, pending]
    rfl
  | copied => exact kept serves.takeBackBuffer rfl
  | send =>
    refine kept serves ?_
    rw [rest_stage rfl, rest_stage rfl]
    simp [StageThread.pending]
  | hungUp =>
    refine ⟨serves, ?_, by simp⟩
    rw [rest_stage_idle rfl, rest_stage rfl]
    exact List.sublist_append_left _ _
  | again => exact kept serves rfl
  | leave => exact kept serves rfl
  | @upstream _ _ _ kind input input' thread queue inner ih =>
    obtain ⟨left, less, same⟩ := ih serves
    by_cases works : thread.works = true
    · have listens := thread.listens_of_works works
      refine kept left ?_
      rw [rest_stage works, rest_stage works, same listens]
    · have idle : thread.works = false := by simpa using works
      exact kept left (by rw [rest_stage_idle idle, rest_stage_idle idle])

end Flow

def StageThread.rank (set : StopwordSet) (kind : Stage) : StageThread → Nat
  | .waiting => 2
  | .taken item => 5 + (kind.step set item).length
  | .writing _ => 5
  | .sending items => 3 + items.length
  | .leaving => 1
  | .ended => 0

def Stage.cost (set : StopwordSet) (kind : Stage) (items : List String) : Nat :=
  (items.map fun item => 4 + (kind.step set item).length).sum

namespace Flow

def rank (set : StopwordSet) : Flow → Nat
  | feed sender _ => sender.elim 0 fun unsent => unsent.length + 1
  | stage kind input thread _ =>
    input.rank set + thread.rank set kind + kind.cost set (input.rest set)

variable {read : ReadFile} {set : StopwordSet} {heard : Bool} {f : Flow} {a b : Tokenizer × Flow}

@[simp] theorem rank_withQueue (queue : List String) (f : Flow) :
    (f.withQueue queue).rank set = f.rank set := by
  cases f <;> rfl

private theorem cost_sublist (kind : Stage) {fewer items : List String}
    (less : fewer.Sublist items) : kind.cost set fewer ≤ kind.cost set items := by
  unfold Stage.cost
  induction less with
  | slnil => exact Nat.le_refl _
  | cons item _ ih =>
    rw [List.map_cons, List.sum_cons]
    omega
  | cons_cons item _ ih =>
    rw [List.map_cons, List.sum_cons, List.map_cons, List.sum_cons]
    omega

private theorem rank_begin (kind : Stage) {t : Tokenizer} (serves : t.Serves read set)
    (item : String) :
    (kind.begin read t item).2.rank set kind < (StageThread.taken item).rank set kind := by
  have pending := (kind.begin_pending serves item).2.1
  cases kind with
  | lowercase => simp [Stage.begin, StageThread.rank, Stage.step]
  | strip => simp [Stage.begin, StageThread.rank, Stage.step]
  | tokenize => simp [Stage.begin, StageThread.rank, Stage.step]
  | filter =>
    simp only [Stage.begin, StageThread.pending] at pending
    simp only [Stage.begin, StageThread.rank, pending]
    omega

theorem Step.rank_lt (step : Step read heard a b) (serves : a.1.Serves read set) :
    b.2.rank set < a.2.rank set := by
  induction step with
  | put => simp [rank]
  | refused => simp [rank]
  | close => simp [rank]
  | receive next =>
    simp only [rank, rank_withQueue, StageThread.rank, rest_of_queue next, Stage.cost,
      List.map_cons, List.sum_cons]
    omega
  | endOfInput => simp [rank, StageThread.rank]
  | @begin _ t kind _ item =>
    have lower := rank_begin (t := t) kind serves item
    simp only [rank]
    omega
  | copied => simp [rank, StageThread.rank]
  | send => simp [rank, StageThread.rank]
  | hungUp =>
    simp only [rank, StageThread.rank]
    omega
  | again => simp [rank, StageThread.rank]
  | leave => simp [rank, StageThread.rank]
  | @upstream _ _ _ kind input input' _ _ inner ih =>
    have lower : input'.rank set < input.rank set := ih serves
    have fewer : kind.cost set (input'.rest set) ≤ kind.cost set (input.rest set) :=
      cost_sublist kind (inner.keeps serves).2.1
    simp only [rank]
    omega

/-- Unless all threads have ended, one of them can go on, whether it is heard or not. -/
theorem exists_step (read : ReadFile) (heard : Bool) (t : Tokenizer) (f : Flow)
    (going : ¬ f.Finished) : ∃ b, Step read heard (t, f) b := by
  induction f generalizing heard with
  | feed sender queue =>
    match sender, heard with
    | none, _ => exact absurd rfl going
    | some [], _ => exact ⟨_, .close⟩
    | some (_ :: _), true => exact ⟨_, .put⟩
    | some (_ :: _), false => exact ⟨_, .refused⟩
  | stage kind input thread queue ih =>
    by_cases above : input.Finished
    · match thread, heard with
      | .waiting, _ =>
        match next : input.queue with
        | [] => exact ⟨_, .endOfInput next above.closed⟩
        | item :: later => exact ⟨_, .receive next⟩
      | .taken _, _ => exact ⟨_, .begin⟩
      | .writing _, _ => exact ⟨_, .copied⟩
      | .sending [], _ => exact ⟨_, .again⟩
      | .sending (_ :: _), true => exact ⟨_, .send⟩
      | .sending (_ :: _), false => exact ⟨_, .hungUp⟩
      | .leaving, _ => exact ⟨_, .leave⟩
      | .ended, _ => exact absurd ⟨above, rfl⟩ going
    · obtain ⟨b, inner⟩ := ih thread.listens above
      exact ⟨_, .upstream inner⟩

theorem Finished.no_step (finished : a.2.Finished) : ¬ Step read heard a b := by
  intro step
  induction step with
  | put | refused | close => simp [Finished] at finished
  | receive | endOfInput | begin | copied | send | hungUp | again | leave =>
    simp [Finished] at finished
  | upstream _ ih => exact ih finished.1

/-- A thread that has stopped while it was heard leaves only ended threads before it. -/
def Intact : Flow → Prop
  | feed _ _ => True
  | stage _ input thread _ => input.Intact ∧ (thread.works = false → input.Finished)

@[simp] theorem intact_withQueue (queue : List String) (f : Flow) :
    (f.withQueue queue).Intact ↔ f.Intact := by
  cases f <;> rfl

theorem Intact.finished (intact : f.Intact) (closed : f.isOpen = false) : f.Finished := by
  cases f with
  | feed sender queue => simpa [isOpen, Finished] using closed
  | stage kind input thread queue =>
    cases thread <;> simp [isOpen, StageThread.listens] at closed
    exact ⟨intact.2 rfl, rfl⟩

theorem Step.intact (step : Step read heard a b) (whole : heard = true) (intact : a.2.Intact) :
    b.2.Intact := by
  induction step with
  | put | close => trivial
  | refused | hungUp => simp at whole
  | receive next => exact ⟨(intact_withQueue _ _).mpr intact.1, fun idle => by cases idle⟩
  | endOfInput drained closed => exact ⟨intact.1, fun _ => intact.1.finished closed⟩
  | @begin _ _ kind => exact ⟨intact.1, fun idle => by cases kind <;> cases idle⟩
  | copied | send | again => exact ⟨intact.1, fun idle => by cases idle⟩
  | leave => exact ⟨intact.1, fun _ => intact.2 rfl⟩
  | @upstream _ _ _ _ _ _ thread _ inner ih =>
    by_cases works : thread.works = true
    · have listens := thread.listens_of_works works
      exact ⟨ih listens intact.1, fun idle => absurd works (by simp [idle])⟩
    · exact absurd inner (Finished.no_step (intact.2 (by simpa using works)))

end Flow

end CorpusTally
