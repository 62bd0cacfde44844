import CorpusTally.Proofs.Stages.Flow

/-!
A chain of stages with a reader at its end. What the reader gets does not depend on the order in which
the threads take turns, and all of them come to an end, also when the reader goes away early.
-/

namespace CorpusTally

namespace Flow

def chain (stages : List Stage) (items : List String) : Flow :=
  stages.foldl (fun input kind => stage kind input .waiting []) (feed (some items) [])

private theorem rest_foldl (set : StopwordSet) (stages : List Stage) (f : Flow) :
    (stages.foldl (fun input kind => stage kind input .waiting []) f).rest set =
      Stage.applyAll set stages (f.rest set) := by
  induction stages generalizing f with
  | nil => rfl
  | cons kind stages ih =>
    rw [List.foldl_cons, ih]
    rfl

theorem rest_chain (set : StopwordSet) (stages : List Stage) (items : List String) :
    (chain stages items).rest set = Stage.applyAll set stages items :=
  rest_foldl set stages (feed (some items) [])

private theorem intact_foldl (stages : List Stage) {f : Flow} (intact : f.Intact) :
    (stages.foldl (fun input kind => stage kind input .waiting []) f).Intact := by
  induction stages generalizing f with
  | nil => exact intact
  | cons kind stages ih => exact ih ⟨intact, fun idle => by cases idle⟩

theorem intact_chain (stages : List Stage) (items : List String) : (chain stages items).Intact :=
  intact_foldl stages trivial

end Flow

/-- The reader takes items, or has given up its end of the queue, or has met the end of the stream. -/
inductive Consumer where
  | taking
  | hungUp
  | ended
  deriving DecidableEq

structure Network where
  tokenizer : Tokenizer
  flow : Flow
  received : List String := []
  consumer : Consumer := .taking

namespace Network

def start (t : Tokenizer) (stages : List Stage) (items : List String) : Network :=
  { tokenizer := t, flow := .chain stages items }

def heard (n : Network) : Bool := n.consumer = .taking

/-- A reader with a demand goes away when it has as many items; one without reads on to the end. -/
inductive Step (read : ReadFile) (demand : Option Nat) : Network → Network → Prop
  | thread {n t f} (inner : Flow.Step read n.heard (n.tokenizer, n.flow) (t, f)) :
      Step read demand n { n with tokenizer := t, flow := f }
  | receive {n item later} (taking : n.consumer = .taking)
      (wants : demand ≠ some n.received.length) (next : n.flow.queue = item :: later) :
      Step read demand n
        { n with flow := n.flow.withQueue later, received := n.received ++ [item] }
  | endOfStream {n} (taking : n.consumer = .taking) (wants : demand ≠ some n.received.length)
      (drained : n.flow.queue = []) (closed : n.flow.isOpen = false) :
      Step read demand n { n with consumer := .ended }
  | hangUp {n} (taking : n.consumer = .taking) (enough : demand = some n.received.length) :
      Step read demand n { n with consumer := .hungUp }

def answer (demand : Option Nat) (whole : List String) : List String :=
  demand.elim whole whole.take

/-- While the reader takes items, those it has and those on their way are the whole stream. -/
structure Valid (read : ReadFile) (set : StopwordSet) (demand : Option Nat) (whole : List String)
    (n : Network) : Prop where
  serves : n.tokenizer.Serves read set
  taking : n.consumer = .taking →
    n.received ++ n.flow.rest set = whole ∧ ∀ k, demand = some k → n.received.length ≤ k
  hungUp : n.consumer = .hungUp → n.received = answer demand whole ∧ demand ≠ none
  ended : n.consumer = .ended → n.received = whole ∧ answer demand whole = whole

def Over (n : Network) : Prop := n.flow.Finished ∧ n.consumer ≠ .taking

def rank (set : StopwordSet) (n : Network) : Nat :=
  n.flow.rank set + (n.flow.rest set).length + (if n.consumer = .taking then 1 else 0)

section

variable {read : ReadFile} {set : StopwordSet} {demand : Option Nat} {whole : List String}
variable {n next : Network}

theorem Valid.step (valid : n.Valid read set demand whole) (step : Step read demand n next) :
    next.Valid read set demand whole := by
  cases step with
  | thread inner =>
    obtain ⟨serves, -, same⟩ := inner.keeps valid.serves
    refine ⟨serves, fun taking => ?_, valid.hungUp, valid.ended⟩
    obtain ⟨all, bound⟩ := valid.taking taking
    exact ⟨by rw [same (decide_eq_true taking), all], bound⟩
  | receive taking wants head =>
    obtain ⟨all, bound⟩ := valid.taking taking
    refine ⟨valid.serves, fun _ => ⟨?_, fun k demanded => ?_⟩, ?_, ?_⟩
    · rw [← all, Flow.rest_of_queue head, List.append_assoc]
      rfl
    · have atMost := bound k demanded
      have other : k ≠ n.received.length := fun same => wants (same ▸ demanded)
      simp only [List.length_append, List.length_singleton]
      omega
    · simp [taking]
    · simp [taking]
  | endOfStream taking wants drained closed =>
    obtain ⟨all, bound⟩ := valid.taking taking
    have received : n.received = whole := by
      rw [← all, Flow.rest, drained, Flow.behind_of_closed closed]
      simp
    refine ⟨valid.serves, by simp, by simp, fun _ => ⟨received, ?_⟩⟩
    cases demand with
    | none => rfl
    | some k => exact List.take_of_length_le (received ▸ bound k rfl)
  | hangUp taking enough =>
    obtain ⟨all, -⟩ := valid.taking taking
    refine ⟨valid.serves, by simp, fun _ => ⟨?_, by simp [enough]⟩, by simp⟩
    rw [answer, enough, ← all]
    simp

theorem Valid.rank_lt (valid : n.Valid read set demand whole) (step : Step read demand n next) :
    next.rank set < n.rank set := by
  cases step with
  | thread inner =>
    have lower := inner.rank_lt valid.serves
    have fewer := (inner.keeps valid.serves).2.1.length_le
    simp only [rank] at lower fewer ⊢
    omega
  | receive taking _ head => simp [rank, Flow.rest_of_queue head, taking]
  | endOfStream taking => simp [rank, taking]
  | hangUp taking => simp [rank, taking]

theorem exists_step (going : ¬ n.Over) : ∃ next, Step read demand n next := by
  by_cases threads : n.flow.Finished
  · have taking : n.consumer = .taking := Decidable.byContradiction fun done => going ⟨threads, done⟩
    by_cases enough : demand = some n.received.length
    · exact ⟨_, .hangUp taking enough⟩
    · match next : n.flow.queue with
      | [] => exact ⟨_, .endOfStream taking enough next threads.closed⟩
      | item :: later => exact ⟨_, .receive taking enough next⟩
  · obtain ⟨⟨t, f⟩, inner⟩ := Flow.exists_step read n.heard n.tokenizer n.flow threads
    exact ⟨_, .thread inner⟩

theorem Valid.received_of_over (valid : n.Valid read set demand whole) (isOver : n.Over) :
    n.received = answer demand whole ∧ (demand = none → n.consumer = .ended) := by
  match consumer : n.consumer with
  | .taking => exact absurd consumer isOver.2
  | .ended =>
    obtain ⟨received, same⟩ := valid.ended consumer
    exact ⟨by rw [received, same], fun _ => rfl⟩
  | .hungUp =>
    obtain ⟨received, demanded⟩ := valid.hungUp consumer
    exact ⟨received, fun nothing => absurd nothing demanded⟩

theorem Valid.received_prefix (valid : n.Valid read set demand whole) : n.received <+: whole := by
  match consumer : n.consumer with
  | .taking => exact ⟨_, (valid.taking consumer).1⟩
  | .ended => exact (valid.ended consumer).1 ▸ List.prefix_rfl
  | .hungUp =>
    rw [(valid.hungUp consumer).1]
    cases demand with
    | none => exact List.prefix_rfl
    | some k => exact List.take_prefix k whole

end

def settles (read : ReadFile) (set : StopwordSet) (demand : Option Nat) (whole : List String) :
    Settles (Step read demand) (Valid read set demand whole) Over where
  rank := rank set
  keeps := Valid.step
  drops := Valid.rank_lt
  moves := fun _ going => exists_step going

theorem valid_start (read : ReadFile) {t : Tokenizer} (clean : t.buffers.Clean)
    (stages : List Stage) (items : List String) (demand : Option Nat) :
    (start t stages items).Valid read (t.stopwords.view read) demand
      (Stage.applyAll (t.stopwords.view read) stages items) where
  serves := ⟨rfl, clean⟩
  taking := fun _ => ⟨Flow.rest_chain _ stages items, fun _ _ => Nat.zero_le _⟩
  hungUp := by simp [start]
  ended := by simp [start]

/-- Whatever the order of the steps, the reader has a prefix of what the stages make of the items as
lists. Some step can be taken until all is done, and no run goes on for ever; in the end all threads
have ended and the reader has what it demanded. -/
theorem received_of_reaches (read : ReadFile) (t : Tokenizer) (clean : t.buffers.Clean)
    (stages : List Stage) (items : List String) (demand : Option Nat) :
    Ends (Step read demand) (start t stages items) ∧
    ∀ n, Reaches (Step read demand) (start t stages items) n →
      n.received <+: Stage.applyAll (t.stopwords.view read) stages items ∧
      (n.consumer = .ended →
        n.received = Stage.applyAll (t.stopwords.view read) stages items) ∧
      (n.consumer = .hungUp →
        n.received = answer demand (Stage.applyAll (t.stopwords.view read) stages items)) ∧
      ((∃ next, Step read demand n next) ∨
        n.flow.Finished ∧ n.consumer ≠ .taking ∧
        n.received = answer demand (Stage.applyAll (t.stopwords.view read) stages items) ∧
        (demand = none → n.consumer = .ended)) := by
  have valid := valid_start read clean stages items demand
  have law := settles read (t.stopwords.view read) demand
    (Stage.applyAll (t.stopwords.view read) stages items)
  refine ⟨law.ends valid, fun n run => ?_⟩
  have reached := run.keeps law.keeps valid
  refine ⟨reached.received_prefix, fun isOver => (reached.ended isOver).1,
    fun isOver => (reached.hungUp isOver).1, ?_⟩
  by_cases isOver : n.Over
  · exact .inr ⟨isOver.1, isOver.2, reached.received_of_over isOver⟩
  · exact .inl (exists_step isOver)

theorem exists_received_cat :
    ∃ n, Reaches (Step (fun _ => .error .notText) none)
        (start { stopwords := { origin := .words ["the"] } }
          [.lowercase, .strip, .tokenize, .filter] ["The cat."]) n ∧
      n.flow.Finished ∧ n.received = ["cat"] := by
  have clean : ({} : Buffers).Clean := by simp [Buffers.Clean]
  obtain ⟨n, run, valid, isOver⟩ := (settles _ _ none _).reaches_over
    (valid_start (fun _ => .error .notText) clean
      (t := { stopwords := { origin := .words ["the"] } })
      [.lowercase, .strip, .tokenize, .filter] ["The cat."] none)
  have ended := (valid.received_of_over isOver).2 rfl
  have received := ((received_of_reaches _ _ clean _ _ _).2 n run).2.1 ended
  refine ⟨n, run, isOver.1, received.trans ?_⟩
  decide +kernel

end Network

end CorpusTally
