import CorpusTally.Proofs.Tokenizing

/-!
The buffers that a tokenizer uses up. A thread gives its buffer back before it sends what it wrote, so that the
next one never holds a buffer at the same time, as long as a single text is on its way. How many buffers are made
depends therefore on the ways that texts take, and not on the order in which threads take turns.
-/

namespace CorpusTally

namespace Buffers

/-- What there is to say of buffers of which some are held: how many were ever taken, and how many were made. -/
structure Account (p : Buffers) (taken made held : Nat) : Prop where
  clean : p.Clean
  hits : ∃ hits, p.hits = hits.toUInt64 ∧ hits + made = taken
  misses : p.misses = made.toUInt64
  places : p.idle.length + held = made
  few : made ≤ maxIdle

namespace Account

variable {p : Buffers} {taken made held : Nat}

theorem fresh : ({} : Buffers).Account 0 0 0 where
  clean := by simp [Clean]
  hits := ⟨0, rfl, rfl⟩
  misses := rfl
  places := rfl
  few := Nat.zero_le _

theorem lend (account : p.Account taken made held) (room : held < maxIdle) :
    p.lend.2.Account (taken + 1) (max made (held + 1)) (held + 1) := by
  have clean := account.clean.lend.2
  obtain ⟨hits, counted, total⟩ := account.hits
  have places := account.places
  have few := account.few
  unfold Buffers.lend at clean ⊢
  split at clean
  · next buffer rest idle =>
    rw [idle, List.length_cons] at places
    have peak : max made (held + 1) = made := by omega
    rw [peak]
    refine ⟨clean, ⟨hits + 1, ?_, by omega⟩, account.misses, ?_, few⟩
    · rw [counted]
      exact (UInt64.ofNat_add hits 1).symm
    · change rest.length + (held + 1) = made
      omega
  · next idle =>
    rw [idle, List.length_nil] at places
    have peak : max made (held + 1) = made + 1 := by omega
    rw [peak]
    refine ⟨clean, ⟨hits, counted, by omega⟩, ?_, ?_, by omega⟩
    · rw [account.misses]
      exact (UInt64.ofNat_add made 1).symm
    · change p.idle.length + (held + 1) = made + 1
      rw [idle, List.length_nil]
      omega

theorem takeBack (account : p.Account taken made (held + 1)) : p.takeBack.Account taken made held := by
  have clean := account.clean.takeBack
  have places := account.places
  have few := account.few
  have room : p.idle.length < maxIdle := by omega
  rw [Buffers.takeBack, if_pos room] at clean ⊢
  refine ⟨clean, account.hits, account.misses, ?_, few⟩
  rw [List.length_cons]
  omega

theorem toNat_misses (account : p.Account taken made held) : p.misses.toNat = made := by
  have few := account.few
  rw [account.misses]
  apply UInt64.toNat_ofNat_of_lt'
  exact Nat.lt_of_le_of_lt few (by decide)

theorem acquires (account : p.Account taken made held) :
    p.hits + p.misses = taken.toUInt64 ∧
      (taken < 2 ^ 64 → p.hits.toNat + p.misses.toNat = taken) := by
  obtain ⟨hits, counted, total⟩ := account.hits
  constructor
  · rw [counted, account.misses, ← total]
    exact (UInt64.ofNat_add hits made).symm
  · intro fits
    have hitsFit : hits.toUInt64.toNat = hits := by
      apply UInt64.toNat_ofNat_of_lt'
      change hits < 2 ^ 64
      omega
    rw [account.toNat_misses, counted, hitsFit, total]

end Account

end Buffers

def Stage.rewrites : Stage → Bool
  | .lowercase | .strip => true
  | .tokenize | .filter => false

def StageThread.held : StageThread → Nat
  | .writing _ => 1
  | .waiting | .taken _ | .sending _ | .leaving | .ended => 0

namespace Flow

def held : Flow → Nat
  | feed _ _ => 0
  | stage _ input thread _ => input.held + thread.held

def toTake (set : StopwordSet) : Flow → Nat
  | feed _ _ => 0
  | stage kind input thread _ =>
    input.toTake set +
      if kind.rewrites ∧ thread.works then thread.inHand.length + (input.rest set).length else 0

variable {read : ReadFile} {set : StopwordSet} {heard : Bool} {f : Flow} {a b : Tokenizer × Flow}

@[simp] theorem held_withQueue (queue : List String) (f : Flow) : (f.withQueue queue).held = f.held := by
  cases f <;> rfl

@[simp] theorem toTake_withQueue (queue : List String) (f : Flow) :
    (f.withQueue queue).toTake set = f.toTake set := by
  cases f <;> rfl

theorem Finished.held_eq (finished : f.Finished) : f.held = 0 := by
  induction f with
  | feed sender queue => rfl
  | stage kind input thread queue ih =>
    have ended : thread = .ended := finished.2
    rw [held, ih finished.1, ended]
    rfl

theorem Finished.toTake_eq (finished : f.Finished) : f.toTake set = 0 := by
  induction f with
  | feed sender queue => rfl
  | stage kind input thread queue ih =>
    have ended : thread = .ended := finished.2
    rw [toTake, ih finished.1, ended]
    simp [StageThread.works]

/-- What a step does to the buffers. -/
inductive Trade (set : StopwordSet) (a b : Tokenizer × Flow) : Prop
  | none (buffers : b.1.buffers = a.1.buffers) (held : b.2.held = a.2.held)
      (left : b.2.toTake set = a.2.toTake set)
  | borrow (buffers : b.1.buffers = a.1.buffers.lend.2) (held : b.2.held = a.2.held + 1)
      (left : b.2.toTake set + 1 = a.2.toTake set)
  | giveBack (buffers : b.1.buffers = a.1.buffers.takeBack) (held : b.2.held + 1 = a.2.held)
      (left : b.2.toTake set = a.2.toTake set)

private theorem trade_begin {t : Tokenizer} {kind : Stage} {input : Flow} {item : String} {queue : List String} :
    Trade set (t, stage kind input (.taken item) queue)
      ((kind.begin read t item).1, stage kind input (kind.begin read t item).2 queue) := by
  cases kind with
  | lowercase | strip =>
    refine .borrow rfl rfl ?_
    simp only [toTake, Stage.begin, Stage.rewrites, StageThread.works, StageThread.inHand, true_and, if_true,
      List.length_singleton, List.length_nil]
    omega
  | tokenize | filter => exact .none rfl rfl (by simp [toTake, Stage.rewrites])

theorem Step.trade (step : Step read heard a b) (whole : heard = true) (serves : a.1.Serves read set)
    (intact : a.2.Intact) : Trade set a b := by
  induction step with
  | put | close => exact .none rfl rfl rfl
  | refused | hungUp => simp at whole
  | receive next =>
    refine .none rfl ?_ ?_
    · simp [held, StageThread.held]
    · simp only [toTake, toTake_withQueue, StageThread.works, StageThread.inHand, rest_of_queue next,
        List.length_cons, List.length_nil, Nat.add_comm, Nat.zero_add]
  | endOfInput drained closed =>
    refine .none rfl rfl ?_
    simp [toTake, StageThread.works, StageThread.inHand, rest, drained, behind_of_closed closed]
  | begin => exact trade_begin
  | copied => exact .giveBack rfl rfl rfl
  | send | again | leave => exact .none rfl rfl rfl
  | @upstream _ t t' kind input input' thread queue inner ih =>
    by_cases works : thread.works = true
    · have listens := thread.listens_of_works works
      have kept : input'.rest set = input.rest set := (inner.keeps serves).2.2 listens
      cases ih listens serves intact.1 with
      | none buffers same left =>
        simp only at same left
        exact .none buffers (by simp [held, same]) (by simp [toTake, left, kept])
      | borrow buffers more left =>
        simp only at more left
        refine .borrow buffers ?_ ?_
        · simp only [held, more]
          omega
        · simp only [toTake, kept, ← left]
          omega
      | giveBack buffers less left =>
        simp only at less left
        refine .giveBack buffers ?_ ?_
        · simp only [held, ← less]
          omega
        · simp only [toTake, kept, left]
    · -- A thread leaves only at the end of its input, before which nothing moves any more.
      exact absurd inner (Finished.no_step (intact.2 (by simpa using works)))

def Rewrites : Flow → Prop
  | feed _ _ => True
  | stage kind input _ _ => kind.rewrites = true ∧ input.Rewrites

def Ordered : Flow → Prop
  | feed _ _ => True
  | stage kind input thread _ =>
    input.Ordered ∧ (kind.rewrites = true → input.Rewrites) ∧ (kind.rewrites = false → thread.held = 0)

/-- The texts that the stages that write into buffers have still to send, or that wait behind the last of
these stages. -/
def texts (set : StopwordSet) : Flow → Nat
  | feed sender queue => ((feed sender queue).rest set).length
  | stage kind input thread queue =>
    if kind.rewrites then ((stage kind input thread queue).rest set).length else input.texts set

@[simp] theorem rewrites_withQueue (queue : List String) (f : Flow) :
    (f.withQueue queue).Rewrites ↔ f.Rewrites := by
  cases f <;> rfl

@[simp] theorem ordered_withQueue (queue : List String) (f : Flow) :
    (f.withQueue queue).Ordered ↔ f.Ordered := by
  cases f <;> rfl

theorem texts_withQueue_le {item : String} {later : List String} (next : f.queue = item :: later) :
    (f.withQueue later).texts set ≤ f.texts set := by
  have fewer : ((f.withQueue later).rest set).length ≤ (f.rest set).length := by
    rw [rest_of_queue next, List.length_cons]
    exact Nat.le_succ _
  cases f with
  | feed sender queue => exact fewer
  | stage kind input thread queue =>
    change (stage kind input thread later).texts set ≤ (stage kind input thread queue).texts set
    unfold texts
    split
    · exact fewer
    · exact Nat.le_refl _

theorem Step.rewrites (step : Step read heard a b) (before : a.2.Rewrites) : b.2.Rewrites := by
  induction step with
  | put | refused | close => trivial
  | receive => exact ⟨before.1, (rewrites_withQueue _ _).mpr before.2⟩
  | endOfInput | begin | copied | send | hungUp | again | leave => exact before
  | upstream _ ih => exact ⟨before.1, ih before.2⟩

theorem Step.ordered (step : Step read heard a b) (before : a.2.Ordered) : b.2.Ordered := by
  induction step with
  | put | refused | close => trivial
  | receive =>
    refine ⟨(ordered_withQueue _ _).mpr before.1, ?_, fun _ => rfl⟩
    exact fun rewrites => (rewrites_withQueue _ _).mpr (before.2.1 rewrites)
  | @begin _ _ kind =>
    refine ⟨before.1, before.2.1, fun other => ?_⟩
    cases kind with
    | lowercase | strip => simp [Stage.rewrites] at other
    | tokenize | filter => rfl
  | endOfInput | copied | send | hungUp | again | leave => exact ⟨before.1, before.2.1, fun _ => rfl⟩
  | upstream inner ih => exact ⟨ih before.1, fun rewrites => inner.rewrites (before.2.1 rewrites), before.2.2⟩

theorem Step.texts_le (step : Step read heard a b) (serves : a.1.Serves read set) :
    b.2.texts set ≤ a.2.texts set := by
  have fewer := (step.keeps serves).2.1.length_le
  induction step with
  | put | refused | close => exact fewer
  | receive next =>
    unfold texts
    split
    · exact fewer
    · exact texts_withQueue_le next
  | endOfInput | begin | copied | send | hungUp | again | leave =>
    unfold texts
    split
    · exact fewer
    · exact Nat.le_refl _
  | upstream inner ih =>
    unfold texts
    split
    · exact fewer
    · exact ih serves (inner.keeps serves).2.1.length_le

private theorem length_apply {kind : Stage} (rewrites : kind.rewrites = true) (items : List String) :
    (kind.apply set items).length = items.length := by
  have one (item : String) : (kind.step set item).length = 1 := by
    cases kind with
    | lowercase | strip => rfl
    | tokenize | filter => simp [Stage.rewrites] at rewrites
  induction items with
  | nil => rfl
  | cons item items ih => rw [Stage.apply_cons, List.length_append, one, ih, List.length_cons, Nat.add_comm]

/-- While a thread holds a buffer, the text in it is still on its way. -/
theorem Rewrites.held_le (rewrites : f.Rewrites) (intact : f.Intact) : f.held ≤ (f.rest set).length := by
  induction f with
  | feed sender queue => exact Nat.zero_le _
  | stage kind input thread queue ih =>
    have before := ih rewrites.2 intact.1
    by_cases works : thread.works = true
    · have own : thread.held ≤ (thread.pending set kind).length := by
        cases thread with
        | writing changed => exact Nat.le_refl _
        | waiting | taken | sending | leaving | ended => exact Nat.zero_le _
      have whole : ((stage kind input thread queue).rest set).length =
          queue.length + ((thread.pending set kind).length + (input.rest set).length) := by
        simp only [rest, Flow.queue, behind, works, if_true, List.length_append, length_apply rewrites.1]
      rw [held, whole]
      omega
    · have idle : thread.held = 0 := by
        cases thread with
        | writing changed => simp [StageThread.works] at works
        | waiting | taken | sending | leaving | ended => rfl
      rw [held, (intact.2 (by simpa using works)).held_eq, idle]
      exact Nat.zero_le _

theorem Ordered.held_le (ordered : f.Ordered) (intact : f.Intact) : f.held ≤ f.texts set := by
  induction f with
  | feed sender queue => exact Nat.zero_le _
  | stage kind input thread queue ih =>
    unfold texts
    split
    · next rewrites => exact Rewrites.held_le ⟨rewrites, ordered.2.1 rewrites⟩ intact
    · next other =>
      rw [held, ordered.2.2 (by simpa using other)]
      exact ih ordered.1 intact.1

end Flow

namespace Network

variable {read : ReadFile} {set : StopwordSet} {whole : List String} {asked : Prop}
variable {taken made : Nat} {n next : Network}

theorem Streaming.heard_of_step (streaming : n.Streaming read set whole asked) {b : Tokenizer × Flow}
    (inner : Flow.Step read n.heard (n.tokenizer, n.flow) b) : n.heard = true := by
  apply Decidable.byContradiction
  intro unheard
  have idle : n.consumer ≠ .taking := fun taking => unheard (decide_eq_true taking)
  have finished := streaming.finished (streaming.ended_of_not_taking idle)
  exact finished.no_step inner

/-- The stream of a single text. It takes two buffers from the tokenizer, and if any had to be made for it, then
one. -/
structure Borrowing (set : StopwordSet) (taken made : Nat) (n : Network) : Prop where
  ordered : n.flow.Ordered
  single : n.flow.texts set ≤ 1
  account : ∃ own, own + n.flow.toTake set = 2 ∧
    n.tokenizer.buffers.Account (taken + own) (if own = 0 then made else max made 1) n.flow.held

theorem Borrowing.held_le (borrowing : n.Borrowing set taken made) (streaming : n.Streaming read set whole asked) :
    n.flow.held ≤ 1 :=
  (borrowing.ordered.held_le streaming.intact).trans borrowing.single

theorem Borrowing.step (borrowing : n.Borrowing set taken made)
    (streaming : n.Streaming read set whole asked) (step : Step read none n next) :
    next.Borrowing set taken made := by
  obtain ⟨own, total, account⟩ := borrowing.account
  have later := streaming.step step
  cases step with
  | @thread t f inner =>
    have heard := streaming.heard_of_step inner
    have ordered : f.Ordered := inner.ordered borrowing.ordered
    have single : f.texts set ≤ 1 := (inner.texts_le streaming.valid.serves).trans borrowing.single
    have bound : f.held ≤ 1 := (ordered.held_le later.intact).trans single
    refine ⟨ordered, single, ?_⟩
    cases inner.trade heard streaming.valid.serves streaming.intact with
    | none buffers same left =>
      exact ⟨own, by rw [left, total], by rwa [buffers, same]⟩
    | borrow buffers more left =>
      have more : f.held = n.flow.held + 1 := more
      have left : f.toTake set + 1 = n.flow.toTake set := left
      -- No other buffer is held then, so that one is enough.
      have free : n.flow.held = 0 := by omega
      have lent := account.lend (by rw [free]; decide)
      have total : own + 1 + f.toTake set = 2 := by omega
      refine ⟨own + 1, total, ?_⟩
      have peak : max (if own = 0 then made else max made 1) (n.flow.held + 1) = max made 1 := by
        split <;> omega
      rw [peak] at lent
      rw [if_neg (Nat.succ_ne_zero own), buffers, more]
      exact lent
    | giveBack buffers less left =>
      refine ⟨own, by rw [left, total], ?_⟩
      rw [← less] at account
      rw [buffers]
      exact account.takeBack
  | receive taking wants head =>
    refine ⟨(Flow.ordered_withQueue _ _).mpr borrowing.ordered,
      (Flow.texts_withQueue_le head).trans borrowing.single, own, ?_, ?_⟩
    · rwa [Flow.toTake_withQueue]
    · rwa [Flow.held_withQueue]
  | endOfStream => exact ⟨borrowing.ordered, borrowing.single, own, total, account⟩
  | hangUp taking enough => simp at enough

end Network

namespace Tokenizer

variable {read : ReadFile} {t left : Tokenizer} {text : String} {words : List String} {taken made : Nat}

theorem borrowing_start (set : StopwordSet) (account : t.buffers.Account taken made 0) (text : String) :
    (Network.start t Stage.all [text]).Borrowing set taken made where
  ordered := by simp [Network.start, Flow.chain, Stage.all, Flow.Ordered, Flow.Rewrites, Stage.rewrites,
    StageThread.held]
  single := by simp [Network.start, Flow.chain, Stage.all, Flow.texts, Stage.rewrites, Flow.rest, Flow.behind,
    Flow.queue, StageThread.works, StageThread.pending, Stage.apply, Stage.step]
  account := by
    refine ⟨0, ?_, account⟩
    simp [Network.start, Flow.chain, Stage.all, Flow.toTake, Stage.rewrites, Flow.rest, Flow.behind,
      Flow.queue, StageThread.works, StageThread.inHand, StageThread.pending, Stage.apply, Stage.step]

theorem borrowing_of_reaches (account : t.buffers.Account taken made 0) {n : Network}
    (run : Reaches (Network.Step read none) (.start t Stage.all [text]) n) :
    n.Streaming read (t.stopwords.view read) (keptTokens (t.stopwords.view read) text)
        (t.stopwords.isBuilt = true ∨ tokens text ≠ []) ∧
      n.Borrowing (t.stopwords.view read) taken made := by
  induction run with
  | refl => exact ⟨streaming_start account.clean text, borrowing_start _ account text⟩
  | tail _ last ih => exact ⟨ih.1.step last, ih.2.step ih.1 last⟩

/-- A moment of a stream: whatever was made is idle, but for one buffer at most. -/
theorem held_of_reaches (account : t.buffers.Account taken made 0) {n : Network}
    (run : Reaches (Network.Step read none) (.start t Stage.all [text]) n) :
    n.flow.held ≤ 1 ∧ n.tokenizer.buffers.misses.toNat = n.tokenizer.buffers.idle.length + n.flow.held := by
  obtain ⟨streaming, borrowing⟩ := borrowing_of_reaches account run
  obtain ⟨own, -, sum⟩ := borrowing.account
  exact ⟨borrowing.held_le streaming, sum.toNat_misses.trans sum.places.symm⟩

theorem Streams.account (streams : t.Streams read text words left) (account : t.buffers.Account taken made 0) :
    left.buffers.Account (taken + 2) (max made 1) 0 := by
  obtain ⟨n, run, ended, -, rfl⟩ := streams
  obtain ⟨streaming, borrowing⟩ := borrowing_of_reaches account run
  have finished := streaming.finished ended
  obtain ⟨own, total, sum⟩ := borrowing.account
  rw [finished.toTake_eq, Nat.add_zero] at total
  rw [finished.held_eq, total] at sum
  exact sum

private theorem filterTokens_buffers (read : ReadFile) (t : Tokenizer) (found : List String) :
    (filterTokens read t found).2.buffers = t.buffers := by
  cases found <;> rfl

theorem account_inline (read : ReadFile) (account : t.buffers.Account taken made 0) (text : String) :
    (t.inline read text).2.buffers.Account (taken + 2) (max made 2) 0 := by
  have first := account.lend (by decide)
  have second := first.lend (by decide)
  have peak : max (max made (0 + 1)) (0 + 1 + 1) = max made 2 := by omega
  rw [peak] at second
  rw [inline, filterTokens_buffers]
  exact second.takeBack.takeBack

inductive Way where
  | inline
  | stream
  | collect

namespace Way

def Takes (read : ReadFile) (t : Tokenizer) (text : String) (left : Tokenizer) : Way → Prop
  | inline => (t.inline read text).2 = left
  | stream => ∃ words, t.Streams read text words left
  | collect => ∃ words, t.Collects read text words left

def isInline (text : String) : Way → Bool
  | inline => true
  | stream => false
  | collect => isShort text

end Way

/-- What can become of a tokenizer that takes texts in turn, each on its way, and a stream to its end. -/
inductive TakesAll (read : ReadFile) : Tokenizer → List (Way × String) → Tokenizer → Prop
  | nil {t : Tokenizer} : TakesAll read t [] t
  | cons {t next left : Tokenizer} {way text later} (first : way.Takes read t text next)
      (others : TakesAll read next later left) : TakesAll read t ((way, text) :: later) left

def buffersFor (tasks : List (Way × String)) : Nat :=
  if tasks.any fun task => task.1.isInline task.2 then 2
  else if tasks.any fun task => !task.1.isInline task.2 then 1
  else 0

theorem buffersFor_cons (way : Way) (text : String) (later : List (Way × String)) :
    buffersFor ((way, text) :: later) = max (if way.isInline text then 2 else 1) (buffersFor later) := by
  unfold buffersFor
  by_cases inline : way.isInline text = true
  · simp only [List.any_cons, inline, Bool.true_or, if_true]
    split
    · rfl
    · split <;> rfl
  · simp only [List.any_cons, inline, Bool.false_or, Bool.not_false, Bool.true_or, if_true, Bool.false_eq_true,
      if_false]
    split
    · rfl
    · split <;> rfl

theorem Way.Takes.account {way : Way} (takes : way.Takes read t text left)
    (account : t.buffers.Account taken made 0) :
    left.buffers.Account (taken + 2) (max made (if way.isInline text then 2 else 1)) 0 := by
  cases way with
  | inline =>
    have same : (t.inline read text).2 = left := takes
    exact same ▸ account_inline read account text
  | stream =>
    obtain ⟨words, streams⟩ := takes
    exact streams.account account
  | collect =>
    obtain ⟨words, collects⟩ := takes
    unfold Collects at collects
    unfold Way.isInline
    split at collects
    · next short =>
      have same : (t.inline read text).2 = left := congrArg Prod.snd collects
      rw [if_pos short]
      exact same ▸ account_inline read account text
    · next long =>
      rw [if_neg long]
      exact collects.account account

theorem Way.exists_takes (read : ReadFile) (clean : t.buffers.Clean) (way : Way) (text : String) :
    ∃ left, way.Takes read t text left := by
  obtain ⟨words, left, streams⟩ := exists_streams read clean text
  cases way with
  | inline => exact ⟨_, rfl⟩
  | stream => exact ⟨left, words, streams⟩
  | collect =>
    by_cases short : isShort text = true
    · exact ⟨(t.inline read text).2, (t.inline read text).1, by rw [Collects, if_pos short]⟩
    · exact ⟨left, words, by rwa [Collects, if_neg short]⟩

theorem TakesAll.account {tasks : List (Way × String)} (all : TakesAll read t tasks left)
    (account : t.buffers.Account taken made 0) :
    left.buffers.Account (taken + 2 * tasks.length) (max made (buffersFor tasks)) 0 := by
  induction all generalizing taken made with
  | nil => simpa [buffersFor] using account
  | @cons t next left way text later first others ih =>
    have sum := ih (first.account account)
    have count : taken + 2 + 2 * later.length = taken + 2 * (later.length + 1) := by omega
    rw [count, Nat.max_assoc, ← buffersFor_cons] at sum
    exact sum

theorem exists_takesAll (read : ReadFile) (account : t.buffers.Account taken made 0)
    (tasks : List (Way × String)) : ∃ left, TakesAll read t tasks left := by
  induction tasks generalizing t taken made with
  | nil => exact ⟨t, .nil⟩
  | cons task later ih =>
    obtain ⟨next, first⟩ := task.1.exists_takes read account.clean task.2
    obtain ⟨left, others⟩ := ih (first.account account)
    exact ⟨left, .cons first others⟩

/-- Texts that a tokenizer takes in turn, with no buffers to begin with, cost two acquires each. As many buffers are
made as lie idle afterwards: two if any text was done in one go, one if any was streamed and none in one go. At no
moment of a stream is more than one held. -/
theorem buffers_of_takesAll (read : ReadFile) (stopwords : LazyStopwords) (tasks : List (Way × String)) :
    (∃ left, TakesAll read { stopwords } tasks left) ∧
    ∀ left, TakesAll read { stopwords } tasks left →
      left.buffers.hits + left.buffers.misses = (2 * tasks.length).toUInt64 ∧
      (2 * tasks.length < 2 ^ 64 → left.buffers.hits.toNat + left.buffers.misses.toNat = 2 * tasks.length) ∧
      left.buffers.misses.toNat = left.buffers.idle.length ∧
      left.buffers.idle.length = buffersFor tasks ∧
      ∀ text n, Reaches (Network.Step read none) (.start left Stage.all [text]) n →
        n.flow.held ≤ 1 ∧
        n.tokenizer.buffers.misses.toNat = n.tokenizer.buffers.idle.length + n.flow.held := by
  have fresh : ({ stopwords } : Tokenizer).buffers.Account 0 0 0 := .fresh
  refine ⟨exists_takesAll read fresh tasks, ?_⟩
  intro left all
  have account := all.account fresh
  rw [Nat.zero_add, Nat.zero_max] at account
  obtain ⟨wrapped, exact⟩ := account.acquires
  have idle : left.buffers.idle.length = buffersFor tasks := account.places
  refine ⟨wrapped, exact, account.toNat_misses.trans idle.symm, idle, ?_⟩
  intro text n run
  exact held_of_reaches account run

/-- Two streams share one buffer, and a text that is done in one go between them adds another. -/
theorem buffers_of_cats : ∃ left,
    TakesAll (fun _ => .error .notText) { stopwords := { origin := .words ["the"] } }
      [(.stream, "The cat"), (.inline, "sat"), (.stream, "on the mat")] left ∧
    left.buffers.hits.toNat = 4 ∧ left.buffers.misses.toNat = 2 ∧ left.buffers.idle.length = 2 := by
  obtain ⟨⟨left, all⟩, law⟩ := buffers_of_takesAll (fun _ => .error .notText) { origin := .words ["the"] }
    [(.stream, "The cat"), (.inline, "sat"), (.stream, "on the mat")]
  obtain ⟨-, acquires, made, idle, -⟩ := law left all
  have acquires := acquires (by decide)
  have two : left.buffers.idle.length = 2 := idle
  refine ⟨left, all, ?_, made.trans two, two⟩
  rw [made, two] at acquires
  exact Nat.add_right_cancel acquires

end Tokenizer

end CorpusTally
