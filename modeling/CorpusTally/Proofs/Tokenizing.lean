import CorpusTally.Proofs.Counting.InTurn

/-!
The ways to the tokens of a text: in one go on the calling thread, by a stream that is read to its end,
or whichever of the two the length of the text asks for. All of them give the same words, and all of them
have the set of stopwords built under the same condition.
-/

namespace CorpusTally

namespace LazyStopwords

theorem isBuilt_force (read : ReadFile) (s : LazyStopwords) : (s.force read).1.isBuilt = true := by
  unfold force
  split
  · next set built => simp [isBuilt, built]
  · rfl

end LazyStopwords

def StageThread.inHand : StageThread → List String
  | .taken item => [item]
  | .waiting | .writing _ | .sending _ | .leaving | .ended => []

namespace Flow

def asks (set : StopwordSet) : Flow → List String
  | feed _ _ => []
  | stage kind input thread _ =>
    input.asks set ++
      if kind = .filter ∧ thread.works then thread.inHand ++ input.rest set else []

variable {read : ReadFile} {set : StopwordSet} {heard : Bool} {f : Flow} {a b : Tokenizer × Flow}

@[simp] theorem asks_withQueue (queue : List String) (f : Flow) :
    (f.withQueue queue).asks set = f.asks set := by
  cases f <;> rfl

theorem Finished.asks_eq (finished : f.Finished) : f.asks set = [] := by
  induction f with
  | feed sender queue => rfl
  | stage kind input thread queue ih =>
    have ended : thread = .ended := finished.2
    rw [asks, ih finished.1, ended]
    simp [StageThread.works]

def WillBuild (set : StopwordSet) (a : Tokenizer × Flow) : Prop :=
  a.1.stopwords.isBuilt = true ∨ a.2.asks set ≠ []

private theorem willBuild_begin {t : Tokenizer} {kind : Stage} {input : Flow} {item : String}
    {queue : List String} :
    WillBuild set ((kind.begin read t item).1, stage kind input (kind.begin read t item).2 queue) ↔
      WillBuild set (t, stage kind input (.taken item) queue) := by
  cases kind with
  | lowercase | strip | tokenize => exact Iff.rfl
  | filter =>
    have built : (Stage.filter.begin read t item).1.stopwords.isBuilt = true :=
      LazyStopwords.isBuilt_force read t.stopwords
    have asked : (stage .filter input (.taken item) queue).asks set ≠ [] := by
      simp [asks, StageThread.works, StageThread.inHand]
    exact ⟨fun _ => .inr asked, fun _ => .inl built⟩

/-- While it is heard, no thread takes away a word that a filter would ask about, and none is added. -/
theorem Step.willBuild (step : Step read heard a b) (whole : heard = true)
    (serves : a.1.Serves read set) (intact : a.2.Intact) : WillBuild set b ↔ WillBuild set a := by
  induction step with
  | put | close => exact Iff.rfl
  | refused | hungUp => simp at whole
  | @receive _ t kind input item later queue next =>
    have same : (stage kind (input.withQueue later) (.taken item) queue).asks set =
        (stage kind input .waiting queue).asks set := by
      simp [asks, StageThread.works, StageThread.inHand, rest_of_queue next]
    rw [WillBuild, WillBuild, same]
  | @endOfInput _ t kind input queue drained closed =>
    have nothing : input.rest set = [] := by
      rw [rest, drained, behind_of_closed closed, List.append_nil]
    have same : (stage kind input .leaving queue).asks set =
        (stage kind input .waiting queue).asks set := by
      simp [asks, StageThread.works, StageThread.inHand, nothing]
    rw [WillBuild, WillBuild, same]
  -- A filter that begins with a word asks about it: the word is no longer awaited, but the set is there.
  | begin => exact willBuild_begin
  | copied | send | again | leave => exact Iff.rfl
  | @upstream _ t t' kind input input' thread queue inner ih =>
    by_cases works : thread.works = true
    · have listens := thread.listens_of_works works
      have before := ih listens serves intact.1
      have kept := (inner.keeps serves).2.2 listens
      unfold WillBuild at before ⊢
      simp only [asks, kept, ne_eq, List.append_eq_nil_iff, not_and_or, ← or_assoc] at before ⊢
      rw [before]
    · -- A thread leaves only at the end of its input, before which nothing moves any more.
      exact absurd inner (Finished.no_step (intact.2 (by simpa using works)))

end Flow

namespace Network

/-- While a stream is read to its end, all that is on its way will come, and the set is built for it in
time. -/
structure Streaming (read : ReadFile) (set : StopwordSet) (whole : List String) (asked : Prop)
    (n : Network) : Prop where
  valid : n.Valid read set none whole
  intact : n.flow.Intact
  willBuild : Flow.WillBuild set (n.tokenizer, n.flow) ↔ asked
  finished : n.consumer = .ended → n.flow.Finished

variable {read : ReadFile} {set : StopwordSet} {whole : List String} {asked : Prop}
variable {n next : Network}

theorem Streaming.ended_of_not_taking (streaming : n.Streaming read set whole asked)
    (idle : n.consumer ≠ .taking) : n.consumer = .ended := by
  match consumer : n.consumer with
  | .taking => exact absurd consumer idle
  | .hungUp => exact absurd rfl (streaming.valid.hungUp consumer).2
  | .ended => rfl

theorem Streaming.step (streaming : n.Streaming read set whole asked) (step : Step read none n next) :
    next.Streaming read set whole asked := by
  have valid := streaming.valid.step step
  cases step with
  | thread inner =>
    by_cases taking : n.consumer = .taking
    · have heard : n.heard = true := decide_eq_true taking
      have built := inner.willBuild heard streaming.valid.serves streaming.intact
      refine ⟨valid, inner.intact heard streaming.intact, built.trans streaming.willBuild, ?_⟩
      intro ended
      simp [taking] at ended
    · have finished := streaming.finished (streaming.ended_of_not_taking taking)
      exact absurd inner finished.no_step
  | receive taking _ head =>
    refine ⟨valid, (Flow.intact_withQueue _ _).mpr streaming.intact, ?_, fun ended => ?_⟩
    · simpa [Flow.WillBuild] using streaming.willBuild
    · simp [taking] at ended
  | endOfStream taking wants drained closed =>
    exact ⟨valid, streaming.intact, streaming.willBuild, fun _ => streaming.intact.finished closed⟩
  | hangUp taking enough => simp at enough

theorem Streaming.at_end (streaming : n.Streaming read set whole asked)
    (ended : n.consumer = .ended) :
    n.received = whole ∧ (n.tokenizer.stopwords.isBuilt = true ↔ asked) := by
  have nothing : n.flow.asks set = [] := (streaming.finished ended).asks_eq
  have built := streaming.willBuild
  simp only [Flow.WillBuild, nothing, ne_eq, not_true_eq_false, or_false] at built
  exact ⟨(streaming.valid.ended ended).1, built⟩

theorem Streaming.progress (streaming : n.Streaming read set whole asked) :
    (∃ next, Step read none n next) ∨ n.consumer = .ended := by
  by_cases isOver : n.Over
  · exact .inr ((streaming.valid.received_of_over isOver).2 rfl)
  · exact .inl (exists_step isOver)

end Network

namespace Tokenizer

variable {read : ReadFile} {set : StopwordSet} {t : Tokenizer}

theorem streaming_start (clean : t.buffers.Clean) (text : String) :
    (Network.start t Stage.all [text]).Streaming read (t.stopwords.view read)
      (keptTokens (t.stopwords.view read) text)
      (t.stopwords.isBuilt = true ∨ tokens text ≠ []) where
  valid := by
    rw [← Stage.applyAll_all]
    exact Network.valid_start read clean Stage.all [text] none
  intact := Flow.intact_chain _ _
  willBuild := by
    have asked : (Flow.chain Stage.all [text]).asks (t.stopwords.view read) =
        (Flow.chain [.lowercase, .strip, .tokenize] [text]).rest (t.stopwords.view read) := by
      simp [Flow.chain, Stage.all, Flow.asks, StageThread.works, StageThread.inHand]
    have words : Stage.applyAll (t.stopwords.view read) [.lowercase, .strip, .tokenize] [text] =
        tokens text := by
      simp [Stage.applyAll, Stage.apply, Stage.step, tokens]
    rw [Flow.WillBuild, Network.start, asked, Flow.rest_chain, words]
  finished := fun ended => by simp [Network.start] at ended

def Streams (read : ReadFile) (t : Tokenizer) (text : String) (words : List String)
    (left : Tokenizer) : Prop :=
  ∃ n, Reaches (Network.Step read none) (.start t Stage.all [text]) n ∧
    n.consumer = .ended ∧ n.received = words ∧ n.tokenizer = left

def Collects (read : ReadFile) (t : Tokenizer) (text : String) (words : List String)
    (left : Tokenizer) : Prop :=
  if isShort text then t.inline read text = (words, left) else t.Streams read text words left

theorem Streams.eq {text : String} {words : List String} {left : Tokenizer}
    (streams : t.Streams read text words left) (clean : t.buffers.Clean) :
    words = keptTokens (t.stopwords.view read) text ∧
      (left.stopwords.isBuilt = true ↔ t.stopwords.isBuilt = true ∨ tokens text ≠ []) := by
  obtain ⟨n, run, ended, rfl, rfl⟩ := streams
  exact (run.keeps Network.Streaming.step (streaming_start clean text)).at_end ended

theorem exists_streams (read : ReadFile) (clean : t.buffers.Clean) (text : String) :
    ∃ words left, t.Streams read text words left := by
  obtain ⟨n, run, valid, isOver⟩ := (Network.settles read (t.stopwords.view read) none
    (Stage.applyAll (t.stopwords.view read) Stage.all [text])).reaches_over
      (Network.valid_start read clean Stage.all [text] none)
  exact ⟨n.received, n.tokenizer, n, run, (valid.received_of_over isOver).2 rfl, rfl, rfl⟩

private theorem filterTokens_isBuilt (read : ReadFile) (t : Tokenizer) (found : List String) :
    (filterTokens read t found).2.stopwords.isBuilt = true ↔
      t.stopwords.isBuilt = true ∨ found ≠ [] := by
  cases found with
  | nil => simp [filterTokens]
  | cons word found => simp [filterTokens, LazyStopwords.isBuilt_force]

theorem inline_isBuilt (read : ReadFile) (clean : t.buffers.Clean) (text : String) :
    (t.inline read text).2.stopwords.isBuilt = true ↔
      t.stopwords.isBuilt = true ∨ tokens text ≠ [] := by
  obtain ⟨first, once⟩ := clean.lend
  obtain ⟨second, -⟩ := once.lend
  simp [inline, filterTokens_isBuilt, first, second, tokens]

theorem streamed_isBuilt (read : ReadFile) (clean : t.buffers.Clean) (text : String) :
    (t.streamed read text).2.stopwords.isBuilt = true ↔
      t.stopwords.isBuilt = true ∨ tokens text ≠ [] := by
  obtain ⟨first, once⟩ := clean.lend
  obtain ⟨second, -⟩ := once.takeBack.lend
  simp [streamed, filterTokens_isBuilt, first, second, tokens]

/-- The tokens that are no stopwords came, in their order, and the set is built exactly if it was before or
there was any token to ask about. -/
def Answers (read : ReadFile) (t : Tokenizer) (text : String) (words : List String)
    (left : Tokenizer) : Prop :=
  words = (tokens text).filter (fun word => !(t.stopwords.view read).contains word) ∧
    (left.stopwords.isBuilt = true ↔ t.stopwords.isBuilt = true ∨ tokens text ≠ [])

/-- Reading the stream of a text, tokenizing it in one go and collecting its words all answer alike, in
whatever order the stages take their turns; and a stream that is read always comes to its end. -/
theorem ways_agree (read : ReadFile) (t : Tokenizer) (clean : t.buffers.Clean) (text : String) :
    (∀ words left, t.Streams read text words left → t.Answers read text words left) ∧
    t.Answers read text (t.inline read text).1 (t.inline read text).2 ∧
    (∀ words left, t.Collects read text words left → t.Answers read text words left) ∧
    t.Answers read text (t.run read text).1 (t.run read text).2 ∧
    (∃ words left, t.Streams read text words left) ∧
    Ends (Network.Step read none) (.start t Stage.all [text]) ∧
    ∀ n, Reaches (Network.Step read none) (.start t Stage.all [text]) n →
      (∃ next, Network.Step read none n next) ∨ n.consumer = .ended := by
  have serves : t.Serves read (t.stopwords.view read) := ⟨rfl, clean⟩
  have streamed : ∀ words left, t.Streams read text words left → t.Answers read text words left := by
    intro words left streams
    exact streams.eq clean
  have inline : t.Answers read text (t.inline read text).1 (t.inline read text).2 :=
    ⟨(inline_eq serves text).1, inline_isBuilt read clean text⟩
  refine ⟨streamed, inline, fun words left collects => ?_, ?_, exists_streams read clean text, ?_, ?_⟩
  · unfold Collects at collects
    split at collects
    · rwa [collects] at inline
    · exact streamed words left collects
  · unfold run
    split
    · exact inline
    · exact ⟨(streamed_eq serves text).1, streamed_isBuilt read clean text⟩
  · exact (Network.settles read (t.stopwords.view read) none _).ends
      (Network.valid_start read clean Stage.all [text] none)
  · intro n reached
    exact (reached.keeps Network.Streaming.step (streaming_start clean text)).progress

/-- A stopword and another word, with the set built, and a text of blanks only, with the set not built. -/
theorem ways_agree_on_cat :
    (∃ words left, ({ stopwords := { origin := .words ["the"] } } : Tokenizer).Streams
        (fun _ => .error .notText) "The cat" words left ∧
      words = ["cat"] ∧ left.stopwords.isBuilt = true) ∧
    ∃ words left, ({ stopwords := { origin := .words ["the"] } } : Tokenizer).Streams
        (fun _ => .error .notText) " - " words left ∧
      words = [] ∧ left.stopwords.isBuilt = false := by
  have clean : ({} : Buffers).Clean := by simp [Buffers.Clean]
  obtain ⟨streamed, -, -, -, ⟨words, left, streams⟩, -⟩ :=
    ways_agree (fun _ => .error .notText) { stopwords := { origin := .words ["the"] } } clean "The cat"
  obtain ⟨streamed', -, -, -, ⟨words', left', streams'⟩, -⟩ :=
    ways_agree (fun _ => .error .notText) { stopwords := { origin := .words ["the"] } } clean " - "
  obtain ⟨same, built⟩ := streamed words left streams
  obtain ⟨same', built'⟩ := streamed' words' left' streams'
  refine ⟨⟨words, left, streams, same.trans ?_, built.mpr (.inr ?_)⟩,
    words', left', streams', same'.trans ?_, ?_⟩
  · decide +kernel
  · decide +kernel
  · decide +kernel
  · have nothing : tokens " - " = [] := by decide +kernel
    simpa [nothing, LazyStopwords.isBuilt] using built'

end Tokenizer

end CorpusTally
