import CorpusTally.Proofs.Counting.ChunkWork

/-!
Counting the chunks of a text one after the other. The merged tally is that of the whole text, for any
number of counters.
-/

namespace CorpusTally

namespace Tokenizer

variable {read : ReadFile} {set : StopwordSet} {t : Tokenizer}

private theorem filterTokens_eq (serves : t.Serves read set) (found : List String) :
    (filterTokens read t found).1 = found.filter (fun word => !set.contains word) ∧
      (filterTokens read t found).2.Serves read set := by
  cases found with
  | nil => exact ⟨rfl, serves⟩
  | cons word found =>
    refine ⟨by rw [filterTokens, serves.answers], ?_, serves.clean⟩
    exact (LazyStopwords.view_force read t.stopwords).trans serves.answers

theorem inline_eq (serves : t.Serves read set) (text : String) :
    (t.inline read text).1 = keptTokens set text ∧ (t.inline read text).2.Serves read set := by
  obtain ⟨first, once⟩ := serves.clean.lend
  obtain ⟨second, twice⟩ := once.lend
  have left : ({ t with buffers := t.buffers.lend.2.lend.2.takeBack.takeBack } : Tokenizer).Serves
      read set := ⟨serves.answers, twice.takeBack.takeBack⟩
  have found := filterTokens_eq left (splitBlanks (stripText (foldText text)))
  simpa [inline, first, second, keptTokens, tokens] using found

theorem streamed_eq (serves : t.Serves read set) (text : String) :
    (t.streamed read text).1 = keptTokens set text ∧ (t.streamed read text).2.Serves read set := by
  obtain ⟨first, once⟩ := serves.clean.lend
  obtain ⟨second, twice⟩ := once.takeBack.lend
  have left : ({ t with buffers := t.buffers.lend.2.takeBack.lend.2.takeBack } : Tokenizer).Serves
      read set := ⟨serves.answers, twice.takeBack⟩
  have found := filterTokens_eq left (splitBlanks (stripText (foldText text)))
  simpa [streamed, first, second, keptTokens, tokens] using found

/-- The words of a text do not depend on its length, and the tokenizer stays fit for the next one. -/
theorem run_eq (serves : t.Serves read set) (text : String) :
    (t.run read text).1 = keptTokens set text ∧ (t.run read text).2.Serves read set := by
  unfold run
  split
  · exact inline_eq serves text
  · exact streamed_eq serves text

end Tokenizer

theorem textTally_counts {set : StopwordSet} {text : String} (fits : Countable set text) :
    (textTally set text).Counts (keptTokens set text) := Tally.tallyOf_counts fits

theorem Chunk.countable {set : StopwordSet} {text : String} (fits : Countable set text)
    {counters : Nat} {chunk : Chunk} (mem : chunk ∈ Chunk.ofText text counters) :
    Countable set chunk.text := by
  have part : (keptTokens set chunk.text).Sublist
      ((Chunk.ofText text counters).flatMap fun chunk => keptTokens set chunk.text) := by
    rw [List.flatMap_def]
    exact List.sublist_flatten_of_mem (List.mem_map_of_mem mem)
  rw [Chunk.flatMap_keptTokens] at part
  exact Nat.lt_of_le_of_lt part.length_le fits

namespace Workbench

variable {read : ReadFile} {set : StopwordSet} {w : Workbench} {text : String}

theorem countWords_eq (serves : w.Serves read set) (fits : Countable set text) :
    w.countWords read text =
      .ok (textTally set text, { w with tokenizer := (w.tokenizer.run read text).2 }) := by
  have words := (Tokenizer.run_eq serves text).1
  simp only [countWords, words, Tally.ofWords_eq fits, Except.map, textTally]

theorem countRecorded_eq (serves : w.Serves read set) (fits : Countable set text) :
    ∃ left, w.countRecorded read text = .ok (textTally set text, left) ∧ left.Serves read set := by
  have after : ({ w with tokenizer := (w.tokenizer.run read text).2 } : Workbench).Serves read set :=
    (Tokenizer.run_eq serves text).2
  have total := (textTally_counts fits).total fits
  generalize (keptTokens set text).length.toUInt64 = tokens at total
  refine ⟨{ w with tokenizer := (w.tokenizer.run read text).2 }.record (.chunk tokens), ?_, after⟩
  simp only [countRecorded, countWords_eq serves fits, bind, Except.bind, total, pure, Except.pure]

private theorem foldlM_mergeChunk (chunks : List Chunk) {merged : Tally} {done : List String}
    (serves : w.Serves read set) (counts : merged.Counts done)
    (fits : (done ++ chunks.flatMap fun chunk => keptTokens set chunk.text).length < 2 ^ 64) :
    ∃ all left, chunks.foldlM (mergeChunk read) (merged, w) = .ok (all, left) ∧
      all.Counts (done ++ chunks.flatMap fun chunk => keptTokens set chunk.text) ∧
      left.Serves read set := by
  induction chunks generalizing w merged done with
  | nil => exact ⟨merged, w, rfl, by simpa using counts, serves⟩
  | cons chunk chunks ih =>
    rw [List.flatMap_cons, ← List.append_assoc] at fits ⊢
    have here : (done ++ keptTokens set chunk.text).length < 2 ^ 64 := by
      rw [List.length_append] at fits
      omega
    rw [List.length_append] at here
    have small : Countable set chunk.text := by
      unfold Countable
      omega
    obtain ⟨next, counted, after⟩ := countRecorded_eq serves small
    obtain ⟨more, added, sum⟩ := counts.merge (textTally_counts small) here
    obtain ⟨all, left, folded, total, last⟩ :=
      ih (w := next.note (mergeEvent chunk (textTally set chunk.text))) after sum fits
    refine ⟨all, left, ?_, total, last⟩
    have first : mergeChunk read (merged, w) chunk =
        .ok (more, next.note (mergeEvent chunk (textTally set chunk.text))) := by
      simp only [mergeChunk, counted, bind, Except.bind, added, pure, Except.pure]
    rw [List.foldlM_cons, first]
    exact folded

theorem count_eq (serves : w.Serves read set) (fits : Countable set text) (counters : Nat) :
    ∃ left, w.count read counters text = .ok (textTally set text, left) ∧
      left.Serves read set := by
  unfold count
  split
  · have noted : (w.note (singleChunkEvent text counters)).Serves read set := serves
    exact countRecorded_eq noted fits
  · have whole := Chunk.flatMap_keptTokens set text counters
    obtain ⟨all, left, folded, counts, after⟩ :=
      foldlM_mergeChunk (Chunk.ofText text counters) serves .of_empty
        (by rwa [List.nil_append, whole])
    rw [List.nil_append, whole] at counts
    refine ⟨left, ?_, after⟩
    rw [countInChunks, folded, counts.unique (textTally_counts fits)]

end Workbench

end CorpusTally
