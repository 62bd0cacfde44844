import CorpusTally.Proofs.Sorting

/-!
Reports that are put together step by step: items are added one by one, whole reports are merged, and what is there
is sorted. The figures are those of the lists after every step, and no step crashes but one that would make the
words too many to be counted.
-/

namespace CorpusTally

namespace Report

/-- What can be made of the empty report with so many files. Whatever is merged into a report is made in the same
way. -/
inductive Built : Nat → Report → Prop
  | empty : Built 0 .empty
  | tally {files r r' result} (before : Built files r) (added : r.addTally result = .ok r') :
      Built (files + 1) r'
  | failed {files r r' failure} (before : Built files r) (added : r.addFailed failure = .ok r') :
      Built (files + 1) r'
  | merge {files more r other r'} (before : Built files r) (others : Built more other)
      (merged : r.merge other = .ok r') : Built (files + more) r'
  | sort {files r} (before : Built files r) : Built files r.sorted

variable {files : Nat} {r : Report} {results others : List FileTally} {failures : List FailedFile}

theorem fits_iff (few : results.length + failures.length < 2 ^ 64) :
    Fits results failures ↔ wordsIn results < 2 ^ 64 :=
  ⟨fun fits => fits.2.1, fun words => ⟨by omega, words, by omega⟩⟩

theorem sorted_ofItems (results : List FileTally) (failures : List FailedFile) :
    (ofItems results failures).sorted = ofItems (ofItems results failures).sorted.results
      (ofItems results failures).sorted.failures :=
  (ofItems_perm (sorted_results_perm _).symm (sorted_failures_perm _).symm).symm

theorem Built.ofItems_fits (built : Built files r) : r = ofItems r.results r.failures ∧
    Fits r.results r.failures ∧ r.results.length + r.failures.length = files := by
  induction built with
  | empty => exact ⟨rfl, by decide, rfl⟩
  | tally _ added ih =>
    obtain ⟨same, fits, rfl⟩ := ih
    rw [same, addTally_ofItems fits] at added
    obtain ⟨next, rfl⟩ := eq_ofItems_of_ok added
    refine ⟨rfl, next, ?_⟩
    simp only [ofItems, List.length_append, List.length_singleton]
    omega
  | failed _ added ih =>
    obtain ⟨same, fits, rfl⟩ := ih
    rw [same, addFailed_ofItems fits] at added
    obtain ⟨next, rfl⟩ := eq_ofItems_of_ok added
    refine ⟨rfl, next, ?_⟩
    simp only [ofItems, List.length_append, List.length_singleton]
    omega
  | merge _ _ merged ih others =>
    obtain ⟨same, fits, rfl⟩ := ih
    obtain ⟨otherSame, othersFit, rfl⟩ := others
    rw [same, otherSame, merge_ofItems fits othersFit] at merged
    obtain ⟨next, rfl⟩ := eq_ofItems_of_ok merged
    refine ⟨rfl, next, ?_⟩
    simp only [ofItems, List.length_append]
    omega
  | @sort files r _ ih =>
    obtain ⟨same, fits, rfl⟩ := ih
    refine ⟨?_, fits.perm r.sorted_results_perm.symm r.sorted_failures_perm.symm, ?_⟩
    · have sorted := sorted_ofItems r.results r.failures
      rwa [← same] at sorted
    · rw [r.sorted_results_perm.length_eq, r.sorted_failures_perm.length_eq]

theorem display_ofItems_append (results others : List FileTally) (failures : List FailedFile) :
    (ofItems (results ++ others) failures).display =
      String.join (results.map FileTally.display) ++ String.join (others.map FileTally.display) := by
  rw [display, ofItems, List.map_append, String.join_append]

theorem Built.exact (built : Built files r) : r.Exact := by
  obtain ⟨same, fits, -⟩ := built.ofItems_fits
  exact same ▸ fits.exact

theorem Built.fileCount_eq (built : Built files r) (few : files < 2 ^ 64) :
    ∃ seen, r.fileCount = .ok seen ∧ seen.toNat = r.results.length + r.failures.length := by
  obtain ⟨-, -, rfl⟩ := built.ofItems_fits
  have seen : r.filesAnalyzed.toNat + r.filesFailed.toNat = r.results.length + r.failures.length := by
    rw [built.exact.analyzed, built.exact.failed]
  have fewSeen : r.filesAnalyzed.toNat + r.filesFailed.toNat < 2 ^ 64 := by rwa [seen]
  exact ⟨r.filesAnalyzed + r.filesFailed, checkedAdd_ok fewSeen, (toNat_add_of_fits fewSeen).trans seen⟩

theorem Built.addTally_eq (built : Built files r) (room : files + 1 < 2 ^ 64) (result : FileTally) :
    r.addTally result =
      if wordsIn (r.results ++ [result]) < 2 ^ 64 then .ok (ofItems (r.results ++ [result]) r.failures)
      else .error .sumTooLarge := by
  obtain ⟨same, fits, rfl⟩ := built.ofItems_fits
  have added := addTally_ofItems fits result
  rw [← same] at added
  rw [added]
  apply if_congr (fits_iff _) rfl rfl
  rw [List.length_append, List.length_singleton]
  omega

theorem Built.addFailed_eq (built : Built files r) (room : files + 1 < 2 ^ 64) (failure : FailedFile) :
    r.addFailed failure = .ok (ofItems r.results (r.failures ++ [failure])) := by
  obtain ⟨same, fits, rfl⟩ := built.ofItems_fits
  have added := addFailed_ofItems fits failure
  rw [← same] at added
  rw [added]
  apply if_pos ((fits_iff _).mpr fits.2.1)
  rw [List.length_append, List.length_singleton]
  omega

theorem Built.merge_eq {more : Nat} {other : Report} (built : Built files r) (otherBuilt : Built more other)
    (room : files + more < 2 ^ 64) : r.merge other =
      if wordsIn (r.results ++ other.results) < 2 ^ 64 then
        .ok (ofItems (r.results ++ other.results) (r.failures ++ other.failures))
      else .error .sumTooLarge := by
  obtain ⟨same, fits, rfl⟩ := built.ofItems_fits
  obtain ⟨otherSame, othersFit, rfl⟩ := otherBuilt.ofItems_fits
  have merged := merge_ofItems fits othersFit
  rw [← same, ← otherSame] at merged
  rw [merged]
  apply if_congr (fits_iff _) rfl rfl
  rw [List.length_append, List.length_append]
  omega

/-- In whatever way a report was put together, its figures are those of its lists. The next step gives the lists
with what is added behind them, the display with them, unless the exact sum of all words would have more than
64 bits: then, and only then, the step crashes. -/
theorem accounted_of_built (built : Built files r) (few : files < 2 ^ 64) :
    (r.Exact ∧ r.results.length + r.failures.length = files ∧
        ∃ seen, r.fileCount = .ok seen ∧ seen.toNat = r.results.length + r.failures.length) ∧
      (∀ result, files + 1 < 2 ^ 64 → r.addTally result =
        if wordsIn (r.results ++ [result]) < 2 ^ 64 then .ok (ofItems (r.results ++ [result]) r.failures)
        else .error .sumTooLarge) ∧
      (∀ failure, files + 1 < 2 ^ 64 → r.addFailed failure = .ok (ofItems r.results (r.failures ++ [failure]))) ∧
      ∀ more other, Built more other → files + more < 2 ^ 64 →
        (r.merge other = if wordsIn (r.results ++ other.results) < 2 ^ 64 then
            .ok (ofItems (r.results ++ other.results) (r.failures ++ other.failures))
          else .error .sumTooLarge) ∧
        ∀ merged, r.merge other = .ok merged → merged.display = r.display ++ other.display := by
  refine ⟨⟨built.exact, built.ofItems_fits.2.2, built.fileCount_eq few⟩, ?_, ?_, ?_⟩
  · intro result room
    exact built.addTally_eq room result
  · intro failure room
    exact built.addFailed_eq room failure
  · intro more other otherBuilt room
    have law := built.merge_eq otherBuilt room
    refine ⟨law, fun whole merged => ?_⟩
    rw [law] at merged
    split at merged
    case isFalse => cases merged
    case isTrue =>
      obtain rfl := Except.ok.inj merged
      exact display_ofItems_append r.results other.results _

def heavyFile : FileTally := ⟨"b", [⟨"x", 0xfffffffffffffffe⟩]⟩

def lightFile : FileTally := ⟨"a", [⟨"x", 1⟩]⟩

/-- Two reports that together just fit: another word is too many, another file without words is not. -/
theorem accounted_at_limit :
    ∃ r, Built 2 r ∧ r.totalWords.toNat = 2 ^ 64 - 1 ∧
      r.addTally ⟨"c", [⟨"z", 1⟩]⟩ = .error .sumTooLarge ∧ ∃ more, r.addTally ⟨"c", []⟩ = .ok more := by
  have first : empty.addTally heavyFile = .ok (ofItems [heavyFile] []) := rfl
  have second : empty.addTally lightFile = .ok (ofItems [lightFile] []) := rfl
  obtain ⟨-, -, -, merges⟩ := accounted_of_built (.tally .empty first) (by decide)
  have merged : (ofItems [heavyFile] []).merge (ofItems [lightFile] []) =
      .ok (ofItems [heavyFile, lightFile] []) :=
    (merges 1 _ (.tally .empty second) (by decide)).1.trans (if_pos (by decide))
  have both : Built 2 (ofItems [heavyFile, lightFile] []) :=
    .merge (.tally .empty first) (.tally .empty second) merged
  obtain ⟨⟨exact, -⟩, adds, -⟩ := accounted_of_built both (by decide)
  refine ⟨_, both, exact.words.trans (by decide), ?_, ofItems [heavyFile, lightFile, ⟨"c", []⟩] [], ?_⟩
  · exact (adds ⟨"c", [⟨"z", 1⟩]⟩ (by decide)).trans (if_neg (by decide))
  · exact (adds ⟨"c", []⟩ (by decide)).trans (if_pos (by decide))

end Report

end CorpusTally
