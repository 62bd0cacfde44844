import CorpusTally.Proofs.Counting.Tally
import CorpusTally.Workers
import Mathlib.Algebra.BigOperators.Group.List.Basic

/-!
A report that is gathered from results and failures. Its numbers are those of the lists, and it fails
only when one of them has more than 64 bits; so the order in which the items come decides nothing but the
order of the lists.
-/

namespace CorpusTally

theorem WordCount.sort_perm (words : List WordCount) : (sort words).Perm words := List.mergeSort_perm _ _

namespace FileTally

theorem counts_ofCounts (path : Path) (m : Tally) :
    ((ofCounts path m).words.map (·.count)).Perm (m.entries.map (·.2)) := by
  have perm := (WordCount.sort_perm m.toWordCounts).map (·.count)
  have counts : m.toWordCounts.map (·.count) = m.entries.map (·.2) := by
    rw [Tally.toWordCounts, List.map_map]
    rfl
  rwa [counts] at perm

theorem sumOf_ofCounts (path : Path) (m : Tally) :
    sumOf ((ofCounts path m).words.map (·.count)) = m.mass := sumOf_eq_of_perm (counts_ofCounts path m)

end FileTally

def wordsIn (results : List FileTally) : Nat :=
  (results.map fun result => sumOf (result.words.map (·.count))).sum

theorem wordsIn_perm {results others : List FileTally} (perm : results.Perm others) :
    wordsIn results = wordsIn others := (perm.map _).sum_eq

theorem toNat_toUInt64 {n : Nat} (fits : n < 2 ^ 64) : n.toUInt64.toNat = n :=
  UInt64.toNat_ofNat_of_lt' fits

private theorem checkedAdd_toUInt64 {a b : Nat} (fitsA : a < 2 ^ 64) (fitsB : b < 2 ^ 64) :
    checkedAdd a.toUInt64 b.toUInt64 =
      if a + b < 2 ^ 64 then .ok (a + b).toUInt64 else .error .sumTooLarge := by
  unfold checkedAdd
  rw [toNat_toUInt64 fitsA, toNat_toUInt64 fitsB]
  simp [Nat.toUInt64]

namespace Report

/-- Numbers of 64 bits suffice for a report of these items. -/
def Fits (results : List FileTally) (failures : List FailedFile) : Prop :=
  results.length < 2 ^ 64 ∧ wordsIn results < 2 ^ 64 ∧ failures.length < 2 ^ 64

instance (results : List FileTally) (failures : List FailedFile) :
    Decidable (Fits results failures) := inferInstanceAs (Decidable (_ ∧ _))

def ofItems (results : List FileTally) (failures : List FailedFile) : Report where
  results := results
  failures := failures
  filesAnalyzed := results.length.toUInt64
  filesFailed := failures.length.toUInt64
  totalWords := (wordsIn results).toUInt64

section Perm

variable {results others : List FileTally} {failures otherFailures : List FailedFile}

theorem Fits.perm (fits : Fits results failures) (same : results.Perm others)
    (sameFailures : failures.Perm otherFailures) : Fits others otherFailures := by
  obtain ⟨files, words, failed⟩ := fits
  rw [same.length_eq] at files
  rw [wordsIn_perm same] at words
  rw [sameFailures.length_eq] at failed
  exact ⟨files, words, failed⟩

theorem ofItems_perm (same : results.Perm others) (sameFailures : failures.Perm otherFailures) :
    ofItems others otherFailures =
      { ofItems results failures with results := others, failures := otherFailures } := by
  simp only [ofItems, same.length_eq, sameFailures.length_eq, wordsIn_perm same]

end Perm

theorem eq_ofItems_of_ok {results : List FileTally} {failures : List FailedFile} {e : Crash} {r : Report}
    (counted : (if Fits results failures then .ok (ofItems results failures) else .error e) =
      (.ok r : Except Crash Report)) : Fits results failures ∧ r = ofItems results failures := by
  split at counted
  case isTrue fits => exact ⟨fits, (Except.ok.inj counted).symm⟩
  case isFalse => cases counted

theorem addTally_ofItems {done : List FileTally} {failures : List FailedFile}
    (fits : Fits done failures) (result : FileTally) :
    (ofItems done failures).addTally result =
      if Fits (done ++ [result]) failures then .ok (ofItems (done ++ [result]) failures)
      else .error .sumTooLarge := by
  obtain ⟨files, words, failed⟩ := fits
  have sum : wordsIn (done ++ [result]) = wordsIn done + sumOf (result.words.map (·.count)) := by
    simp [wordsIn]
  have count : (done ++ [result]).length = done.length + 1 := by simp
  have one : checkedAdd done.length.toUInt64 1 = _ :=
    checkedAdd_toUInt64 files (show 1 < 2 ^ 64 by decide)
  simp only [addTally, FileTally.total, checkedSum_eq, ofItems, one, bind, Except.bind]
  by_cases larger : done.length + 1 < 2 ^ 64
  · by_cases own : sumOf (result.words.map (·.count)) < 2 ^ 64
    · simp only [larger, own, if_true, checkedAdd_toUInt64 words own]
      by_cases all : wordsIn done + sumOf (result.words.map (·.count)) < 2 ^ 64
      · have next : Fits (done ++ [result]) failures := ⟨by omega, by omega, failed⟩
        simp only [all, next, if_true, pure, Except.pure, sum, count]
      · have next : ¬ Fits (done ++ [result]) failures := fun next => all (sum ▸ next.2.1)
        simp only [all, next, if_false]
    · have next : ¬ Fits (done ++ [result]) failures := fun next => by
        have bound := next.2.1
        omega
      simp only [larger, own, next, if_true, if_false]
  · have next : ¬ Fits (done ++ [result]) failures := fun next => larger (count ▸ next.1)
    simp only [larger, next, if_false]

theorem addFailed_ofItems {results : List FileTally} {done : List FailedFile}
    (fits : Fits results done) (failure : FailedFile) :
    (ofItems results done).addFailed failure =
      if Fits results (done ++ [failure]) then .ok (ofItems results (done ++ [failure]))
      else .error .sumTooLarge := by
  have one : checkedAdd done.length.toUInt64 1 = _ :=
    checkedAdd_toUInt64 fits.2.2 (show 1 < 2 ^ 64 by decide)
  have count : (done ++ [failure]).length = done.length + 1 := by simp
  simp only [addFailed, ofItems, one, bind, Except.bind]
  by_cases larger : done.length + 1 < 2 ^ 64
  · have next : Fits results (done ++ [failure]) := ⟨fits.1, fits.2.1, count ▸ larger⟩
    simp only [larger, next, if_true, pure, Except.pure, count]
  · have next : ¬ Fits results (done ++ [failure]) := fun next => larger (count ▸ next.2.2)
    simp only [larger, next, if_false]

theorem merge_ofItems {results others : List FileTally} {failures otherFailures : List FailedFile}
    (fits : Fits results failures) (othersFit : Fits others otherFailures) :
    (ofItems results failures).merge (ofItems others otherFailures) =
      if Fits (results ++ others) (failures ++ otherFailures) then
        .ok (ofItems (results ++ others) (failures ++ otherFailures))
      else .error .sumTooLarge := by
  have sum : wordsIn (results ++ others) = wordsIn results + wordsIn others := by simp [wordsIn]
  simp only [merge, ofItems, Fits, sum, List.length_append, bind, Except.bind,
    checkedAdd_toUInt64 fits.1 othersFit.1, checkedAdd_toUInt64 fits.2.2 othersFit.2.2,
    checkedAdd_toUInt64 fits.2.1 othersFit.2.1]
  by_cases files : results.length + others.length < 2 ^ 64
  · by_cases failed : failures.length + otherFailures.length < 2 ^ 64
    · by_cases words : wordsIn results + wordsIn others < 2 ^ 64
      · simp only [files, failed, words, and_self, if_true, pure, Except.pure]
      · simp only [files, failed, words, false_and, and_false, if_true, if_false]
    · simp only [files, failed, and_false, if_true, if_false]
  · simp only [files, false_and, if_false]

private theorem foldlM_addTally {done : List FileTally} (fits : Fits done [])
    (results : List FileTally) :
    results.foldlM addTally (ofItems done []) =
      if Fits (done ++ results) [] then .ok (ofItems (done ++ results) [])
      else .error .sumTooLarge := by
  induction results generalizing done with
  | nil =>
    rw [List.append_nil, if_pos fits]
    rfl
  | cons result results ih =>
    rw [List.foldlM_cons, addTally_ofItems fits]
    by_cases next : Fits (done ++ [result]) []
    · rw [if_pos next]
      change results.foldlM addTally _ = _
      rw [ih next, List.append_assoc]
      rfl
    · have never : ¬ Fits (done ++ result :: results) [] := fun whole => next (by
        obtain ⟨files, words, -⟩ := whole
        refine ⟨?_, ?_, by decide⟩
        · simp only [List.length_append, List.length_cons, List.length_nil] at files ⊢
          omega
        · simp only [wordsIn, List.map_append, List.map_cons, List.sum_append, List.sum_cons,
            List.map_nil, List.sum_nil] at words ⊢
          omega)
      rw [if_neg next, if_neg never]
      rfl

private theorem foldlM_addFailed {results : List FileTally} {done : List FailedFile}
    (fits : Fits results done) (failures : List FailedFile) :
    failures.foldlM addFailed (ofItems results done) =
      if Fits results (done ++ failures) then .ok (ofItems results (done ++ failures))
      else .error .sumTooLarge := by
  induction failures generalizing done with
  | nil =>
    rw [List.append_nil, if_pos fits]
    rfl
  | cons failure failures ih =>
    rw [List.foldlM_cons, addFailed_ofItems fits]
    by_cases next : Fits results (done ++ [failure])
    · rw [if_pos next]
      change failures.foldlM addFailed _ = _
      rw [ih next, List.append_assoc]
      rfl
    · have never : ¬ Fits results (done ++ failure :: failures) := fun whole => next (by
        refine ⟨fits.1, fits.2.1, ?_⟩
        have bound := whole.2.2
        simp only [List.length_append, List.length_cons, List.length_nil] at bound ⊢
        omega)
      rw [if_neg next, if_neg never]
      rfl

end Report

namespace Workers

theorem results_append (outcomes others : List Outcome) :
    results (outcomes ++ others) = results outcomes ++ results others := List.filterMap_append

theorem failures_append (outcomes others : List Outcome) :
    failures (outcomes ++ others) = failures outcomes ++ failures others := List.filterMap_append

/-- Gathering gives all items and their exact numbers, or finds a number too large. -/
theorem gather_eq (results : List FileTally) (failures : List FailedFile) :
    gather results failures =
      if Report.Fits results failures then .ok (.ofItems results failures)
      else .error .sumTooLarge := by
  have none : Report.Fits [] [] := by decide
  have counted : results.foldlM Report.addTally .empty = _ := Report.foldlM_addTally none results
  unfold gather
  rw [counted, List.nil_append]
  by_cases fits : Report.Fits results []
  · rw [if_pos fits]
    exact Report.foldlM_addFailed fits failures
  · have never : ¬ Report.Fits results failures := fun whole => fits ⟨whole.1, whole.2.1, by decide⟩
    rw [if_neg fits, if_neg never]
    rfl

end Workers

namespace Report

/-- The numbers kept beside the lists are those of the lists. -/
structure Exact (r : Report) : Prop where
  analyzed : r.filesAnalyzed.toNat = r.results.length
  failed : r.filesFailed.toNat = r.failures.length
  words : r.totalWords.toNat = wordsIn r.results

theorem Fits.exact {results : List FileTally} {failures : List FailedFile}
    (fits : Fits results failures) : (ofItems results failures).Exact :=
  ⟨toNat_toUInt64 fits.1, toNat_toUInt64 fits.2.2, toNat_toUInt64 fits.2.1⟩

theorem exact_of_gather {results : List FileTally} {failures : List FailedFile} {r : Report}
    (gathered : Workers.gather results failures = .ok r) : r.Exact := by
  rw [Workers.gather_eq] at gathered
  obtain ⟨fits, rfl⟩ := eq_ofItems_of_ok gathered
  exact fits.exact

end Report

end CorpusTally
