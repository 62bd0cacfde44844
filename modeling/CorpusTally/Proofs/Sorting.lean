import CorpusTally.Proofs.Paths
import CorpusTally.Proofs.Reporting
import Mathlib.Data.String.Basic

/-!
What the sorting of a report leaves of the order in which its items came. Failures of different places
are brought into one order; results of one file name stay as they came.
-/

namespace CorpusTally

/-- A stable sort keeps the order of what it takes to be equal. -/
theorem filter_mergeSort {α : Type} {le : α → α → Bool} (trans : ∀ a b c, le a b → le b c → le a c)
    (total : ∀ a b, le a b || le b a) {alike : α → Bool} (equal : ∀ a b, alike a → alike b → le a b)
    (items : List α) : (items.mergeSort le).filter alike = items.filter alike := by
  have sorted : (items.filter alike).Pairwise (fun a b => le a b = true) :=
    List.pairwise_of_forall_mem_list fun a memA b memB =>
      equal a b (List.mem_filter.mp memA).2 (List.mem_filter.mp memB).2
  have inside := (List.sublist_mergeSort trans total sorted List.filter_sublist).filter alike
  rw [List.filter_filter] at inside
  simp only [Bool.and_self] at inside
  refine (inside.eq_of_length ?_).symm
  exact ((List.mergeSort_perm items le).filter alike).length_eq.symm

/-- A sort leaves nothing of the order if it takes only equal items to be equal. -/
theorem mergeSort_eq_of_perm {α : Type} {le : α → α → Bool}
    (trans : ∀ a b c, le a b → le b c → le a c) (total : ∀ a b, le a b || le b a)
    {items others : List α} (perm : items.Perm others)
    (antisymm : ∀ a ∈ items, ∀ b ∈ items, le a b → le b a → a = b) :
    items.mergeSort le = others.mergeSort le := by
  have left := List.mergeSort_perm items le
  have right := List.mergeSort_perm others le
  refine List.Perm.eq_of_pairwise (fun a b memA memB => ?_)
    (List.pairwise_mergeSort trans total items) (List.pairwise_mergeSort trans total others)
    (left.trans (perm.trans right.symm))
  exact antisymm a (left.mem_iff.mp memA) b (perm.mem_iff.mpr (right.mem_iff.mp memB))

theorem eq_of_cons_eq_append {α : Type} {a : α} {items : List α} (same : a :: items = items ++ [a]) :
    ∀ b ∈ items, b = a := by
  induction items with
  | nil => simp
  | cons first items ih =>
    obtain ⟨rfl, rest⟩ := List.cons.inj same
    intro b mem
    rcases List.mem_cons.mp mem with rfl | later
    · rfl
    · exact ih rest b later

/-- Items are compared by their keys, and rank alike only with the same key. -/
structure Ranks {α κ : Type} (key : α → κ) (le : α → α → Bool) : Prop where
  trans : ∀ a b c, le a b → le b c → le a c
  total : ∀ a b, le a b || le b a
  alike : ∀ a b, key a = key b ↔ le a b ∧ le b a

namespace Ranks

variable {α κ : Type} {key : α → κ} {le : α → α → Bool} {items others : List α}

theorem mergeSort_filter [DecidableEq κ] (ranks : Ranks key le) (items : List α) (k : κ) :
    (items.mergeSort le).filter (key · = k) = items.filter (key · = k) := by
  refine filter_mergeSort ranks.trans ranks.total (fun a b here there => ?_) items
  simp only [decide_eq_true_eq] at here there
  exact ((ranks.alike a b).mp (here.trans there.symm)).1

theorem mergeSort_of_perm (ranks : Ranks key le) (same : items.Perm others)
    (apart : ∀ a ∈ items, ∀ b ∈ items, key a = key b → a = b) : items.mergeSort le = others.mergeSort le := by
  refine mergeSort_eq_of_perm ranks.trans ranks.total same fun a memA b memB below above => ?_
  exact apart a memA b memB ((ranks.alike a b).mpr ⟨below, above⟩)

end Ranks

theorem FileTally.ranks_fileName : Ranks fileName fun a b => a.fileName ≤ b.fileName where
  trans a b c first second := by
    simp only [decide_eq_true_eq] at *
    exact le_trans first second
  total a b := by
    simp only [Bool.or_eq_true, decide_eq_true_eq]
    exact le_total _ _
  alike a b := by
    simp only [decide_eq_true_eq]
    exact le_antisymm_iff

def FailedFile.place (f : FailedFile) : List Component := f.path.components

theorem FailedFile.ranks_place : Ranks place fun a b => a.path.le b.path where
  trans a b c := Path.le_trans a.path b.path c.path
  total a b := Path.le_total a.path b.path
  alike a b := Path.components_eq_iff a.path b.path

namespace Report

open FileTally

theorem sorted_results_perm (r : Report) : r.sorted.results.Perm r.results := List.mergeSort_perm _ _

theorem sorted_failures_perm (r : Report) : r.sorted.failures.Perm r.failures := List.mergeSort_perm _ _

theorem Exact.sorted {r : Report} (sound : r.Exact) : r.sorted.Exact where
  analyzed := by
    rw [r.sorted_results_perm.length_eq]
    exact sound.analyzed
  failed := by
    rw [r.sorted_failures_perm.length_eq]
    exact sound.failed
  words := by
    rw [wordsIn_perm r.sorted_results_perm]
    exact sound.words

theorem sorted_results_filter (r : Report) (name : String) :
    r.sorted.results.filter (·.fileName = name) = r.results.filter (·.fileName = name) :=
  ranks_fileName.mergeSort_filter r.results name

variable {results others : List FileTally} {failures otherFailures : List FailedFile}

theorem sorted_results_eq (same : results.Perm others)
    (apart : ∀ x ∈ results, ∀ y ∈ results, x.fileName = y.fileName → x = y) :
    (ofItems results failures).sorted.results = (ofItems others otherFailures).sorted.results :=
  ranks_fileName.mergeSort_of_perm same apart

/-- Items that come in another order leave the failures of different places, and all numbers, as they
were. -/
theorem sorted_ofItems_perm (same : results.Perm others) (sameFailures : failures.Perm otherFailures)
    (apart : ∀ x ∈ failures, ∀ y ∈ failures, x.path.components = y.path.components → x = y) :
    (ofItems others otherFailures).sorted =
      { (ofItems results failures).sorted with
        results := (ofItems others otherFailures).sorted.results } := by
  have oneOrder : failures.mergeSort (fun a b => a.path.le b.path) =
      otherFailures.mergeSort fun a b => a.path.le b.path :=
    FailedFile.ranks_place.mergeSort_of_perm sameFailures apart
  rw [ofItems_perm same sameFailures]
  simp only [sorted, ofItems, oneOrder]

end Report

end CorpusTally
