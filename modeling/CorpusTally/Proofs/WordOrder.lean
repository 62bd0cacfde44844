import CorpusTally.Proofs.Sorting
import CorpusTally.Proofs.Unicode.ByteOrder
import Mathlib.Data.Prod.Lex

/-!
The order in which words are shown. It is total, and words that rank alike are the same, so that sorting gives
one list for all orders in which the same words come. The result of a file is such a list.
-/

namespace CorpusTally

namespace WordCount

def ShownBefore (a b : WordCount) : Prop :=
  b.count < a.count ∨ a.count = b.count ∧ Utf8.encode a.word ≤ Utf8.encode b.word

variable {a b c : WordCount} {words others : List WordCount}

theorem le_iff : a.le b = true ↔ a.ShownBefore b := by
  unfold le ShownBefore
  rw [Utf8.encode_le_iff]
  simp only [Bool.or_eq_true, Bool.and_eq_true, decide_eq_true_eq]

def key (a : WordCount) : ℕᵒᵈ ×ₗ String := toLex (OrderDual.toDual a.count.toNat, a.word)

theorem le_iff_key_le : a.le b = true ↔ a.key ≤ b.key := by
  unfold le key
  rw [Prod.Lex.toLex_le_toLex, OrderDual.toDual_lt_toDual, OrderDual.toDual_inj]
  simp only [Bool.or_eq_true, Bool.and_eq_true, decide_eq_true_eq, UInt64.lt_iff_toNat_lt,
    UInt64.toNat_inj]

theorem key_injective : Function.Injective key := by
  intro a b same
  obtain ⟨word, count⟩ := a
  obtain ⟨word', count'⟩ := b
  obtain ⟨counts, rfl⟩ : count.toNat = count'.toNat ∧ word = word' := Prod.mk.inj (toLex.injective same)
  rw [UInt64.toNat_inj.mp counts]

theorem le_trans (a b c : WordCount) (first : a.le b = true) (second : b.le c = true) :
    a.le c = true := by
  rw [le_iff_key_le] at first second ⊢
  exact first.trans second

theorem le_total (a b : WordCount) : (a.le b || b.le a) = true := by
  rw [Bool.or_eq_true, le_iff_key_le, le_iff_key_le]
  exact Std.Total.total a.key b.key

theorem le_antisymm (first : a.le b = true) (second : b.le a = true) : a = b := by
  rw [le_iff_key_le] at first second
  exact key_injective (first.antisymm second)

theorem pairwise_sort (words : List WordCount) : (sort words).Pairwise ShownBefore := by
  have sorted := List.pairwise_mergeSort le_trans le_total words
  exact sorted.imp le_iff.mp

theorem sort_eq_sort_iff : sort words = sort others ↔ words.Perm others := by
  constructor
  · intro same
    have left := sort_perm words
    rw [same] at left
    exact left.symm.trans (sort_perm others)
  · intro perm
    exact mergeSort_eq_of_perm le_trans le_total perm fun a _ b _ => le_antisymm

theorem sort_sort (words : List WordCount) : sort (sort words) = sort words :=
  sort_eq_sort_iff.mpr (sort_perm words)

theorem sort_of_pairwise (sorted : words.Pairwise ShownBefore) : sort words = words :=
  List.mergeSort_of_pairwise (sorted.imp le_iff.mpr)

end WordCount

namespace FileTally

open WordCount

def ofOrder (path : Path) (order : List WordCount) : FileTally := ⟨displayName path, sort order⟩

theorem ofOrder_eq {path : Path} {m : Tally} {order : List WordCount}
    (perm : order.Perm m.toWordCounts) : ofOrder path order = ofCounts path m := by
  rw [ofOrder, ofCounts, sort_eq_sort_iff.mpr perm]

theorem nodup_words (path : Path) (m : Tally) : ((ofCounts path m).words.map (·.word)).Nodup := by
  have perm := (sort_perm m.toWordCounts).map (·.word)
  refine perm.nodup_iff.mpr ?_
  have names : m.toWordCounts.map (·.word) = m.entries.map (·.1) := by
    rw [Tally.toWordCounts, List.map_map]
    rfl
  rw [names, List.Nodup, List.pairwise_map]
  apply m.ascending.imp
  intro a b before same
  exact String.lt_irrefl _ (same ▸ before)

theorem orderedWords_ofCounts (path : Path) (m : Tally) :
    (ofCounts path m).orderedWords = (ofCounts path m).words := sort_sort m.toWordCounts

theorem total_ofCounts (path : Path) (m : Tally) : (ofCounts path m).total = m.total :=
  checkedSum_perm (counts_ofCounts path m)

/-- Sorting brings words into the order in which they are shown, and two lists into the same order exactly if
they have the same words as often. Hence the result of a file does not depend on the order in which its counts
are given out; each of its words comes once, in its place, and the counts add up to the same total. -/
theorem sort_canonical (words others : List WordCount) (path : Path) (m : Tally) :
    ((sort words).Perm words ∧ (sort words).Pairwise ShownBefore) ∧
      (sort words = sort others ↔ words.Perm others) ∧
      (∀ order : List WordCount, order.Perm m.toWordCounts →
        ofOrder path order = ofCounts path m ∧
          (ofOrder path order).display = (ofCounts path m).display) ∧
      ((ofCounts path m).words.map (·.word)).Nodup ∧
      (ofCounts path m).orderedWords = (ofCounts path m).words ∧
      (ofCounts path m).total = m.total ∧
      ∀ counts, counts.Perm (m.entries.map (·.2)) → checkedSum counts = m.total := by
  refine ⟨⟨sort_perm words, pairwise_sort words⟩, sort_eq_sort_iff, ?_, nodup_words path m,
    orderedWords_ofCounts path m, total_ofCounts path m, ?_⟩
  · intro order perm
    have same : ofOrder path order = ofCounts path m := ofOrder_eq perm
    exact ⟨same, congrArg display same⟩
  · intro counts perm
    exact checkedSum_perm perm

/-- Three words, two of which count the same, given out with the last of them first. -/
theorem sort_canonical_of_tie :
    (ofOrder (.ofString "a") [⟨"cat", 2⟩, ⟨"dog", 5⟩, ⟨"ant", 2⟩]).words =
        [⟨"dog", 5⟩, ⟨"ant", 2⟩, ⟨"cat", 2⟩] ∧
      ofOrder (.ofString "a") [⟨"cat", 2⟩, ⟨"dog", 5⟩, ⟨"ant", 2⟩] =
        ofCounts (.ofString "a") (((Tally.empty.put "ant" 2).put "cat" 2).put "dog" 5) ∧
      (ofCounts (.ofString "a") (((Tally.empty.put "ant" 2).put "cat" 2).put "dog" 5)).total = .ok 9 := by
  have given : [⟨"cat", 2⟩, ⟨"dog", 5⟩, ⟨"ant", 2⟩].Perm
      (((Tally.empty.put "ant" 2).put "cat" 2).put "dog" 5).toWordCounts := by decide
  have shown : [⟨"cat", 2⟩, ⟨"dog", 5⟩, ⟨"ant", 2⟩].Perm
      ([⟨"dog", 5⟩, ⟨"ant", 2⟩, ⟨"cat", 2⟩] : List WordCount) := by decide
  have inOrder : [⟨"dog", 5⟩, ⟨"ant", 2⟩, ⟨"cat", 2⟩].Pairwise fun a b => WordCount.le a b = true := by
    decide
  obtain ⟨-, same, again, -, -, total, -⟩ := sort_canonical [⟨"cat", 2⟩, ⟨"dog", 5⟩, ⟨"ant", 2⟩]
    [⟨"dog", 5⟩, ⟨"ant", 2⟩, ⟨"cat", 2⟩] (.ofString "a")
    (((Tally.empty.put "ant" 2).put "cat" 2).put "dog" 5)
  refine ⟨?_, (again _ given).1, total.trans rfl⟩
  rw [ofOrder, same.mpr shown]
  exact sort_of_pairwise (inOrder.imp le_iff.mp)

end FileTally

end CorpusTally
