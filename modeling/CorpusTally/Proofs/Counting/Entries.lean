import CorpusTally.Tally
import Mathlib.Algebra.Order.BigOperators.Group.List
import Mathlib.Algebra.Order.Group.Nat
import Mathlib.Algebra.Ring.Nat
import Mathlib.Data.List.Basic

/-!
Checked sums, and the entries of a map. A checked sum does not depend on the order of its numbers, and
ascending entries are determined by the count of each word.
-/

namespace CorpusTally

def sumOf (counts : List UInt64) : Nat := (counts.map UInt64.toNat).sum

theorem checkedAdd_ok {a b : UInt64} (fits : a.toNat + b.toNat < 2 ^ 64) :
    checkedAdd a b = .ok (a + b) := if_pos fits

theorem toNat_add_of_fits {a b : UInt64} (fits : a.toNat + b.toNat < 2 ^ 64) :
    (a + b).toNat = a.toNat + b.toNat := by
  rw [UInt64.toNat_add, Nat.mod_eq_of_lt fits]

private theorem foldlM_checkedAdd (counts : List UInt64) (start : UInt64) :
    counts.foldlM checkedAdd start =
      if start.toNat + sumOf counts < 2 ^ 64 then .ok (start.toNat + sumOf counts).toUInt64
      else .error .sumTooLarge := by
  induction counts generalizing start with
  | nil =>
    have small := start.toNat_lt
    simp [sumOf, pure, Except.pure, small]
  | cons count counts ih =>
    have split : sumOf (count :: counts) = count.toNat + sumOf counts := by simp [sumOf]
    rw [List.foldlM_cons, split]
    by_cases fits : start.toNat + count.toNat < 2 ^ 64
    · rw [checkedAdd_ok fits]
      change counts.foldlM checkedAdd (start + count) = _
      rw [ih, toNat_add_of_fits fits, Nat.add_assoc]
    · have exceeds : ¬ start.toNat + (count.toNat + sumOf counts) < 2 ^ 64 := by omega
      have fails : checkedAdd start count = .error .sumTooLarge := if_neg fits
      rw [if_neg exceeds, fails]
      rfl

/-- A checked sum is the sum of the numbers, and fails exactly when it has more than 64 bits. -/
theorem checkedSum_eq (counts : List UInt64) :
    checkedSum counts =
      if sumOf counts < 2 ^ 64 then .ok (sumOf counts).toUInt64 else .error .sumTooLarge := by
  have start := foldlM_checkedAdd counts 0
  simpa [checkedSum] using start

theorem sumOf_eq_of_perm {counts others : List UInt64} (order : counts.Perm others) :
    sumOf counts = sumOf others := (order.map _).sum_eq

theorem checkedSum_perm {counts others : List UInt64} (order : counts.Perm others) :
    checkedSum counts = checkedSum others := by
  rw [checkedSum_eq, checkedSum_eq, sumOf_eq_of_perm order]

namespace Entries

theorem get?_eq_none_of_before {word : String} {es : Entries}
    (before : ∀ e ∈ es, word < e.1) : get? word es = none := by
  induction es with
  | nil => rfl
  | cons head rest ih =>
    have different : head.1 ≠ word := fun same =>
      String.lt_irrefl word (same ▸ before head (by simp))
    simp only [get?, different, if_false]
    exact ih fun e mem => before e (List.mem_cons_of_mem _ mem)

theorem get?_cons_later {head : String × UInt64} {rest : Entries} (sorted : Ascending (head :: rest))
    {e : String × UInt64} (mem : e ∈ rest) : head.1 ≠ e.1 := fun same =>
  String.lt_irrefl e.1 (same ▸ (List.pairwise_cons.mp sorted).1 e mem)

theorem get?_of_mem {es : Entries} (sorted : Ascending es) {e : String × UInt64} (mem : e ∈ es) :
    get? e.1 es = some e.2 := by
  induction es with
  | nil => simp at mem
  | cons head rest ih =>
    rcases List.mem_cons.mp mem with rfl | later
    · simp [get?]
    · simp only [get?, get?_cons_later sorted later, if_false]
      exact ih (List.pairwise_cons.mp sorted).2 later

theorem mem_of_get? {word : String} {n : UInt64} {es : Entries} (found : get? word es = some n) :
    (word, n) ∈ es := by
  induction es with
  | nil => simp [get?] at found
  | cons head rest ih =>
    by_cases here : head.1 = word
    · simp only [get?, here, if_true, Option.some.injEq] at found
      simp [← here, ← found]
    · simp only [get?, here, if_false] at found
      exact List.mem_cons_of_mem _ (ih found)

theorem nodup_of_ascending {es : Entries} (sorted : Ascending es) : es.Nodup := by
  refine List.Pairwise.imp ?_ sorted
  rintro a b before rfl
  exact String.lt_irrefl a.1 before

theorem eq_of_get? {as bs : Entries} (sortedA : Ascending as) (sortedB : Ascending bs)
    (same : ∀ word, get? word as = get? word bs) : as = bs := by
  have included : ∀ {es fs : Entries}, Ascending es → (∀ word, get? word es = get? word fs) →
      ∀ e ∈ es, e ∈ fs := fun sorted agree e mem =>
    mem_of_get? ((agree e.1).symm.trans (get?_of_mem sorted mem))
  have perm : as.Perm bs :=
    (List.perm_ext_iff_of_nodup (nodup_of_ascending sortedA) (nodup_of_ascending sortedB)).mpr
      fun e => ⟨included sortedA same e, included sortedB (fun word => (same word).symm) e⟩
  exact perm.eq_of_pairwise (fun a b _ _ ab ba => absurd (String.lt_trans ab ba)
    (String.lt_irrefl a.1)) sortedA sortedB

theorem sumOf_put (word : String) (count : UInt64) {es : Entries} (sorted : Ascending es) :
    sumOf ((put word count es).map (·.2)) + ((get? word es).getD 0).toNat =
      sumOf (es.map (·.2)) + count.toNat := by
  induction es with
  | nil => simp [put, get?, sumOf]
  | cons head rest ih =>
    obtain ⟨w, n⟩ := head
    have parts := List.pairwise_cons.mp sorted
    have tail := ih parts.2
    simp only [put]
    split
    · next before =>
      have absent : get? word ((w, n) :: rest) = none := get?_eq_none_of_before fun e mem => by
        rcases List.mem_cons.mp mem with rfl | later
        · exact before
        · exact String.lt_trans before (parts.1 e later)
      simp only [absent, sumOf, List.map_cons, List.sum_cons, Option.getD_none, UInt64.toNat_zero]
      omega
    · split
      · next equal =>
        simp only [equal, get?, if_true, sumOf, List.map_cons, List.sum_cons, Option.getD_some]
        omega
      · next different =>
        have other : w ≠ word := fun same => different same.symm
        simp only [get?, other, if_false, sumOf, List.map_cons, List.sum_cons] at tail ⊢
        omega

end Entries

namespace Tally

theorem count?_put (m : Tally) (word other : String) (n : UInt64) :
    (m.put word n).count? other = if other = word then some n else m.count? other :=
  Entries.get?_put word other n m.entries

theorem ext_count? {m n : Tally} (same : ∀ word, m.count? word = n.count? word) : m = n := by
  obtain ⟨as, sortedA⟩ := m
  obtain ⟨bs, sortedB⟩ := n
  have entries : as = bs := Entries.eq_of_get? sortedA sortedB same
  subst entries
  rfl

theorem add_ok {m : Tally} {word : String} {n : UInt64}
    (fits : (m.count word).toNat + n.toNat < 2 ^ 64) :
    m.add word n = .ok (m.put word (m.count word + n)) := by
  simp [add, checkedAdd_ok fits, Except.map]

end Tally

end CorpusTally
