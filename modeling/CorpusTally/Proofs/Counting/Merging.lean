import CorpusTally.Proofs.Counting.Bounds

/-!
The algebra of merging. It adds amounts, so that it is commutative and associative with its crashes, and no
order of the entries can be told from another.
-/

namespace CorpusTally

namespace Tally

variable {a b m : Tally}

theorem merge_comm (a b : Tally) : a.merge b = b.merge a := by
  have swapped := b.yields_merge a
  rw [Amounts.plus_comm] at swapped
  exact (a.yields_merge b).unique swapped

theorem merge_assoc (a b c : Tally) :
    (a.merge b >>= fun ab => ab.merge c) = (b.merge c >>= fun bc => a.merge bc) := by
  have left : Yields ((a.amounts.plus b.amounts).plus c.amounts) (a.merge b >>= fun ab => ab.merge c) := by
    apply (a.yields_merge b).bind Amounts.Fits.left
    intro ab same
    rw [← same]
    exact ab.yields_merge c
  have right : Yields (a.amounts.plus (b.amounts.plus c.amounts)) (b.merge c >>= fun bc => a.merge bc) := by
    apply (b.yields_merge c).bind Amounts.Fits.right
    intro bc same
    rw [← same]
    exact a.yields_merge bc
  rw [← Amounts.plus_assoc] at right
  exact left.unique right

theorem ofWords_append (xs ys : List String) :
    ofWords (xs ++ ys) = (ofWords xs >>= fun m => ofWords ys >>= fun n => m.merge n) := by
  have whole := yields_ofWords (xs ++ ys)
  rw [Amounts.ofWords_append] at whole
  apply whole.unique
  apply (yields_ofWords xs).bind Amounts.Fits.left
  intro m first
  apply (yields_ofWords ys).bind Amounts.Fits.right
  intro n second
  rw [← first, ← second]
  exact m.yields_merge n

theorem merging_iff {r : Except Crash Tally} : Merging a [b] r ↔ r = a.merge b := by
  constructor
  · intro merging
    cases merging with
    | adopt blank later =>
      cases later
      exact (if_pos blank).symm
    | add filled order added later =>
      cases later
      rw [← added]
      exact (a.yields_addAll_of_perm b order).unique (a.yields_merge b)
    | crash filled order failed =>
      rw [← failed]
      exact (a.yields_addAll_of_perm b order).unique (a.yields_merge b)
  · rintro rfl
    have merging := merging_foldlM a [b]
    rw [List.foldlM_cons] at merging
    cases made : a.merge b <;> simpa [made] using! merging

theorem mass_of_total {s : UInt64} (summed : m.total = .ok s) : m.mass = s.toNat := by
  rw [total_eq] at summed
  split at summed
  · next fits =>
    rw [Except.ok.injEq] at summed
    rw [← summed]
    exact (UInt64.toNat_ofNat_of_lt' fits).symm
  · cases summed

theorem total_of_merge {s t : UInt64} (first : a.total = .ok s) (second : b.total = .ok t)
    (fits : s.toNat + t.toNat < 2 ^ 64) : ∃ m, a.merge b = .ok m ∧ m.total = .ok (s + t) := by
  have merging : Merging a [b] (a.merge b) := merging_iff.mpr rfl
  have masses : a.mass + ([b].map mass).sum = s.toNat + t.toNat := by
    simp [mass_of_total first, mass_of_total second]
  obtain ⟨m, made, mass⟩ := merging.within (by rwa [masses])
  rw [masses] at mass
  refine ⟨m, made, ?_⟩
  rw [total_eq, mass, if_pos fits, Except.ok.injEq, ← UInt64.toNat_inj, toNat_add_of_fits fits]
  exact UInt64.toNat_ofNat_of_lt' fits

/-- Maps form a commutative monoid under merging, crashes included. -/
structure MergeLaws (a b c : Tally) : Prop where
  ok_iff : ∀ m, a.merge b = .ok m ↔ m.amounts = a.amounts.plus b.amounts
  error_iff : (∃ e, a.merge b = .error e) ↔
    ∃ word, 2 ^ 64 ≤ (a.count word).toNat + (b.count word).toNat
  any_order : ∀ r, Merging a [b] r ↔ r = a.merge b
  key_by_key : ∀ order : Entries, order.Perm b.entries → a.addAll order = a.merge b
  comm : a.merge b = b.merge a
  assoc : (a.merge b >>= fun ab => ab.merge c) = (b.merge c >>= fun bc => a.merge bc)
  merge_empty : a.merge empty = .ok a
  empty_merge : empty.merge a = .ok a
  collect : ∀ xs ys, ofWords (xs ++ ys) = (ofWords xs >>= fun m => ofWords ys >>= fun n => m.merge n)
  total_any_order : ∀ counts, counts.Perm (a.entries.map (·.2)) → checkedSum counts = a.total
  total_merge : ∀ s t, a.total = .ok s → b.total = .ok t → s.toNat + t.toNat < 2 ^ 64 →
    ∃ m, a.merge b = .ok m ∧ m.total = .ok (s + t)

theorem merge_laws (a b c : Tally) : MergeLaws a b c where
  ok_iff := fun _ => (a.yields_merge b).eq_ok_iff
  error_iff := by
    rw [(a.yields_merge b).error_iff, fits_plus_iff]
    simp only [not_forall, not_lt]
  any_order := fun _ => merging_iff
  key_by_key := fun _ order => (a.yields_addAll_of_perm b order).unique (a.yields_merge b)
  comm := a.merge_comm b
  assoc := a.merge_assoc b c
  merge_empty := a.merge_comm empty
  empty_merge := rfl
  collect := ofWords_append
  total_any_order := fun _ order => checkedSum_perm order
  total_merge := fun _ _ first second fits => total_of_merge first second fits

/-- A word that counts zero, one with the largest count there is, and one more. -/
theorem merge_laws_at_limit :
    ∃ m, (empty.put "cat" 0).merge (empty.put "dog" 18446744073709551615) = .ok m ∧
      m.amounts = (empty.put "cat" 0).amounts.plus (empty.put "dog" 18446744073709551615).amounts ∧
      m.total = .ok (0 + 18446744073709551615) ∧
      ∃ e, (empty.put "dog" 18446744073709551615).merge (empty.put "dog" 1) = .error e := by
  have first := merge_laws (empty.put "cat" 0) (empty.put "dog" 18446744073709551615) empty
  have second := merge_laws (empty.put "dog" 18446744073709551615) (empty.put "dog" 1) empty
  obtain ⟨m, made, total⟩ := first.total_merge 0 18446744073709551615 rfl rfl (by decide)
  refine ⟨m, made, (first.ok_iff m).mp made, total, ?_⟩
  exact second.error_iff.mpr ⟨"dog", by decide⟩

end Tally

end CorpusTally
