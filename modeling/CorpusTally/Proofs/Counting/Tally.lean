import CorpusTally.Proofs.Counting.Amounts

/-!
What a tally says about the words it was made from. A tally is determined by the count of each word, so
that counting words in another order, or in parts that are merged, gives the same tally.
-/

namespace CorpusTally

namespace Tally

/-- The tally has exactly the words of the list, each with its number of occurrences. -/
def Counts (m : Tally) (words : List String) : Prop :=
  ∀ word, (m.count? word).map UInt64.toNat = if word ∈ words then some (words.count word) else none

theorem counts_iff {m : Tally} {words : List String} : m.Counts words ↔ m.amounts = .ofWords words := by
  rw [funext_iff]
  simp only [Amounts.ofWords_eq]
  rfl

namespace Counts

variable {m n : Tally} {words more : List String}

theorem of_empty : Counts empty [] := counts_iff.mpr rfl

theorem perm (counts : m.Counts words) (same : words.Perm more) : m.Counts more := fun word => by
  rw [counts word, same.count_eq word]
  simp only [same.mem_iff]

theorem unique (left : m.Counts words) (right : n.Counts words) : m = n := by
  rw [counts_iff] at left right
  exact amounts_injective (left.trans right.symm)

theorem merge (left : m.Counts words) (right : n.Counts more)
    (fits : words.length + more.length < 2 ^ 64) :
    ∃ k, m.merge n = .ok k ∧ k.Counts (words ++ more) := by
  rw [counts_iff] at left right
  have merged := m.yields_merge n
  rw [left, right, ← Amounts.ofWords_append] at merged
  rw [← List.length_append] at fits
  obtain ⟨k, made, amounts⟩ := merged.counted (Amounts.fits_ofWords fits)
  exact ⟨k, made, counts_iff.mpr amounts⟩

end Counts

theorem ofWords_counts (words : List String) (fits : words.length < 2 ^ 64) :
    ∃ m, ofWords words = .ok m ∧ m.Counts words := by
  obtain ⟨m, made, amounts⟩ := (yields_ofWords words).counted (Amounts.fits_ofWords fits)
  exact ⟨m, made, counts_iff.mpr amounts⟩

def tallyOf (words : List String) : Tally := ((ofWords words).toOption).getD empty

theorem ofWords_eq {words : List String} (fits : words.length < 2 ^ 64) :
    ofWords words = .ok (tallyOf words) := by
  obtain ⟨m, made, _⟩ := ofWords_counts words fits
  simp [tallyOf, made, Except.toOption]

theorem tallyOf_counts {words : List String} (fits : words.length < 2 ^ 64) :
    (tallyOf words).Counts words := by
  obtain ⟨m, made, counts⟩ := ofWords_counts words fits
  have same : m = tallyOf words := by simpa [made] using ofWords_eq fits
  exact same ▸ counts

def mass (m : Tally) : Nat := sumOf (m.entries.map (·.2))

theorem mass_empty : empty.mass = 0 := rfl

theorem total_eq (m : Tally) :
    m.total = if m.mass < 2 ^ 64 then .ok m.mass.toUInt64 else .error .sumTooLarge := checkedSum_eq _

theorem count_le_mass (m : Tally) (word : String) : (m.count word).toNat ≤ m.mass := by
  unfold count
  cases found : m.count? word with
  | none => simp
  | some count =>
    have mem : (word, count) ∈ m.entries := Entries.mem_of_get? found
    have listed : count ∈ m.entries.map (·.2) := List.mem_map_of_mem mem
    exact List.le_sum_of_mem (List.mem_map_of_mem listed)

theorem add_within {m : Tally} {word : String} {count : UInt64}
    (fits : m.mass + count.toNat < 2 ^ 64) :
    ∃ more, m.add word count = .ok more ∧ more.mass = m.mass + count.toNat := by
  have here := m.count_le_mass word
  have sum : (m.count word).toNat + count.toNat < 2 ^ 64 := by omega
  refine ⟨m.put word (m.count word + count), add_ok sum, ?_⟩
  have moved : (m.put word (m.count word + count)).mass + (m.count word).toNat =
    m.mass + (m.count word + count).toNat := Entries.sumOf_put word _ m.ascending
  rw [toNat_add_of_fits sum] at moved
  omega

theorem addAll_within {m : Tally} {entries : Entries}
    (fits : m.mass + sumOf (entries.map (·.2)) < 2 ^ 64) :
    ∃ more, m.addAll entries = .ok more ∧ more.mass = m.mass + sumOf (entries.map (·.2)) := by
  induction entries generalizing m with
  | nil => exact ⟨m, rfl, rfl⟩
  | cons entry entries ih =>
    have split : sumOf ((entry :: entries).map (·.2)) =
      entry.2.toNat + sumOf (entries.map (·.2)) := by simp [sumOf]
    rw [split, ← Nat.add_assoc] at fits ⊢
    have here : m.mass + entry.2.toNat < 2 ^ 64 := by omega
    obtain ⟨next, added, heavier⟩ :
        ∃ next, m.add entry.1 entry.2 = .ok next ∧ next.mass = m.mass + entry.2.toNat :=
      add_within here
    rw [← heavier] at fits ⊢
    obtain ⟨more, rest, all⟩ := ih fits
    refine ⟨more, ?_, all⟩
    rw [addAll, List.foldlM_cons, added]
    exact rest

private theorem sumOf_ones (words : List String) :
    sumOf ((words.map fun word => (word, (1 : UInt64))).map (·.2)) = words.length := by
  induction words with
  | nil => rfl
  | cons word words ih =>
    simp only [sumOf, List.map_cons, List.sum_cons, UInt64.toNat_one, List.length_cons] at ih ⊢
    omega

theorem Counts.mass_eq {m : Tally} {words : List String} (counts : m.Counts words)
    (fits : words.length < 2 ^ 64) : m.mass = words.length := by
  obtain ⟨n, made, counted⟩ := ofWords_counts words fits
  have ones := sumOf_ones words
  rw [← ones] at fits
  obtain ⟨more, added, mass⟩ :=
    addAll_within (show empty.mass + _ < 2 ^ 64 by rwa [mass_empty, Nat.zero_add])
  rw [← ofWords_eq_addAll, made, Except.ok.injEq] at added
  rw [mass_empty, Nat.zero_add, ones, ← added] at mass
  rw [counts.unique counted]
  exact mass

theorem Counts.total {m : Tally} {words : List String} (counts : m.Counts words)
    (fits : words.length < 2 ^ 64) : m.total = .ok words.length.toUInt64 := by
  rw [total_eq, counts.mass_eq fits, if_pos fits]

end Tally

end CorpusTally
