/-!
Sets of code points as ascending lists of inclusive intervals.
-/

namespace CorpusTally.Unicode

abbrev Ranges := List (Nat × Nat)

def Ranges.contains : Ranges → Nat → Bool
  | [], _ => false
  | (lo, hi) :: rest, code => if code < lo then false else code ≤ hi || contains rest code

theorem Ranges.exists_of_contains {r : Ranges} {code : Nat} (found : r.contains code = true) :
    ∃ p ∈ r, p.1 ≤ code ∧ code ≤ p.2 := by
  induction r with
  | nil => simp [contains] at found
  | cons p rest ih =>
    obtain ⟨lo, hi⟩ := p
    simp only [contains] at found
    split at found
    · simp at found
    · next above =>
      rcases Bool.or_eq_true _ _ ▸ found with here | later
      · exact ⟨(lo, hi), by simp, by omega, by simpa using here⟩
      · obtain ⟨q, mem, bounds⟩ := ih later
        exact ⟨q, List.mem_cons_of_mem _ mem, bounds⟩

end CorpusTally.Unicode
