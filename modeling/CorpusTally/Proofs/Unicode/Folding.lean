import CorpusTally.Token
import Mathlib.Data.List.Chain

/-!
The two ways to small letters: a text is folded one character for one character, a listed word is
lowered as a whole. Folding never makes a letter or a digit into anything else. The two ways part at a
capital I with a dot, whose small form has two characters, and at a capital sigma in final position.
-/

namespace CorpusTally

namespace Unicode

variable {r : Ranges} {code : Nat} {p q : Nat × Nat}

theorem Ranges.contains_of_mem (ascending : r.Pairwise fun p q => p.1 ≤ q.1) (mem : p ∈ r)
    (low : p.1 ≤ code) (high : code ≤ p.2) : r.contains code = true := by
  induction r with
  | nil => simp at mem
  | cons q rest ih =>
    obtain ⟨first, later⟩ := List.pairwise_cons.mp ascending
    rw [contains]
    rcases List.mem_cons.mp mem with rfl | mem
    · simp [high, Nat.not_lt.mpr low]
    · have reached : ¬ code < q.1 := by
        have before := first p mem
        omega
      simp [reached, ih later mem]

/-- A set of code points as the bits of one number, in which each of them is found at once. -/
def maskOf (r : Ranges) : Nat :=
  r.foldr (fun p mask => (1 <<< (p.2 + 1 - p.1) - 1) <<< p.1 ||| mask) 0

theorem testBit_maskOf : (maskOf r).testBit code = true ↔ ∃ p ∈ r, p.1 ≤ code ∧ code ≤ p.2 := by
  induction r with
  | nil => simp [maskOf]
  | cons q rest ih =>
    have bits : ((1 <<< (q.2 + 1 - q.1) - 1) <<< q.1).testBit code = true ↔ q.1 ≤ code ∧ code ≤ q.2 := by
      rw [Nat.testBit_shiftLeft, Nat.one_shiftLeft, Nat.testBit_two_pow_sub_one, Bool.and_eq_true,
        decide_eq_true_eq, decide_eq_true_eq]
      omega
    change (_ ||| maskOf rest).testBit code = true ↔ _
    rw [Nat.testBit_or, Bool.or_eq_true, bits, ih, List.exists_mem_cons_iff]

/-- The intervals of the places of a run's characters, if the first is at `start`. -/
def CaseRun.places (run : CaseRun) (start : Nat) : Ranges :=
  if run.step = 1 then [(start, start + (run.last - run.first))]
  else (List.range ((run.last - run.first) / run.step + 1)).map fun i => (start + i * run.step, start + i * run.step)

theorem CaseRun.image?_eq_some {run : CaseRun} {small : Nat} :
    run.image? code = some small ↔
      (run.first ≤ code ∧ code ≤ run.last ∧ (code - run.first) % run.step = 0) ∧
        run.target + (code - run.first) = small := by
  rw [image?, Option.ite_none_right_eq_some, Option.some.injEq]

theorem CaseRun.exists_place {run : CaseRun} {small : Nat} (image : run.image? code = some small) (start : Nat) :
    ∃ p ∈ run.places start, p.1 ≤ start + (code - run.first) ∧ start + (code - run.first) ≤ p.2 := by
  obtain ⟨⟨low, high, step⟩, -⟩ := image?_eq_some.mp image
  unfold places
  split
  · exact ⟨_, List.mem_singleton_self _, by omega, by omega⟩
  · have steps : (code - run.first) / run.step * run.step = code - run.first :=
      Nat.div_mul_cancel (Nat.dvd_of_mod_eq_zero step)
    have few : (code - run.first) / run.step ≤ (run.last - run.first) / run.step :=
      Nat.div_le_div_right (Nat.sub_le_sub_right high _)
    exact ⟨_, List.mem_map_of_mem (List.mem_range.mpr (Nat.lt_succ_of_le few)), by omega, by omega⟩

private def dottedRun : CaseRun := ⟨0x130, 0x130, 1, 0x69⟩

private def letters : Nat := maskOf alphanumericRanges

private def capitals : Nat := maskOf ((dottedRun :: lowercaseRuns).flatMap fun run => run.places run.first)

private def smalls : Nat := maskOf (lowercaseRuns.flatMap fun run => run.places run.target)

set_option maxRecDepth 4000 in
-- One check for all that the tables have to do with one another: a mask is computed once.
private theorem tables_agree :
    alphanumericRanges.IsChain (fun p q => p.1 ≤ q.1) ∧
    (∀ p ∈ alphanumericRanges, p.2 < 0xd800 ∨ 0xdfff < p.1 ∧ p.2 < 0x110000) ∧
    maskOf blankRanges &&& letters = 0 ∧ smalls &&& letters = smalls ∧ smalls &&& capitals = 0 := by
  decide +kernel

private theorem testBit_of_and_eq {m n : Nat} (within : m &&& n = m) (member : m.testBit code = true) :
    n.testBit code = true := by
  rw [← within, Nat.testBit_and, Bool.and_eq_true] at member
  exact member.2

private theorem testBit_of_and_eq_zero {m n : Nat} (apart : m &&& n = 0) (member : m.testBit code = true) :
    n.testBit code = false := by
  have both := congrArg (Nat.testBit · code) apart
  simpa [member] using both

theorem not_isBlank_of_isAlphanumeric {c : Char} (letter : isAlphanumeric c = true) :
    isBlank c = false := by
  by_contra blank
  rw [Bool.not_eq_false] at blank
  have member : (maskOf blankRanges).testBit c.toNat = true := testBit_maskOf.mpr (Ranges.exists_of_contains blank)
  have other : letters.testBit c.toNat = true := testBit_maskOf.mpr (Ranges.exists_of_contains letter)
  obtain ⟨-, -, apart, -⟩ := tables_agree
  rw [testBit_of_and_eq_zero apart member] at other
  cases other

private theorem toNat_ofNat_of_valid (valid : code.isValidChar) : (Char.ofNat code).toNat = code := by
  rw [Char.ofNat, dif_pos valid]
  rfl

theorem isValidChar_of_mem (mem : p ∈ alphanumericRanges) (low : p.1 ≤ code) (high : code ≤ p.2) :
    code.isValidChar := by
  obtain ⟨-, valid, -⟩ := tables_agree
  have bounds := valid p mem
  simp only [Nat.isValidChar]
  omega

theorem isAlphanumeric_ofNat (mem : p ∈ alphanumericRanges) (low : p.1 ≤ code) (high : code ≤ p.2) :
    isAlphanumeric (Char.ofNat code) = true := by
  have : IsTrans (Nat × Nat) fun p q => p.1 ≤ q.1 := ⟨fun _ _ _ => Nat.le_trans⟩
  obtain ⟨ascending, -⟩ := tables_agree
  rw [isAlphanumeric, toNat_ofNat_of_valid (isValidChar_of_mem mem low high)]
  exact Ranges.contains_of_mem (List.isChain_iff_pairwise.mp ascending) mem low high

private theorem testBit_smalls {run : CaseRun} {small : Nat} (among : run ∈ lowercaseRuns)
    (image : run.image? code = some small) : smalls.testBit small = true := by
  obtain ⟨p, mem, low, high⟩ := CaseRun.exists_place image run.target
  rw [(CaseRun.image?_eq_some.mp image).2] at low high
  exact testBit_maskOf.mpr ⟨p, List.mem_flatMap_of_mem among mem, low, high⟩

theorem lowerCode_cases (code : Nat) :
    (lowercaseRuns.findSome? (·.image? code) = none ∧ lowerCode code = code) ∨
      (∃ run ∈ lowercaseRuns, run.image? code = some (lowerCode code)) ∧
        ∃ p ∈ alphanumericRanges, p.1 ≤ lowerCode code ∧ lowerCode code ≤ p.2 := by
  unfold lowerCode
  cases image : lowercaseRuns.findSome? (·.image? code) with
  | none => exact .inl ⟨rfl, rfl⟩
  | some small =>
    obtain ⟨run, among, image⟩ := List.exists_of_findSome?_eq_some image
    obtain ⟨-, -, -, within, -⟩ := tables_agree
    have letter := testBit_of_and_eq within (testBit_smalls among image)
    exact .inr ⟨⟨run, among, image⟩, testBit_maskOf.mp letter⟩

theorem isAlphanumeric_lowerCode {c : Char} (letter : isAlphanumeric c = true) :
    isAlphanumeric (Char.ofNat (lowerCode c.toNat)) = true := by
  rcases lowerCode_cases c.toNat with ⟨-, same⟩ | ⟨-, p, mem, low, high⟩
  · simpa [same] using letter
  · exact isAlphanumeric_ofNat mem low high

private theorem image?_image {run other : CaseRun} {small : Nat} (mem : run ∈ lowercaseRuns)
    (among : other ∈ dottedRun :: lowercaseRuns) (image : run.image? code = some small) :
    other.image? small = none := by
  by_contra again
  obtain ⟨_, image'⟩ := Option.ne_none_iff_exists'.mp again
  have capital : capitals.testBit small = true := by
    obtain ⟨⟨low, -⟩, -⟩ := CaseRun.image?_eq_some.mp image'
    obtain ⟨p, member, bounds⟩ := CaseRun.exists_place image' other.first
    rw [Nat.add_sub_cancel' low] at bounds
    exact testBit_maskOf.mpr ⟨p, List.mem_flatMap_of_mem among member, bounds⟩
  obtain ⟨-, -, -, -, apart⟩ := tables_agree
  rw [testBit_of_and_eq_zero apart (testBit_smalls mem image)] at capital
  cases capital

theorem lowerCode_lowerCode (code : Nat) : lowerCode (lowerCode code) = lowerCode code := by
  rcases lowerCode_cases code with ⟨-, same⟩ | ⟨⟨run, mem, image⟩, -⟩
  · rw [same, same]
  · have none : lowercaseRuns.findSome? (·.image? (lowerCode code)) = none := by
      rw [List.findSome?_eq_none_iff]
      intro other among
      exact image?_image mem (List.mem_cons_of_mem _ among) image
    rw [lowerCode, none, Option.getD_none]

theorem lowerCode_ne_dotted {code : Nat} (plain : code ≠ 0x130) : lowerCode code ≠ 0x130 := by
  rcases lowerCode_cases code with ⟨-, same⟩ | ⟨⟨run, mem, image⟩, -⟩
  · rwa [same]
  · intro dotted
    have missed := image?_image mem List.mem_cons_self image
    rw [dotted] at missed
    cases missed

theorem toNat_ofNat_lowerCode (c : Char) :
    (Char.ofNat (lowerCode c.toNat)).toNat = lowerCode c.toNat := by
  rcases lowerCode_cases c.toNat with ⟨-, same⟩ | ⟨-, p, mem, low, high⟩
  · rw [same, Char.ofNat_toNat]
  · exact toNat_ofNat_of_valid (isValidChar_of_mem mem low high)

end Unicode

open Unicode

theorem foldCase_of_ne {c : Char} (plain : c ≠ 'İ') :
    foldCase c = Char.ofNat (lowerCode c.toNat) := by
  simp [foldCase, lowerChars, plain]

theorem isAlphanumeric_foldCase {c : Char} (letter : isAlphanumeric c = true) :
    isAlphanumeric (foldCase c) = true := by
  by_cases dotted : c = 'İ'
  · rw [dotted]
    rfl
  · rw [foldCase_of_ne dotted]
    exact isAlphanumeric_lowerCode letter

theorem foldCase_foldCase (c : Char) : foldCase (foldCase c) = foldCase c := by
  by_cases dotted : c = 'İ'
  · rw [dotted]
    rfl
  · have code : c.toNat ≠ 0x130 := fun same => dotted (Char.ext (UInt32.toNat_inj.mp same))
    rw [foldCase_of_ne dotted]
    have plain : Char.ofNat (lowerCode c.toNat) ≠ 'İ' := by
      intro same
      have value := congrArg Char.toNat same
      rw [toNat_ofNat_lowerCode] at value
      exact lowerCode_ne_dotted code value
    rw [foldCase_of_ne plain, toNat_ofNat_lowerCode, lowerCode_lowerCode]

private theorem foldCase_sigma : foldCase 'Σ' = 'σ' := rfl

/-- Some capital sigma has a cased letter before it and none behind it, with the text `before` in front,
nearest first. -/
def HasFinalSigma (before cs : List Char) : Prop :=
  ∃ passed after, cs = passed ++ 'Σ' :: after ∧
    casedFollows (passed.reverse ++ before) = true ∧ casedFollows after = false

theorem not_hasFinalSigma_nil (before : List Char) : ¬ HasFinalSigma before [] := by
  rintro ⟨passed, after, whole, -⟩
  simp at whole

theorem hasFinalSigma_cons {before cs : List Char} {c : Char} :
    HasFinalSigma before (c :: cs) ↔
      (c = 'Σ' ∧ casedFollows before = true ∧ casedFollows cs = false) ∨
        HasFinalSigma (c :: before) cs := by
  constructor
  · rintro ⟨passed, after, whole, cased, final⟩
    cases passed with
    | nil =>
      obtain ⟨rfl, rfl⟩ := List.cons.inj whole
      exact .inl ⟨rfl, cased, final⟩
    | cons d passed =>
      obtain ⟨rfl, rfl⟩ := List.cons.inj whole
      refine .inr ⟨passed, after, rfl, ?_, final⟩
      simpa using cased
  · rintro (⟨rfl, cased, final⟩ | ⟨passed, after, rfl, cased, final⟩)
    · exact ⟨[], cs, rfl, cased, final⟩
    · refine ⟨c :: passed, after, rfl, ?_, final⟩
      simpa using cased

theorem length_le_length_lowerFrom (before cs : List Char) :
    cs.length ≤ (lowerFrom before cs).length := by
  induction cs generalizing before with
  | nil => simp [lowerFrom]
  | cons c cs ih =>
    have rest := ih (c :: before)
    have here : 1 ≤ (lowerBetween before c cs).length := by
      unfold lowerBetween lowerChars
      split
      · simp
      · split <;> simp
    rw [lowerFrom, List.length_append, List.length_cons]
    omega

private theorem lowerSigma_eq_small_iff {before after : List Char} :
    lowerSigma before after = 'σ' ↔ ¬ (casedFollows before = true ∧ casedFollows after = false) := by
  unfold lowerSigma
  cases casedFollows before <;> cases casedFollows after <;> decide

private theorem lowerBetween_of_ne {before after : List Char} {c : Char} (plain : c ≠ 'İ')
    (other : c ≠ 'Σ') : lowerBetween before c after = [foldCase c] := by
  simp [lowerBetween, lowerChars, foldCase_of_ne, plain, other]

theorem lowerFrom_eq_map_foldCase_iff {before cs : List Char} :
    lowerFrom before cs = cs.map foldCase ↔ 'İ' ∉ cs ∧ ¬ HasFinalSigma before cs := by
  induction cs generalizing before with
  | nil => simp [lowerFrom, not_hasFinalSigma_nil]
  | cons c cs ih =>
    rw [lowerFrom, List.map_cons, hasFinalSigma_cons, List.mem_cons]
    by_cases dotted : c = 'İ'
    · -- Two characters for one are never made good again: no character is lowered to none.
      have long := length_le_length_lowerFrom (c :: before) cs
      constructor
      · intro same
        have lengths := congrArg List.length same
        simp [lowerBetween, lowerChars, dotted] at lengths long
        omega
      · rintro ⟨absent, -⟩
        exact absurd (.inl dotted.symm) absent
    · by_cases sigma : c = 'Σ'
      · subst sigma
        rw [foldCase_sigma, lowerBetween, if_pos rfl, List.singleton_append, List.cons.injEq,
          lowerSigma_eq_small_iff, ih, not_or, not_or]
        constructor
        · rintro ⟨kept, absent, rest⟩
          exact ⟨⟨by decide, absent⟩, fun final => kept final.2, rest⟩
        · rintro ⟨⟨-, absent⟩, kept, rest⟩
          exact ⟨fun final => kept ⟨rfl, final⟩, absent, rest⟩
      · rw [lowerBetween_of_ne dotted sigma, List.singleton_append, List.cons_inj_right, ih]
        simp [sigma, Ne.symm dotted]

end CorpusTally
