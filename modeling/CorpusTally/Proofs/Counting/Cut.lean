import CorpusTally.Chunk.Cut
import CorpusTally.Proofs.Counting.Tally
import CorpusTally.Proofs.Counting.Tokens
import Mathlib.Data.List.ReduceOption

/-!
The cut with numbers of 64 bits. Of a text with less than 2 ^ 63 bytes every number of a line has 64 bits, the
first line of every group among them, so that the text is cut as if numbers had no bound.
-/

namespace CorpusTally

theorem mapM_ok {ε α β : Type} {f : α → Except ε β} {g : α → β} {items : List α}
    (all : ∀ item ∈ items, f item = .ok (g item)) : items.mapM f = .ok (items.map g) := by
  induction items with
  | nil => rfl
  | cons item items ih =>
    have first := all item List.mem_cons_self
    have rest := ih fun other mem => all other (List.mem_cons_of_mem _ mem)
    rw [List.mapM_cons, first, rest]
    rfl

theorem length_lines_le (text : String) : (lines text).length ≤ text.utf8ByteSize + 1 := by
  have pieces := length_split_le '\n' text.toList
  have bytes := length_toList_le text
  rw [lines, List.length_map]
  omega

namespace Chunk

def linesAt (size counters : Nat) (all : List String) (i : Nat) : Option (List String) :=
  if all.length ≤ i * size then none
  else some (if i + 1 = counters then all.drop (i * size) else (all.drop (i * size)).take size)

private theorem linesAt_succ (size counters : Nat) (all : List String) (i : Nat) :
    linesAt size (counters + 1) all (i + 1) = linesAt size counters (all.drop size) i := by
  have begins : (i + 1) * size = size + i * size := by
    rw [Nat.succ_mul, Nat.add_comm]
  have bound : all.length ≤ size + i * size ↔ all.length - size ≤ i * size := by omega
  simp only [linesAt, begins, List.length_drop, bound, List.drop_drop, Nat.add_right_cancel_iff]

private theorem groups_nil (size counters index : Nat) : groups size counters index [] = [] := by
  rw [groups]

theorem groups_eq (size counters index : Nat) (all : List String) :
    groups size counters index all =
      (List.range counters).filterMap fun i => (linesAt size counters all i).map (index + i, ·) := by
  induction counters generalizing index all with
  | zero => cases all <;> rfl
  | succ left ih =>
    cases all with
    | nil => simp [groups_nil, linesAt]
    | cons line more =>
      cases left with
      | zero => simp [groups, linesAt]
      | succ left =>
        have first : linesAt size (left + 2) (line :: more) 0 = some ((line :: more).take size) := by
          simp [linesAt]
        have later := ih (index + 1) ((line :: more).drop size)
        have next (i : Nat) : index + 1 + i = index + (i + 1) := by omega
        rw [groups, later, List.range_succ_eq_map (n := left + 1), List.filterMap_cons, first]
        simp only [Option.map_some, Nat.add_zero, List.filterMap_map, Function.comp_def,
          Nat.succ_eq_add_one, linesAt_succ, next]

/-- The size of a group as it is cut from lines, the last of which has a number of 63 bits. -/
structure Fits (lineCount counters size : UInt64) : Prop where
  few : lineCount.toNat ≤ 2 ^ 63
  some : 0 < counters.toNat
  size_eq : size.toNat = max (lineCount.toNat / counters.toNat) 1

namespace Fits

variable {lineCount counters size : UInt64} {i : Nat}

/-- A group of more than one line begins at most at the end; with single lines its number is enough. -/
theorem start_lt (fits : Fits lineCount counters size) (inside : i < counters.toNat) :
    i * size.toNat < 2 ^ 64 := by
  have bits := counters.toNat_lt
  have few := fits.few
  rw [fits.size_eq]
  rcases Nat.le_total (lineCount.toNat / counters.toNat) 1 with single | several
  · rw [Nat.max_eq_right single, Nat.mul_one]
    omega
  · rw [Nat.max_eq_left several]
    have atMost : i * (lineCount.toNat / counters.toNat) ≤ lineCount.toNat :=
      calc i * (lineCount.toNat / counters.toNat)
        _ ≤ counters.toNat * (lineCount.toNat / counters.toNat) :=
          Nat.mul_le_mul_right _ (Nat.le_of_lt inside)
        _ ≤ lineCount.toNat := Nat.mul_div_le _ _
    omega

theorem size_le (fits : Fits lineCount counters size) : size.toNat ≤ 2 ^ 63 := by
  have few := fits.few
  have quotient : lineCount.toNat / counters.toNat ≤ lineCount.toNat := Nat.div_le_self _ _
  rw [fits.size_eq]
  omega

theorem start_eq (fits : Fits lineCount counters size) (inside : i < counters.toNat) :
    ∃ start, checkedProduct i.toUInt64 size = .ok start ∧ start.toNat = i * size.toNat := by
  have bits := counters.toNat_lt
  have same : i.toUInt64.toNat = i := UInt64.toNat_ofNat_of_lt' (Nat.lt_trans inside bits)
  have small : i.toUInt64.toNat * size.toNat < UInt64.size := by
    rw [same]
    exact fits.start_lt inside
  refine ⟨i.toUInt64 * size, if_pos small, ?_⟩
  rw [UInt64.toNat_mul, Nat.mod_eq_of_lt small, same]

theorem groupEnd_eq (fits : Fits lineCount counters size) (inside : i < counters.toNat)
    {start : UInt64} (begins : start < lineCount) :
    ∃ stop, groupEnd lineCount counters size i.toUInt64 start = .ok stop ∧
      stop.toNat = if i + 1 = counters.toNat then lineCount.toNat
        else min (start.toNat + size.toNat) lineCount.toNat := by
  have bits := counters.toNat_lt
  have one : (1 : UInt64) ≤ counters := UInt64.le_iff_toNat_le.mpr fits.some
  have difference : checkedDifference counters 1 = .ok (counters - 1) := if_pos one
  have isLast : i.toUInt64 = counters - 1 ↔ i + 1 = counters.toNat := by
    rw [← UInt64.toNat_inj, UInt64.toNat_sub_of_le _ _ one, UInt64.toNat_one,
      UInt64.toNat_ofNat_of_lt' (Nat.lt_trans inside bits)]
    omega
  by_cases last : i + 1 = counters.toNat
  · refine ⟨lineCount, ?_, (if_pos last).symm⟩
    simp only [groupEnd, difference, bind, Except.bind, isLast.mpr last, if_true, pure, Except.pure]
  · have sum : start.toNat + size.toNat < 2 ^ 64 := by
      have before := UInt64.lt_iff_toNat_lt.mp begins
      have few := fits.few
      have narrow := fits.size_le
      omega
    refine ⟨min (start + size) lineCount, ?_, ?_⟩
    · simp only [groupEnd, difference, bind, Except.bind, mt isLast.mp last, if_false,
        checkedAdd_ok sum, pure, Except.pure]
    · rw [if_neg last, UInt64.toNat_min, toNat_add_of_fits sum]

end Fits

private theorem checkedSlice_ok {α : Type} {items : List α} {start stop : UInt64}
    (ordered : start.toNat ≤ stop.toNat) (inside : stop.toNat ≤ items.length) :
    checkedSlice items start stop = .ok ((items.take stop.toNat).drop start.toNat) := by
  have forward : ¬ stop < start := fun back => by
    have less := UInt64.lt_iff_toNat_lt.mp back
    omega
  rw [checkedSlice, if_neg forward, if_neg (Nat.not_lt.mpr inside)]

def ofGroup (index : Nat) (group : List String) : Option Chunk :=
  if joinLines group = "" then none else some ⟨index, joinLines group⟩

theorem cutGroup_eq {all : List String} {counters size : UInt64} {i : Nat}
    (count : all.length.toUInt64.toNat = all.length)
    (fits : Fits all.length.toUInt64 counters size) (inside : i < counters.toNat) :
    cutGroup all counters size i.toUInt64 =
      .ok ((linesAt size.toNat counters.toNat all i).bind (ofGroup i)) := by
  have bits := counters.toNat_lt
  have number : i.toUInt64.toNat = i := UInt64.toNat_ofNat_of_lt' (Nat.lt_trans inside bits)
  obtain ⟨start, product, begins⟩ := fits.start_eq inside
  have past : all.length.toUInt64 ≤ start ↔ all.length ≤ i * size.toNat := by
    rw [UInt64.le_iff_toNat_le, count, begins]
  by_cases none : all.length ≤ i * size.toNat
  · simp only [cutGroup, product, bind, Except.bind, past.mpr none, if_true, linesAt, none,
      Option.bind, pure, Except.pure]
  · have before : start < all.length.toUInt64 := by
      rw [UInt64.lt_iff_toNat_lt, count, begins]
      omega
    obtain ⟨stop, ends, value⟩ := fits.groupEnd_eq inside before
    rw [count, begins] at value
    have ordered : start.toNat ≤ stop.toNat := by
      rw [value, begins]
      split <;> omega
    have within : stop.toNat ≤ all.length := by
      rw [value]
      split <;> omega
    have group : (all.take stop.toNat).drop start.toNat =
        if i + 1 = counters.toNat then all.drop (i * size.toNat)
        else (all.drop (i * size.toNat)).take size.toNat := by
      rw [value, begins]
      split
      · rw [List.take_length]
      · rw [List.drop_take, List.take_eq_take_iff, List.length_drop]
        omega
    simp only [cutGroup, product, bind, Except.bind, UInt64.not_le.mpr before, if_false, ends,
      checkedSlice_ok ordered within, group, linesAt, none, Option.bind, ofGroup, number, pure,
      Except.pure]

private theorem ofText_eq (text : String) {counters : Nat} (some : 0 < counters) :
    ofText text counters =
      (List.range counters).filterMap fun i =>
        (linesAt (groupSize (lines text).length counters) counters (lines text) i).bind
          (ofGroup i) := by
  have same : max 1 counters = counters := Nat.max_eq_right some
  simp only [ofText, same, groups_eq, List.map_filterMap, ← List.filterMap_eq_filter,
    List.filterMap_filterMap]
  refine List.filterMap_congr fun i _ => ?_
  cases linesAt (groupSize (lines text).length counters) counters (lines text) i with
  | none => rfl
  | some group =>
    by_cases empty : joinLines group = "" <;>
      simp [ofGroup, empty, Option.guard]

/-- A text of 63 bits is cut without a crash, and as if numbers had no bound. -/
theorem cut_eq {text : String} (fits : text.utf8ByteSize < 2 ^ 63) (counters : UInt64) :
    cut text counters = .ok (ofText text counters.toNat) := by
  have few := length_lines_le text
  have count : (lines text).length.toUInt64.toNat = (lines text).length :=
    UInt64.toNat_ofNat_of_lt' (show _ < 2 ^ 64 by omega)
  generalize several : max counters 1 = used
  have positive : 0 < used.toNat := by
    rw [← several, UInt64.toNat_max, UInt64.toNat_one]
    omega
  have nonzero : used ≠ 0 := fun none => by simp [none] at positive
  have divided : checkedQuotient (lines text).length.toUInt64 used =
    .ok ((lines text).length.toUInt64 / used) := if_neg nonzero
  have sized : Fits (lines text).length.toUInt64 used
      (max ((lines text).length.toUInt64 / used) 1) := by
    refine ⟨by omega, positive, ?_⟩
    rw [UInt64.toNat_max, UInt64.toNat_div, UInt64.toNat_one]
  have found := mapM_ok fun i mem => cutGroup_eq count sized (List.mem_range.mp mem)
  have whole : ofText text counters.toNat = ofText text used.toNat := by
    rw [← several, UInt64.toNat_max, UInt64.toNat_one]
    simp only [ofText, Nat.max_comm counters.toNat 1, ← Nat.max_assoc, Nat.max_self]
  have size : groupSize (lines text).length used.toNat =
      (max ((lines text).length.toUInt64 / used) 1).toNat := by
    rw [sized.size_eq, count, groupSize, Nat.max_comm]
  simp only [cut, several, divided, bind, Except.bind, found, pure, Except.pure]
  rw [whole, ofText_eq text positive, size]
  simp only [List.reduceOption, List.filterMap_map, Function.comp_def, id_eq]

end Chunk

end CorpusTally
