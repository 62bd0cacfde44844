import CorpusTally.Utf8
import Mathlib.Data.String.Basic

/-!
The order of words, which goes by code points, is the order of their bytes. A character with a smaller code
point has a smaller first byte, or as many bytes of which the first that differs is smaller.
-/

namespace CorpusTally.Utf8

private theorem cons_lt_cons {x y : Nat} {s t : Bytes} (small : y < 256) (le : x ≤ y)
    (tie : x = y → s < t) : UInt8.ofNat x :: s < UInt8.ofNat y :: t := by
  rw [List.cons_lt_cons_iff]
  rcases Nat.lt_or_eq_of_le le with less | same
  · left
    rw [UInt8.lt_iff_toNat_lt, UInt8.toNat_ofNat', UInt8.toNat_ofNat']
    omega
  · exact .inr ⟨congrArg _ same, tie same⟩

theorem encodeChar_append_lt {c d : Char} (less : c < d) (s t : Bytes) :
    String.utf8EncodeChar c ++ s < String.utf8EncodeChar d ++ t := by
  have values : c.val.toNat < d.val.toNat := less
  have bound : d.val.toNat < 0x110000 := by
    have valid := d.valid
    simp only [UInt32.isValidChar, Nat.isValidChar] at valid
    omega
  unfold String.utf8EncodeChar
  generalize c.val.toNat = v at values
  generalize d.val.toNat = w at values bound
  dsimp only
  -- Split by the number of bytes. Where it differs, so does the first byte.
  split
  · split
    · exact cons_lt_cons (by omega) (by omega) fun _ => by omega
    · split
      · exact cons_lt_cons (by omega) (by omega) fun _ => by omega
      · split
        · exact cons_lt_cons (by omega) (by omega) fun _ => by omega
        · exact cons_lt_cons (by omega) (by omega) fun _ => by omega
  · rw [if_neg (show ¬ w ≤ 0x7f by omega)]
    split
    · split
      · refine cons_lt_cons (by omega) (by omega) fun _ => ?_
        exact cons_lt_cons (by omega) (by omega) fun _ => by omega
      · split
        · exact cons_lt_cons (by omega) (by omega) fun _ => by omega
        · exact cons_lt_cons (by omega) (by omega) fun _ => by omega
    · rw [if_neg (show ¬ w ≤ 0x7ff by omega)]
      split
      · split
        · refine cons_lt_cons (by omega) (by omega) fun _ => ?_
          refine cons_lt_cons (by omega) (by omega) fun _ => ?_
          exact cons_lt_cons (by omega) (by omega) fun _ => by omega
        · exact cons_lt_cons (by omega) (by omega) fun _ => by omega
      · rw [if_neg (show ¬ w ≤ 0xffff by omega)]
        refine cons_lt_cons (by omega) (by omega) fun _ => ?_
        refine cons_lt_cons (by omega) (by omega) fun _ => ?_
        refine cons_lt_cons (by omega) (by omega) fun _ => ?_
        exact cons_lt_cons (by omega) (by omega) fun _ => by omega

theorem encodeChars_lt {cs ds : List Char} (less : cs < ds) : encodeChars cs < encodeChars ds := by
  induction cs generalizing ds with
  | nil =>
    cases ds with
    | nil => exact absurd less (List.lt_irrefl _)
    | cons d ds =>
      obtain ⟨first, rest, bytes⟩ := List.exists_cons_of_ne_nil (String.utf8EncodeChar_ne_nil (c := d))
      simp only [encodeChars, List.flatMap_nil, List.flatMap_cons, bytes, List.cons_append]
      exact List.nil_lt_cons _ _
  | cons c cs ih =>
    cases ds with
    | nil => exact absurd less (List.not_lt_nil _)
    | cons d ds =>
      simp only [encodeChars, List.flatMap_cons]
      rcases List.cons_lt_cons_iff.mp less with before | ⟨rfl, later⟩
      · exact encodeChar_append_lt before _ _
      · exact List.append_left_lt (ih later)

theorem encode_lt_iff {a b : String} : encode a < encode b ↔ a < b := by
  constructor
  · intro less
    rcases lt_trichotomy a b with before | rfl | after
    · exact before
    · exact absurd less (List.lt_irrefl _)
    · exact absurd (encodeChars_lt after) (List.lt_asymm less)
  · intro less
    exact encodeChars_lt less

theorem encode_le_iff {a b : String} : encode a ≤ encode b ↔ a ≤ b := not_congr encode_lt_iff

end CorpusTally.Utf8
