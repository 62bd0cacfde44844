import CorpusTally.Json.Typed
import Mathlib.Data.List.Basic

/-!
Texts and counts as JSON, read back. A reader takes exactly what was written for the value and leaves what
stands behind it, as long as that does not go on with the value.
-/

namespace CorpusTally.Json

def Bounded (rest : List Char) : Prop := ∀ c ∈ rest.head?, c = ',' ∨ c = '\n'

theorem bounded_nil : Bounded [] := by
  intro c here
  cases here

theorem bounded_comma (rest : List Char) : Bounded (',' :: rest) := by
  intro c here
  exact .inl (Option.some.inj here).symm

theorem bounded_newline (indent : Nat) (rest : List Char) : Bounded (newline indent ++ rest) := by
  intro c here
  exact .inr (Option.some.inj here).symm

def Begins (text : List Char) : Prop := ∃ c more, text = c :: more ∧ isSpace c = false ∧ c ≠ ']'

/-- Reading a text gives a value and stops behind it. -/
structure Reads {α : Type} (read : List Char → Reading α) (text : List Char) (value : α) : Prop where
  begins : Begins text
  reads : ∀ rest, Bounded rest → read (text ++ rest) = .ok (value, rest)

theorem skipSpace_of_begins {c : Char} (solid : isSpace c = false) (rest : List Char) :
    skipSpace (c :: rest) = c :: rest := by
  rw [skipSpace, List.dropWhile_cons_of_neg (by simp [solid])]

private theorem hexValue?_hexDigit : ∀ d < 16, hexValue? (hexDigit d) = some d := by decide

private theorem hexValue?_zero : hexValue? '0' = some 0 := by decide

private theorem readUnit_hexDigits {n : Nat} (low : n < 32) (rest : List Char) :
    readUnit ('0' :: '0' :: hexDigit (n / 16) :: hexDigit (n % 16) :: rest) = .ok n := by
  have high := hexValue?_hexDigit (n / 16) (by omega)
  have last := hexValue?_hexDigit (n % 16) (by omega)
  have whole : n / 16 * 16 + n % 16 = n := by omega
  simp [readUnit, hexValue?_zero, high, last, whole]

private theorem readEscape_hexDigits {n : Nat} (low : n < 32) (rest : List Char) :
    readEscape ('u' :: '0' :: '0' :: hexDigit (n / 16) :: hexDigit (n % 16) :: rest) =
      .ok (Char.ofNat n, 5) := by
  have trailing : isTrailingUnit n = false := by
    simp only [isTrailingUnit, Bool.and_eq_false_iff, decide_eq_false_iff_not]
    omega
  have leading : isLeadingUnit n = false := by
    simp only [isLeadingUnit, Bool.and_eq_false_iff, decide_eq_false_iff_not]
    omega
  simp [readEscape, readUnicodeEscape, readUnit_hexDigits low, trailing, leading, Except.bind, Except.map]

private theorem readChars_escaped {found : Char} (spelled : List Char) {rest : List Char} (done : List Char)
    (escape : readEscape (spelled ++ rest) = .ok (found, spelled.length)) :
    readChars done 0 ('\\' :: (spelled ++ rest)) = readChars (found :: done) 0 rest := by
  have skipped : ∀ (taken : List Char) (done : List Char),
      readChars done taken.length (taken ++ rest) = readChars done 0 rest := by
    intro taken done
    induction taken with
    | nil => rfl
    | cons _ taken ih => exact ih
  rw [readChars, if_neg (by decide), if_pos rfl, escape]
  exact skipped spelled (found :: done)

theorem readChars_escapeChar (done rest : List Char) (c : Char) :
    readChars done 0 (escapeChar c ++ rest) = readChars (c :: done) 0 rest := by
  have short : ∀ marker : Char, readEscape ([marker] ++ rest) = .ok (c, 1) →
      readChars done 0 ('\\' :: ([marker] ++ rest)) = readChars (c :: done) 0 rest := by
    intro marker escape
    exact readChars_escaped [marker] done escape
  unfold escapeChar
  split
  · exact short '"' rfl
  · exact short '\\' rfl
  · exact short 'b' rfl
  · exact short 'f' rfl
  · exact short 'n' rfl
  · exact short 'r' rfl
  · exact short 't' rfl
  · next quote backslash _ _ _ _ _ =>
    split
    · next low =>
      have spelled := readEscape_hexDigits (n := c.toNat) (by omega) rest
      rw [Char.ofNat_toNat] at spelled
      exact readChars_escaped ['u', '0', '0', hexDigit (c.toNat / 16), hexDigit (c.toNat % 16)] done
        spelled
    · next printed =>
      rw [List.singleton_append, readChars, if_neg quote, if_neg backslash, if_neg printed]

/-- A text between quotes is read back, whatever its characters are. -/
theorem readString_escaped (s : String) (rest : List Char) :
    readString (s.toList.flatMap escapeChar ++ '"' :: rest) = .ok (s, rest) := by
  have all : ∀ (cs done : List Char),
      readChars done 0 (cs.flatMap escapeChar ++ '"' :: rest) = .ok (done.reverse ++ cs, rest) := by
    intro cs
    induction cs with
    | nil =>
      intro done
      simp [readChars]
    | cons c cs ih =>
      intro done
      rw [List.flatMap_cons, List.append_assoc, readChars_escapeChar, ih]
      simp
  rw [readString, all]
  simp [Except.map]

theorem quote_append (s : String) (rest : List Char) :
    quote s ++ rest = '"' :: (s.toList.flatMap escapeChar ++ '"' :: rest) := by
  simp [quote]

theorem reads_quote (s : String) : Reads readText (quote s) s where
  begins := ⟨'"', _, rfl, by decide, by decide⟩
  reads := by
    intro rest _
    rw [quote_append, readText, skipSpace_of_begins (by decide)]
    exact readString_escaped s rest

theorem isDigit_of_mem_digits {n : Nat} {c : Char} (mem : c ∈ digits n) : isDigit c = true :=
  Nat.isDigit_of_mem_toDigits (b := 10) (by decide) (by decide) mem

theorem digits_of_zero {n : Nat} {more : List Char} (written : digits n = '0' :: more) :
    n = 0 ∧ more = [] := by
  induction n using Nat.strongRecOn generalizing more with
  | ind n ih =>
    rw [digits, Nat.toDigits_eq_if (by decide)] at written
    split at written
    · next small =>
      obtain ⟨zero, rfl⟩ := List.cons.inj written
      have all : ∀ d < 10, d.digitChar = '0' → d = 0 := by decide
      exact ⟨all n small zero, rfl⟩
    · next large =>
      match first : Nat.toDigits 10 (n / 10) with
      | [] => exact absurd first Nat.toDigits_ne_nil
      | c :: later =>
        rw [first] at written
        obtain ⟨rfl, -⟩ := List.cons.inj written
        have zero := (ih (n / 10) (by omega) first).1
        omega

theorem readWhole_append {ds : List Char} (areDigits : ∀ c ∈ ds, isDigit c = true) {start : Nat}
    (fits : Nat.ofDigitChars 10 ds start ≤ maxUnsigned) (rest : List Char) :
    readWhole start (ds ++ rest) = readWhole (Nat.ofDigitChars 10 ds start) rest := by
  induction ds generalizing start with
  | nil => rfl
  | cons c ds ih =>
    have here : start * 10 + digitValue c = 10 * start + (c.toNat - '0'.toNat) := by
      rw [digitValue, Nat.mul_comm]
    rw [Nat.ofDigitChars_cons, ← here] at fits ⊢
    have small : start * 10 + digitValue c ≤ maxUnsigned := by
      have grown : Nat.ofDigitChars 10 ds (start * 10 + digitValue c) =
          10 ^ ds.length * (start * 10 + digitValue c) + Nat.ofDigitChars 10 ds 0 :=
        Nat.ofDigitChars_eq_ofDigitChars_zero
      have scaled := Nat.le_mul_of_pos_left (start * 10 + digitValue c)
        (Nat.pow_pos (n := ds.length) (show 0 < 10 by decide))
      omega
    have digit := areDigits c List.mem_cons_self
    have later := ih (fun d mem => areDigits d (List.mem_cons_of_mem _ mem)) fits
    simp only [List.cons_append, readWhole, digit, small, decide_true, Bool.and_true, if_true]
    exact later

private theorem isDigit_of_bounded {c : Char} {rest : List Char} (ends : Bounded (c :: rest)) :
    isDigit c = false := by
  rcases ends c rfl with rfl | rfl <;> decide

private theorem readWhole_of_bounded {rest : List Char} (ends : Bounded rest) (n : Nat) :
    readWhole n rest = (n, rest) := by
  cases rest with
  | nil => rfl
  | cons c rest => simp [readWhole, isDigit_of_bounded ends]

private theorem finishNumber_of_bounded {rest : List Char} (ends : Bounded rest) (n : UInt64) :
    finishNumber true n.toNat rest = .ok (.unsigned n, rest) := by
  have whole : finishWhole true n.toNat rest = .ok (.unsigned n, rest) := by
    simp [finishWhole]
  unfold finishNumber
  split
  · exact absurd (ends _ rfl) (by decide)
  · exact absurd (ends _ rfl) (by decide)
  · exact absurd (ends _ rfl) (by decide)
  · exact whole

private theorem readNumber_of_zero {rest : List Char} (ends : Bounded rest) :
    readNumber true ('0' :: rest) = finishNumber true 0 rest := by
  cases rest with
  | nil => rfl
  | cons c rest => simp [readNumber, isDigit_of_bounded ends]

private theorem readNumber_of_digit {c : Char} {cs rest : List Char} {n : Nat} (digit : isDigit c = true)
    (leading : c ≠ '0') (ends : Bounded rest) (whole : readWhole (digitValue c) cs = (n, rest)) :
    readNumber true (c :: cs) = finishNumber true n rest := by
  unfold readNumber
  split
  · next none => cases none
  · next zero => exact absurd (List.cons.inj zero).1 leading
  · next d ds _ same =>
    obtain ⟨rfl, rfl⟩ := List.cons.inj same
    rw [if_pos digit, whole]
    cases rest with
    | nil => rfl
    | cons e rest => simp [isDigit_of_bounded ends]

/-- A count of 64 bits is read back from its digits. -/
theorem readNumber_digits (n : UInt64) {rest : List Char} (ends : Bounded rest) :
    readNumber true (digits n.toNat ++ rest) = .ok (.unsigned n, rest) := by
  match written : digits n.toNat with
  | [] => exact absurd written Nat.toDigits_ne_nil
  | c :: more =>
    by_cases zero : c = '0'
    · subst zero
      obtain ⟨none, rfl⟩ := digits_of_zero written
      rw [List.singleton_append, readNumber_of_zero ends, ← none]
      exact finishNumber_of_bounded ends n
    · have areDigits : ∀ d ∈ c :: more, isDigit d = true := by
        intro d mem
        rw [← written] at mem
        exact isDigit_of_mem_digits mem
      have value : Nat.ofDigitChars 10 more (digitValue c) = n.toNat := by
        have all := Nat.ofDigitChars_ten_toDigits (n := n.toNat)
        rw [show Nat.toDigits 10 n.toNat = c :: more from written, Nat.ofDigitChars_cons] at all
        simpa [digitValue] using all
      have fits : n.toNat ≤ maxUnsigned := Nat.le_sub_one_of_lt n.toNat_lt
      have others : ∀ d ∈ more, isDigit d = true := by
        intro d mem
        exact areDigits d (List.mem_cons_of_mem _ mem)
      have taken := readWhole_append others (value ▸ fits) rest
      rw [value, readWhole_of_bounded ends] at taken
      rw [List.cons_append, readNumber_of_digit (areDigits c List.mem_cons_self) zero ends taken]
      exact finishNumber_of_bounded ends n

theorem begins_digits (n : Nat) :
    ∃ c more, digits n = c :: more ∧ isDigit c = true := by
  match written : digits n with
  | [] => exact absurd written Nat.toDigits_ne_nil
  | c :: more => exact ⟨c, more, rfl, isDigit_of_mem_digits (written ▸ List.mem_cons_self)⟩

theorem ne_of_isDigit {c d : Char} (digit : isDigit c = true) (other : isDigit d = false) : c ≠ d := by
  rintro rfl
  exact Bool.false_ne_true (other.symm.trans digit)

theorem solid_of_isDigit {c : Char} (digit : isDigit c = true) :
    isSpace c = false ∧ c ≠ ']' ∧ c ≠ '-' := by
  refine ⟨?_, ne_of_isDigit digit rfl, ne_of_isDigit digit rfl⟩
  simp only [isSpace, Bool.or_eq_false_iff, decide_eq_false_iff_not]
  exact ⟨⟨⟨ne_of_isDigit digit rfl, ne_of_isDigit digit rfl⟩, ne_of_isDigit digit rfl⟩, ne_of_isDigit digit rfl⟩

theorem reads_digits (n : UInt64) : Reads readCount (digits n.toNat) n := by
  obtain ⟨c, more, written, digit⟩ := begins_digits n.toNat
  obtain ⟨solid, open_, positive⟩ := solid_of_isDigit digit
  refine ⟨⟨c, more, written, solid, open_⟩, ?_⟩
  intro rest ends
  have number := readNumber_digits n ends
  rw [written, List.cons_append] at number ⊢
  rw [readCount, skipSpace_of_begins solid]
  split
  · next none => cases none
  · next negative => exact absurd (List.cons.inj negative).1 positive
  · next d ds _ same =>
    obtain ⟨rfl, rfl⟩ := List.cons.inj same
    rw [if_pos digit, number]
    rfl

end CorpusTally.Json
