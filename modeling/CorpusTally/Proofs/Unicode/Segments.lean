import Mathlib.Data.List.Forall2
import CorpusTally.Proofs.Unicode.ByteOrder

/-!
How bytes fall into characters and broken parts. What is said of them here goes by the encoding of characters
alone: a part is broken where no character is whole, and it is as long as some character still begins with it.
Reading cuts all bytes in this way, and there is no other one. Bytes that are read strictly are the encoding of
the text that comes out.
-/

namespace CorpusTally.Utf8

/-- No character is whole here. The part is the longest that a character begins with, or a single byte where
none begins with that. -/
structure IsBroken (part rest : Bytes) : Prop where
  nonempty : part ≠ []
  begins : part.length = 1 ∨ ∃ c, part <+: String.utf8EncodeChar c
  broken : ∀ c, ¬ String.utf8EncodeChar c <+: part ++ rest
  longest : ∀ c more, more <+: rest → part ++ more <+: String.utf8EncodeChar c → more = []

/-- Characters and broken parts, one after the other. A part at the end that more bytes could complete is
truncated. -/
inductive Cuts : Bytes → List Segment → Prop
  | nil : Cuts [] []
  | scalar {c rest segments} (later : Cuts rest segments) :
      Cuts (String.utf8EncodeChar c ++ rest) (.scalar c :: segments)
  | invalid {part rest segments} (broken : IsBroken part rest)
      (final : rest ≠ [] ∨ ¬ ∃ c, part <+: String.utf8EncodeChar c) (later : Cuts rest segments) :
      Cuts (part ++ rest) (.invalid part.length :: segments)
  | truncated {part} (broken : IsBroken part []) (begins : ∃ c, part <+: String.utf8EncodeChar c) :
      Cuts part [.truncated part.length]

theorem encodeChar_append_inj {c d : Char} {s t : Bytes}
    (same : String.utf8EncodeChar c ++ s = String.utf8EncodeChar d ++ t) : c = d ∧ s = t := by
  rcases lt_trichotomy c d with before | rfl | after
  · exact absurd (same ▸ encodeChar_append_lt before s t) (List.lt_irrefl _)
  · exact ⟨rfl, List.append_cancel_left same⟩
  · exact absurd (same ▸ encodeChar_append_lt after t s) (List.lt_irrefl _)

section

variable {part rest part' rest' : Bytes}

private theorem IsBroken.length_le (broken : IsBroken part rest) (other : IsBroken part' rest')
    (same : part ++ rest = part' ++ rest') : part'.length ≤ part.length := by
  by_contra longer
  have inside : part <+: part' := List.prefix_of_prefix_length_le
    (List.prefix_append part rest) (same ▸ List.prefix_append part' rest') (by omega)
  obtain ⟨more, rfl⟩ := inside
  rw [List.append_assoc, List.append_cancel_left_eq] at same
  have several := List.length_pos_iff.mpr broken.nonempty
  rw [List.length_append] at longer
  rcases other.begins with one | ⟨c, begins⟩
  · rw [List.length_append] at one
    omega
  · have nothing := broken.longest c more (same ▸ List.prefix_append more rest') begins
    simp [nothing] at longer

theorem IsBroken.unique (broken : IsBroken part rest) (other : IsBroken part' rest')
    (same : part ++ rest = part' ++ rest') : part = part' ∧ rest = rest' :=
  List.append_inj same
    (Nat.le_antisymm (other.length_le broken same.symm) (broken.length_le other same))

end

theorem Cuts.unique {bytes : Bytes} {segments others : List Segment} (cuts : Cuts bytes segments)
    (again : Cuts bytes others) : segments = others := by
  induction cuts generalizing others with
  | nil =>
    generalize none : ([] : Bytes) = bytes at again
    cases again with
    | nil => rfl
    | @scalar c rest =>
      have empty := (List.append_eq_nil_iff.mp none.symm).1
      exact absurd empty String.utf8EncodeChar_ne_nil
    | invalid broken => exact absurd (List.append_eq_nil_iff.mp none.symm).1 broken.nonempty
    | truncated broken => exact absurd none.symm broken.nonempty
  | @scalar c rest _ _ ih =>
    generalize whole : String.utf8EncodeChar c ++ rest = bytes at again
    cases again with
    | nil => exact absurd (List.append_eq_nil_iff.mp whole).1 String.utf8EncodeChar_ne_nil
    | scalar later =>
      obtain ⟨rfl, rfl⟩ := encodeChar_append_inj whole
      rw [ih later]
    | invalid broken => exact absurd ⟨rest, whole⟩ (broken.broken c)
    | truncated broken => exact absurd ⟨rest, by rw [whole, List.append_nil]⟩ (broken.broken c)
  | @invalid part rest _ broken final _ ih =>
    generalize whole : part ++ rest = bytes at again
    cases again with
    | nil => exact absurd (List.append_eq_nil_iff.mp whole).1 broken.nonempty
    | @scalar c rest' => exact absurd ⟨rest', whole.symm⟩ (broken.broken c)
    | invalid other _ later =>
      obtain ⟨rfl, rfl⟩ := broken.unique other whole
      rw [ih later]
    | truncated other begins =>
      obtain ⟨rfl, rfl⟩ := broken.unique other (by rw [whole, List.append_nil])
      exact absurd begins (final.resolve_left (by simp))
  | @truncated part broken begins =>
    generalize whole : part = bytes at again
    cases again with
    | nil => exact absurd whole broken.nonempty
    | @scalar c rest' => exact absurd ⟨rest', by rw [List.append_nil, whole]⟩ (broken.broken c)
    | invalid other final =>
      obtain ⟨rfl, rfl⟩ := broken.unique other (by rw [List.append_nil, whole])
      exact absurd begins (final.resolve_left (by simp))
    | truncated => rfl

private def Within (range : UInt8 × UInt8) (b : UInt8) : Prop := range.1 ≤ b ∧ b ≤ range.2

private def laterBytes : UInt8 × UInt8 := (0x80, 0xbf)

private def secondBytes (b : UInt8) : UInt8 × UInt8 :=
  if b = 0xe0 then (0xa0, 0xbf)
  else if b = 0xed then (0x80, 0x9f)
  else if b = 0xf0 then (0x90, 0xbf)
  else if b = 0xf4 then (0x80, 0x8f)
  else laterBytes

private theorem within_laterBytes {b : UInt8} :
    Within laterBytes b ↔ 0x80 ≤ b.toNat ∧ b.toNat < 0xc0 := by
  simp only [Within, laterBytes, UInt8.le_iff_toNat_le, UInt8.reduceToNat]
  omega

private theorem within_secondBytes {a b : UInt8} : Within (secondBytes a) b ↔
    0x80 ≤ b.toNat ∧ b.toNat < 0xc0 ∧ (a.toNat = 0xe0 → 0xa0 ≤ b.toNat) ∧
      (a.toNat = 0xed → b.toNat < 0xa0) ∧ (a.toNat = 0xf0 → 0x90 ≤ b.toNat) ∧
      (a.toNat = 0xf4 → b.toNat < 0x90) := by
  simp only [secondBytes, Within, laterBytes, ← UInt8.toNat_inj, UInt8.le_iff_toNat_le]
  split_ifs
  all_goals
    dsimp only [UInt8.reduceToNat] at *
    omega

private theorem toNat_and_mask (b mask : UInt8) {n : Nat} (power : mask.toNat = 2 ^ n - 1) :
    (b &&& mask).toNat = b.toNat % 2 ^ n := by
  rw [UInt8.toNat_and, power, Nat.and_two_pow_sub_one_eq_mod]

private theorem begin_eq (b : UInt8) : begin b =
    if b.toNat < 0x80 then .inl (.scalar (Char.ofNat b.toNat))
    else if b.toNat < 0xc2 then .inl (.invalid 1)
    else if b.toNat < 0xe0 then .inr ⟨b.toNat % 32, 1, [secondBytes b]⟩
    else if b.toNat < 0xf0 then .inr ⟨b.toNat % 16, 1, [secondBytes b, laterBytes]⟩
    else if b.toNat < 0xf5 then .inr ⟨b.toNat % 8, 1, [secondBytes b, laterBytes, laterBytes]⟩
    else .inl (.invalid 1) := by
  have mask5 := toNat_and_mask b 0x1f (n := 5) rfl
  have mask4 := toNat_and_mask b 0x0f (n := 4) rfl
  have mask3 := toNat_and_mask b 0x07 (n := 3) rfl
  simp only [begin, mask3, mask4, mask5, UInt8.lt_iff_toNat_lt, ← UInt8.toNat_inj, UInt8.reduceToNat,
    Nat.reducePow]
  by_cases one : b.toNat < 0x80
  · rw [if_pos one, if_pos one]
  rw [if_neg one, if_neg one]
  by_cases low : b.toNat < 0xc2
  · rw [if_pos low, if_pos low]
  rw [if_neg low, if_neg low]
  -- what is awaited next depends on the first byte alone
  have second : secondBytes b = if b.toNat = 0xe0 then (0xa0, 0xbf) else if b.toNat = 0xed then (0x80, 0x9f)
      else if b.toNat = 0xf0 then (0x90, 0xbf) else if b.toNat = 0xf4 then (0x80, 0x8f) else laterBytes := by
    simp only [secondBytes, ← UInt8.toNat_inj, UInt8.reduceToNat]
  by_cases two : b.toNat < 0xe0
  · rw [if_pos two, if_pos two, second, if_neg (by omega), if_neg (by omega), if_neg (by omega), if_neg (by omega)]
    rfl
  rw [if_neg two, if_neg two, second]
  split_ifs
  any_goals omega
  all_goals rfl

private theorem toNat_val_ofNat {n : Nat} (valid : n.isValidChar) : (Char.ofNat n).val.toNat = n := by
  rw [Char.ofNat, dif_pos valid]
  rfl

private theorem ofNat_eq {n : Nat} {b : UInt8} (same : n = b.toNat) : UInt8.ofNat n = b := by
  rw [same, UInt8.ofNat_toNat]

section

variable {n : Nat} {a b c d : UInt8}

private theorem encodeChar_two (large : 0x80 ≤ n) (small : n < 0x800) (first : n / 64 + 0xc0 = a.toNat)
    (second : n % 64 + 0x80 = b.toNat) : String.utf8EncodeChar (Char.ofNat n) = [a, b] := by
  have same := toNat_val_ofNat (n := n) (by simp only [Nat.isValidChar]; omega)
  simp only [String.utf8EncodeChar, same]
  rw [if_neg (by omega), if_pos (by omega), ofNat_eq (b := a) (by omega), ofNat_eq (b := b) (by omega)]

private theorem encodeChar_three (large : 0x800 ≤ n) (small : n < 0x10000) (valid : n.isValidChar)
    (first : n / 4096 + 0xe0 = a.toNat) (second : n / 64 % 64 + 0x80 = b.toNat)
    (third : n % 64 + 0x80 = c.toNat) : String.utf8EncodeChar (Char.ofNat n) = [a, b, c] := by
  have same := toNat_val_ofNat valid
  simp only [String.utf8EncodeChar, same]
  rw [if_neg (by omega), if_neg (by omega), if_pos (by omega), ofNat_eq (b := a) (by omega),
    ofNat_eq (b := b) (by omega), ofNat_eq (b := c) (by omega)]

private theorem encodeChar_four (large : 0x10000 ≤ n) (small : n < 0x110000)
    (first : n / 262144 + 0xf0 = a.toNat) (second : n / 4096 % 64 + 0x80 = b.toNat)
    (third : n / 64 % 64 + 0x80 = c.toNat) (fourth : n % 64 + 0x80 = d.toNat) :
    String.utf8EncodeChar (Char.ofNat n) = [a, b, c, d] := by
  have same := toNat_val_ofNat (n := n) (by simp only [Nat.isValidChar]; omega)
  simp only [String.utf8EncodeChar, same]
  rw [if_neg (by omega), if_neg (by omega), if_neg (by omega), ofNat_eq (b := a) (by omega),
    ofNat_eq (b := b) (by omega), ofNat_eq (b := c) (by omega), ofNat_eq (b := d) (by omega)]

end

private def bitsOf (bits : Nat) (bytes : Bytes) : Nat :=
  bytes.foldl (fun bits b => bits * 64 + (b &&& 0x3f).toNat) bits

private theorem encodeChar_bitsOf {b : UInt8} {p : Pending} (begun : begin b = .inr p) {bytes : Bytes}
    (fits : List.Forall₂ Within p.expects bytes) :
    String.utf8EncodeChar (Char.ofNat (bitsOf p.bits bytes)) = b :: bytes := by
  have mask6 (x : UInt8) := toNat_and_mask x 0x3f (n := 6) rfl
  rw [begin_eq] at begun
  split_ifs at begun with one low two three four
  all_goals obtain rfl := Sum.inr.inj begun
  · match bytes, fits with
    | [x], .cons fitsX .nil =>
      have rangeX := within_secondBytes.mp fitsX
      simp only [bitsOf, List.foldl, mask6, Nat.reducePow]
      apply encodeChar_two
      all_goals omega
  · match bytes, fits with
    | [x, y], .cons fitsX (.cons fitsY .nil) =>
      have rangeX := within_secondBytes.mp fitsX
      have rangeY := within_laterBytes.mp fitsY
      simp only [bitsOf, List.foldl, mask6, Nat.reducePow]
      refine encodeChar_three ?_ ?_ (by simp only [Nat.isValidChar]; omega) ?_ ?_ ?_
      all_goals omega
  · match bytes, fits with
    | [x, y, z], .cons fitsX (.cons fitsY (.cons fitsZ .nil)) =>
      have rangeX := within_secondBytes.mp fitsX
      have rangeY := within_laterBytes.mp fitsY
      have rangeZ := within_laterBytes.mp fitsZ
      simp only [bitsOf, List.foldl, mask6, Nat.reducePow]
      apply encodeChar_four
      all_goals omega

private theorem encodeChar_cases (c : Char) :
    (∃ b, String.utf8EncodeChar c = [b] ∧ begin b = .inl (.scalar c)) ∨
      ∃ b p bytes, String.utf8EncodeChar c = b :: bytes ∧ begin b = .inr p ∧
        List.Forall₂ Within p.expects bytes := by
  have valid := c.valid
  simp only [UInt32.isValidChar, Nat.isValidChar] at valid
  have same : Char.ofNat c.val.toNat = c := c.ofNat_toNat
  have size {m : Nat} (small : m < 256) : (UInt8.ofNat m).toNat = m := UInt8.toNat_ofNat_of_lt' small
  unfold String.utf8EncodeChar
  generalize c.val.toNat = n at valid same
  dsimp only
  split_ifs with one two three
  · refine .inl ⟨_, rfl, ?_⟩
    rw [begin_eq, size (by omega), if_pos (by omega), same]
  · have begun := begin_eq (UInt8.ofNat (n / 64 % 32 + 0xc0))
    rw [size (by omega), if_neg (by omega), if_neg (by omega), if_pos (by omega)] at begun
    refine .inr ⟨_, _, _, rfl, begun, .cons (within_secondBytes.mpr ?_) .nil⟩
    rw [size (by omega), size (by omega)]
    omega
  · have begun := begin_eq (UInt8.ofNat (n / 4096 % 16 + 0xe0))
    rw [size (by omega), if_neg (by omega), if_neg (by omega), if_neg (by omega), if_pos (by omega)] at begun
    refine .inr ⟨_, _, _, rfl, begun, .cons (within_secondBytes.mpr ?_)
      (.cons (within_laterBytes.mpr ?_) .nil)⟩
    · rw [size (by omega), size (by omega)]
      omega
    · rw [size (by omega)]
      omega
  · have begun := begin_eq (UInt8.ofNat (n / 262144 % 8 + 0xf0))
    rw [size (by omega), if_neg (by omega), if_neg (by omega), if_neg (by omega), if_neg (by omega),
      if_pos (by omega)] at begun
    refine .inr ⟨_, _, _, rfl, begun, .cons (within_secondBytes.mpr ?_)
      (.cons (within_laterBytes.mpr ?_) (.cons (within_laterBytes.mpr ?_) .nil))⟩
    · rw [size (by omega), size (by omega)]
      omega
    · rw [size (by omega)]
      omega
    · rw [size (by omega)]
      omega

private theorem awaits_of_begin {b : UInt8} {p : Pending} (begun : begin b = .inr p) :
    p.used = 1 ∧ p.expects ≠ [] ∧ ∀ range ∈ p.expects, Within range range.1 := by
  have second : Within (secondBytes b) (secondBytes b).1 := by
    unfold secondBytes
    split_ifs <;> exact ⟨by decide, by decide⟩
  have later : Within laterBytes laterBytes.1 := ⟨by decide, by decide⟩
  rw [begin_eq] at begun
  split_ifs at begun
  all_goals
    obtain rfl := Sum.inr.inj begun
    simp [second, later]

private theorem restart_done (done before : List Segment) (b : UInt8) :
    Reader.restart ⟨done ++ before, none⟩ b =
      ⟨(Reader.restart ⟨done, none⟩ b).done ++ before, (Reader.restart ⟨done, none⟩ b).open?⟩ := by
  unfold Reader.restart
  cases begin b <;> rfl

private theorem feed_done (done before : List Segment) (open? : Option Pending) (b : UInt8) :
    Reader.feed ⟨done ++ before, open?⟩ b =
      ⟨(Reader.feed ⟨done, open?⟩ b).done ++ before, (Reader.feed ⟨done, open?⟩ b).open?⟩ := by
  cases open? with
  | none => exact restart_done done before b
  | some p =>
    obtain ⟨bits, used, expects⟩ := p
    cases expects with
    | nil => exact restart_done done before b
    | cons range more =>
      by_cases fits : (decide (range.1 ≤ b) && decide (b ≤ range.2)) = true
      · cases more <;> simp [Reader.feed, fits]
      · simpa [Reader.feed, fits] using restart_done (.invalid used :: done) before b

private def restOf (open? : Option Pending) (bytes : Bytes) : List Segment :=
  (bytes.foldl Reader.feed ⟨[], open?⟩).finish

private theorem finish_foldl (bytes : Bytes) (done : List Segment) (open? : Option Pending) :
    (bytes.foldl Reader.feed ⟨done, open?⟩).finish = done.reverse ++ restOf open? bytes := by
  -- what came before is not looked at again
  have fed : ∀ (bytes : Bytes) (later : List Segment) (open? : Option Pending),
      bytes.foldl Reader.feed ⟨later ++ done, open?⟩ =
        ⟨(bytes.foldl Reader.feed ⟨later, open?⟩).done ++ done,
          (bytes.foldl Reader.feed ⟨later, open?⟩).open?⟩ := by
    intro bytes
    induction bytes with
    | nil => exact fun later open? => rfl
    | cons b bytes ih =>
      intro later open?
      rw [List.foldl_cons, feed_done, ih, List.foldl_cons]
  have whole := fed bytes [] open?
  rw [List.nil_append] at whole
  rw [whole, restOf]
  generalize bytes.foldl Reader.feed ⟨[], open?⟩ = r
  obtain ⟨last, pending⟩ := r
  cases pending <;> simp [Reader.finish]

private theorem restOf_cons (open? : Option Pending) (b : UInt8) (bytes : Bytes) :
    restOf open? (b :: bytes) =
      (Reader.feed ⟨[], open?⟩ b).done.reverse ++ restOf (Reader.feed ⟨[], open?⟩ b).open? bytes :=
  finish_foldl bytes _ _

section

variable {b : UInt8} {bytes more rest : Bytes} {p : Pending}

private theorem restOf_inl {s : Segment} (begun : begin b = .inl s) :
    restOf none (b :: bytes) = s :: restOf none bytes := by
  simp [restOf_cons, Reader.feed, Reader.restart, begun]

private theorem restOf_inr (begun : begin b = .inr p) :
    restOf none (b :: bytes) = restOf (some p) bytes := by
  simp [restOf_cons, Reader.feed, Reader.restart, begun]

/-- Reading an open character ends in one of three ways: with all that it awaits, at the end of the bytes, or
at a byte that it does not await. -/
private theorem restOf_some (bits used : Nat) {expects : List (UInt8 × UInt8)} (some? : expects ≠ [])
    (bytes : Bytes) :
    (∃ later rest, bytes = later ++ rest ∧ List.Forall₂ Within expects later ∧
        restOf (some ⟨bits, used, expects⟩) bytes =
          .scalar (Char.ofNat (bitsOf bits later)) :: restOf none rest) ∨
      ∃ later rest awaited range others, bytes = later ++ rest ∧ expects = awaited ++ range :: others ∧
        List.Forall₂ Within awaited later ∧ (∀ b ∈ rest.head?, ¬ Within range b) ∧
        restOf (some ⟨bits, used, expects⟩) bytes =
          (if rest = [] then .truncated (used + later.length) else .invalid (used + later.length)) ::
            restOf none rest := by
  induction bytes generalizing bits used expects with
  | nil =>
    obtain ⟨range, others, rfl⟩ := List.exists_cons_of_ne_nil some?
    exact .inr ⟨[], [], [], range, others, rfl, rfl, .nil, by simp, rfl⟩
  | cons b bytes ih =>
    obtain ⟨range, others, rfl⟩ := List.exists_cons_of_ne_nil some?
    by_cases fits : Within range b
    · have bit : (decide (range.1 ≤ b) && decide (b ≤ range.2)) = true := by
        simpa [Within] using fits
      cases others with
      | nil =>
        refine .inl ⟨[b], bytes, rfl, .cons fits .nil, ?_⟩
        simp [restOf_cons, Reader.feed, bit, bitsOf]
      | cons next others =>
        have step : restOf (some ⟨bits, used, range :: next :: others⟩) (b :: bytes) =
            restOf (some ⟨bits * 64 + (b &&& 0x3f).toNat, used + 1, next :: others⟩) bytes := by
          simp [restOf_cons, Reader.feed, bit]
        rw [step]
        rcases ih (bits * 64 + (b &&& 0x3f).toNat) (used + 1) (List.cons_ne_nil next others) with
          ⟨later, rest, rfl, all, read⟩ | ⟨later, rest, awaited, last, after, rfl, cut, all, stop, read⟩
        · exact .inl ⟨b :: later, rest, rfl, .cons fits all, read⟩
        · refine .inr ⟨b :: later, rest, range :: awaited, last, after, rfl, by rw [cut]; rfl,
            .cons fits all, stop, ?_⟩
          rw [read, List.length_cons, Nat.add_right_comm, Nat.add_assoc]
    · have bit : ¬ (decide (range.1 ≤ b) && decide (b ≤ range.2)) = true := by
        simpa [Within] using fits
      have again : Reader.feed ⟨[], some ⟨bits, used, range :: others⟩⟩ b =
          Reader.restart ⟨[] ++ [.invalid used], none⟩ b := by
        simp [Reader.feed, bit]
      refine .inr ⟨[], b :: bytes, [], range, others, rfl, rfl, .nil, by simpa using fits, ?_⟩
      rw [if_neg (List.cons_ne_nil b bytes), restOf_cons, again, restart_done, restOf_cons none]
      simp [Reader.feed]

variable {awaited others : List (UInt8 × UInt8)} {range : UInt8 × UInt8} {later : Bytes}

private theorem exists_awaited (begun : begin b = .inr p) (cut : p.expects = awaited ++ range :: others)
    {c : Char} (same : String.utf8EncodeChar c = b :: bytes) :
    ∃ front x back, bytes = front ++ x :: back ∧ front.length = awaited.length ∧ Within range x := by
  rcases encodeChar_cases c with ⟨d, whole, single⟩ | ⟨d, q, others', whole, several, fits⟩
  · obtain ⟨rfl, -⟩ := List.cons.inj (whole.symm.trans same)
    cases begun.symm.trans single
  · obtain ⟨rfl, rfl⟩ := List.cons.inj (whole.symm.trans same)
    obtain rfl := Sum.inr.inj (begun.symm.trans several)
    rw [cut] at fits
    have tail := List.forall₂_drop awaited.length fits
    rw [List.drop_left] at tail
    obtain ⟨x, back, here, -, rest⟩ := List.forall₂_cons_left_iff.mp tail
    have long := fits.length_eq
    rw [List.length_append] at long
    refine ⟨others'.take awaited.length, x, back, ?_, ?_, here⟩
    · rw [← rest, List.take_append_drop]
    · rw [List.length_take]
      omega

private theorem begins_of_stop (begun : begin b = .inr p) (cut : p.expects = awaited ++ range :: others)
    (all : List.Forall₂ Within awaited later) : ∃ c, b :: later <+: String.utf8EncodeChar c := by
  have firsts : ∀ ranges : List (UInt8 × UInt8), (∀ r ∈ ranges, Within r r.1) →
      List.Forall₂ Within ranges (ranges.map Prod.fst) := by
    intro ranges least
    induction ranges with
    | nil => exact .nil
    | cons r ranges ih =>
      exact .cons (least r (by simp)) (ih fun r mem => least r (by simp [mem]))
  obtain ⟨-, -, least⟩ := awaits_of_begin begun
  have after := firsts (range :: others) fun r mem => least r (by simp [cut, mem])
  have whole : List.Forall₂ Within p.expects (later ++ (range :: others).map Prod.fst) :=
    cut ▸ List.rel_append all after
  exact ⟨_, _, (encodeChar_bitsOf begun whole).symm⟩

private theorem isBroken_of_stop (begun : begin b = .inr p) (cut : p.expects = awaited ++ range :: others)
    (all : List.Forall₂ Within awaited later) (stop : ∀ b ∈ rest.head?, ¬ Within range b) :
    IsBroken (b :: later) rest where
  nonempty := List.cons_ne_nil b later
  begins := .inr (begins_of_stop begun cut all)
  broken := by
    rintro c ⟨after, whole⟩
    obtain ⟨d, bytes, same⟩ := List.exists_cons_of_ne_nil (String.utf8EncodeChar_ne_nil (c := c))
    rw [same, List.cons_append, List.cons_append] at whole
    obtain ⟨rfl, behind⟩ := List.cons.inj whole
    obtain ⟨front, x, back, rfl, long, here⟩ := exists_awaited begun cut same
    rw [List.append_assoc] at behind
    obtain ⟨-, rfl⟩ := List.append_inj behind (long.trans all.length_eq)
    exact stop x rfl here
  longest := by
    rintro c more ⟨after, rfl⟩ ⟨end', whole⟩
    rw [List.append_assoc, List.cons_append] at whole
    obtain ⟨front, x, back, cut', long, here⟩ := exists_awaited begun cut whole.symm
    obtain ⟨-, tail⟩ := List.append_inj cut' (all.length_eq.symm.trans long.symm)
    cases more with
    | nil => rfl
    | cons y more =>
      obtain ⟨rfl, -⟩ := List.cons.inj tail
      exact absurd here (stop y rfl)

end

private theorem isBroken_single {b : UInt8} {n : Nat} (begun : begin b = .inl (.invalid n)) (rest : Bytes) :
    n = 1 ∧ IsBroken [b] rest ∧ ¬ ∃ c, [b] <+: String.utf8EncodeChar c := by
  have none : ∀ c bytes, String.utf8EncodeChar c ≠ b :: bytes := by
    intro c bytes same
    rcases encodeChar_cases c with ⟨d, whole, single⟩ | ⟨d, p, after, whole, several, -⟩
    · obtain ⟨rfl, -⟩ := List.cons.inj (whole.symm.trans same)
      cases begun.symm.trans single
    · obtain ⟨rfl, -⟩ := List.cons.inj (whole.symm.trans same)
      cases begun.symm.trans several
  have nothing : ∀ c bytes, ¬ b :: bytes <+: String.utf8EncodeChar c := by
    rintro c bytes ⟨after, whole⟩
    exact none c _ whole.symm
  refine ⟨?_, ⟨List.cons_ne_nil b [], .inl rfl, ?_, fun c more _ begins => absurd begins (nothing c more)⟩,
    fun ⟨c, begins⟩ => nothing c [] begins⟩
  · rw [begin_eq] at begun
    split_ifs at begun <;> simp_all
  · rintro c ⟨after, whole⟩
    obtain ⟨d, bytes, same⟩ := List.exists_cons_of_ne_nil (String.utf8EncodeChar_ne_nil (c := c))
    rw [same] at whole
    obtain ⟨rfl, -⟩ := List.cons.inj whole
    exact none c bytes same

private theorem encodeChar_single {b : UInt8} {c : Char} (begun : begin b = .inl (.scalar c)) :
    String.utf8EncodeChar c = [b] := by
  rw [begin_eq] at begun
  split_ifs at begun with one
  · obtain rfl := Segment.scalar.inj (Sum.inl.inj begun)
    have same := toNat_val_ofNat (n := b.toNat) (by simp only [Nat.isValidChar]; omega)
    simp only [String.utf8EncodeChar, same]
    rw [if_pos (by omega), ofNat_eq rfl]
  all_goals cases Sum.inl.inj begun

theorem cuts_segments (bytes : Bytes) : Cuts bytes (segments bytes) := by
  suffices ∀ bytes, Cuts bytes (restOf none bytes) from this bytes
  intro bytes
  induction long : bytes.length using Nat.strong_induction_on generalizing bytes with
  | _ n ih =>
    subst long
    cases bytes with
    | nil => exact .nil
    | cons b bytes =>
      have shorter (rest : Bytes) (inside : rest.length ≤ bytes.length) : Cuts rest (restOf none rest) :=
        ih rest.length (Nat.lt_succ_of_le inside) rest rfl
      cases begun : begin b with
      | inl s =>
        rw [restOf_inl begun]
        have later := shorter bytes (Nat.le_refl _)
        cases s with
        | scalar c =>
          have whole := Cuts.scalar (c := c) later
          rwa [encodeChar_single begun] at whole
        | invalid n =>
          obtain ⟨rfl, broken, nothing⟩ := isBroken_single begun bytes
          exact .invalid broken (.inr nothing) later
        | truncated n =>
          rw [begin_eq] at begun
          split_ifs at begun
          all_goals cases Sum.inl.inj begun
      | inr p =>
        obtain ⟨used, awaits, -⟩ := awaits_of_begin begun
        rw [restOf_inr begun]
        rcases restOf_some p.bits p.used awaits bytes with
          ⟨later, rest, rfl, all, read⟩ | ⟨later, rest, awaited, range, others, rfl, cut, all, stop, read⟩
        · rw [read, ← List.cons_append, ← encodeChar_bitsOf begun all]
          exact .scalar (shorter rest (by simp))
        · have broken := isBroken_of_stop begun cut all stop
          rw [read, used, Nat.add_comm 1]
          split_ifs with ended
          · subst ended
            rw [List.append_nil]
            exact .truncated broken (begins_of_stop begun cut all)
          · exact .invalid broken (.inl ended) (shorter rest (by simp))

theorem cuts_iff {bytes : Bytes} {parts : List Segment} : Cuts bytes parts ↔ parts = segments bytes :=
  ⟨fun cuts => cuts.unique (cuts_segments bytes), fun same => same ▸ cuts_segments bytes⟩

theorem cuts_scalars {bytes : Bytes} {chars : List Char} :
    Cuts bytes (chars.map .scalar) ↔ encodeChars chars = bytes := by
  constructor
  · intro cuts
    induction chars generalizing bytes with
    | nil =>
      cases cuts
      rfl
    | cons c chars ih =>
      cases cuts with
      | scalar later => rw [encodeChars, List.flatMap_cons, ← encodeChars, ih later]
  · rintro rfl
    induction chars with
    | nil => exact .nil
    | cons c chars ih => exact .scalar ih

private theorem foldl_strictStep_error (parts : List Segment) (e : Error) :
    parts.foldl strictStep (.error e) = .error e := by
  induction parts with
  | nil => rfl
  | cons s parts ih => exact ih

private theorem foldl_strictStep_scalars (chars before : List Char) (offset : Nat) :
    ∃ last, (chars.map Segment.scalar).foldl strictStep (.ok (before, offset)) =
      .ok (chars.reverse ++ before, last) := by
  induction chars generalizing before offset with
  | nil => exact ⟨offset, rfl⟩
  | cons c chars ih =>
    obtain ⟨last, read⟩ := ih (c :: before) (offset + c.utf8Size)
    refine ⟨last, ?_⟩
    rw [List.map_cons, List.foldl_cons, List.reverse_cons, List.append_assoc]
    exact read

private theorem scalars_of_foldl_strictStep {parts : List Segment} {before : List Char} {offset : Nat}
    {result : List Char × Nat} (read : parts.foldl strictStep (.ok (before, offset)) = .ok result) :
    ∃ chars : List Char, parts = chars.map Segment.scalar := by
  induction parts generalizing before offset with
  | nil => exact ⟨[], rfl⟩
  | cons s parts ih =>
    rw [List.foldl_cons] at read
    cases s with
    | scalar c =>
      obtain ⟨chars, rfl⟩ := ih read
      exact ⟨c :: chars, rfl⟩
    | invalid n => cases (foldl_strictStep_error parts _).symm.trans read
    | truncated n => cases (foldl_strictStep_error parts _).symm.trans read

theorem segments_encode (text : String) : segments (encode text) = text.toList.map .scalar :=
  (cuts_iff.mp (cuts_scalars.mpr rfl)).symm

theorem decode_ok_iff {bytes : Bytes} {text : String} : decode bytes = .ok text ↔ encode text = bytes := by
  have scalars (chars : List Char) (cut : segments bytes = chars.map .scalar) :
      decode bytes = .ok (String.ofList chars) := by
    obtain ⟨last, read⟩ := foldl_strictStep_scalars chars [] 0
    simp [decode, cut, read]
  constructor
  · intro ok
    have unbroken : ∃ chars : List Char, segments bytes = chars.map .scalar := by
      unfold decode at ok
      split at ok
      · cases ok
      · next read => exact scalars_of_foldl_strictStep read
    obtain ⟨chars, cut⟩ := unbroken
    obtain rfl := Except.ok.inj ((scalars chars cut).symm.trans ok)
    rw [encode, String.toList_ofList]
    exact cuts_scalars.mp (cuts_iff.mpr cut.symm)
  · rintro rfl
    rw [scalars text.toList (segments_encode text), String.ofList_toList]

theorem decode?_eq_some_iff {bytes : Bytes} {text : String} :
    decode? bytes = some text ↔ encode text = bytes := by
  rw [← decode_ok_iff, decode?]
  cases decode bytes <;> simp [Except.toOption]

theorem decode?_eq_none_iff {bytes : Bytes} : decode? bytes = none ↔ ¬ ∃ text, encode text = bytes := by
  rw [Option.eq_none_iff_forall_ne_some, not_exists]
  exact forall_congr' fun text => not_congr decode?_eq_some_iff

def Segment.charOr (substitute : Char) : Segment → Char
  | .scalar c => c
  | .invalid _ | .truncated _ => substitute

def textOf (substitute : Char) (parts : List Segment) : String :=
  String.ofList (parts.map (Segment.charOr substitute))

theorem decodeLossy_eq (bytes : Bytes) : decodeLossy bytes = textOf replacement (segments bytes) := by
  have same : Segment.toChar = Segment.charOr replacement := by
    funext s
    cases s <;> rfl
  rw [decodeLossy, textOf, same]

theorem decodeLossy_encode (text : String) : decodeLossy (encode text) = text := by
  have same : Segment.toChar ∘ Segment.scalar = id := rfl
  rw [decodeLossy, segments_encode, List.map_map, same, List.map_id, String.ofList_toList]

end CorpusTally.Utf8
