import CorpusTally.Decoding

/-!
A text has no more characters than the bytes it is read from, whether they are valid or replaced.
-/

namespace CorpusTally

namespace Utf8

private def Reader.size (r : Reader) : Nat := r.done.length + (if r.open?.isSome then 1 else 0)

private theorem size_restart (done : List Segment) (b : UInt8) :
    Reader.size (Reader.restart { done := done } b) = done.length + 1 := by
  unfold Reader.restart
  cases begin b <;> simp [Reader.size]

private theorem size_feed (r : Reader) (b : UInt8) : (r.feed b).size ≤ r.size + 1 := by
  obtain ⟨done, pending⟩ := r
  unfold Reader.feed
  cases pending with
  | none =>
    have begun := size_restart done b
    simp only [Reader.size] at begun ⊢
    omega
  | some p =>
    obtain ⟨bits, used, expects⟩ := p
    cases expects with
    | nil =>
      have begun := size_restart done b
      simp only [Reader.size, Option.isSome_some, if_true] at begun ⊢
      omega
    | cons range more =>
      obtain ⟨lo, hi⟩ := range
      have begun := size_restart (.invalid used :: done) b
      by_cases fits : (decide (lo ≤ b) && decide (b ≤ hi)) = true
      · cases more <;> simp [fits, Reader.size]
      · simp only [fits, if_false, Bool.false_eq_true, Reader.size, Option.isSome_some, if_true,
          List.length_cons] at begun ⊢
        omega

theorem length_segments_le (bytes : Bytes) : (segments bytes).length ≤ bytes.length := by
  have fed : ∀ (bytes : Bytes) (r : Reader),
      (bytes.foldl Reader.feed r).size ≤ r.size + bytes.length := by
    intro bytes
    induction bytes with
    | nil => exact fun r => Nat.le_refl _
    | cons b bytes ih =>
      intro r
      have first := size_feed r b
      have rest := ih (r.feed b)
      rw [List.foldl_cons, List.length_cons]
      omega
  have finished : ∀ r : Reader, r.finish.length = r.size := by
    intro r
    obtain ⟨done, pending⟩ := r
    cases pending <;> simp [Reader.finish, Reader.size]
  have whole := fed bytes {}
  rw [← finished] at whole
  simpa [Reader.size, segments] using whole

private theorem length_strict (segments : List Segment) {before after : List Char} {offset last : Nat}
    (ok : segments.foldl strictStep (.ok (before, offset)) = .ok (after, last)) :
    after.length = before.length + segments.length := by
  have stuck : ∀ (segments : List Segment) (e : Error),
      segments.foldl strictStep (.error e) = .error e := by
    intro segments e
    induction segments with
    | nil => rfl
    | cons s segments ih => exact ih
  induction segments generalizing before offset with
  | nil =>
    obtain ⟨rfl, -⟩ := Prod.mk.inj (Except.ok.inj ok)
    rfl
  | cons s segments ih =>
    rw [List.foldl_cons] at ok
    cases s with
    | scalar c =>
      rw [ih ok, List.length_cons, List.length_cons]
      omega
    | invalid n =>
      have broken := (stuck segments _).symm.trans ok
      cases broken
    | truncated n =>
      have broken := (stuck segments _).symm.trans ok
      cases broken

theorem length_decode_le {bytes : Bytes} {text : String} (ok : decode bytes = .ok text) :
    text.toList.length ≤ bytes.length := by
  unfold decode at ok
  split at ok
  · cases ok
  · next cs offset read =>
    obtain rfl := Except.ok.inj ok
    have same := length_strict (segments bytes) read
    have bound := length_segments_le bytes
    simp only [String.toList_ofList, List.length_reverse, List.length_nil] at same ⊢
    omega

theorem length_decodeLossy_le (bytes : Bytes) :
    (decodeLossy bytes).toList.length ≤ bytes.length := by
  simpa [decodeLossy] using length_segments_le bytes

end Utf8

theorem Decoding.length_decode_le {mode : Decoding} {path : Path} {bytes : Utf8.Bytes}
    {text : String} {events : Log} (ok : mode.decode path bytes = .ok (text, events)) :
    text.toList.length ≤ bytes.length := by
  unfold decode at ok
  split at ok
  · next valid =>
    obtain ⟨rfl, -⟩ := Prod.mk.inj (Except.ok.inj ok)
    exact Utf8.length_decode_le valid
  · cases ok
  · obtain ⟨rfl, -⟩ := Prod.mk.inj (Except.ok.inj ok)
    exact Utf8.length_decodeLossy_le bytes

end CorpusTally
