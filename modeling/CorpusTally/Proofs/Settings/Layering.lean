import CorpusTally.Proofs.Settings.Precedence

/-!
Settings laid over settings. How layers are grouped does not matter, the defaults cover nothing, and a layer
covers what it covers once and for all.
-/

namespace CorpusTally

theorem Path.same_symm {a b : Path} (same : a.same b = true) : b.same a = true := by
  rw [Path.same, decide_eq_true_eq] at same ⊢
  exact same.symm

namespace Settings

theorem sameOptionalPath_symm {a b : Option Path} (same : sameOptionalPath a b = true) :
    sameOptionalPath b a = true := by
  cases a with
  | none => cases b with
    | none => rfl
    | some path => cases same
  | some path => cases b with
    | none => cases same
    | some other => exact Path.same_symm same

section

variable {α : Type} (isDefault : α → Bool)

theorem cover_assoc (a b c : α) :
    cover isDefault (cover isDefault a b) c = cover isDefault a (cover isDefault b c) := by
  by_cases hidden : isDefault c = true
  · simp [cover, hidden]
  · simp [cover, hidden]

theorem cover_default {default : α} (usual : isDefault default = true) (lower : α) :
    cover isDefault lower default = lower := by
  rw [cover, if_pos usual]

theorem cover_self (a : α) : cover isDefault a a = a := by
  unfold cover
  split <;> rfl

/-- Over the default, a value that counts as the default gives way to what is the same. -/
theorem cover_same (same : α → α → Prop) (refl : ∀ a, same a a) {default : α}
    (alike : ∀ a, isDefault a = true → same default a) (upper : α) :
    same (cover isDefault default upper) upper := by
  unfold cover
  split
  · next hidden => exact alike upper hidden
  · exact refl upper

end

theorem cover_eq {α : Type} [BEq α] [LawfulBEq α] (default upper : α) :
    cover (· == default) default upper = upper :=
  cover_same _ Eq (fun _ => rfl) (fun _ usual => (beq_iff_eq.mp usual).symm) upper

theorem merge_assoc (lower a b : Settings) : (lower.merge a).merge b = lower.merge (a.merge b) := by
  simp only [merge, cover_assoc]

theorem merge_default (s : Settings) : s.merge {} = s := by
  have path (p : Path) : p.same p = true := decide_eq_true rfl
  simp only [merge, cover_default, path, sameOptionalPath_refl, beq_self_eq_true, List.isEmpty_nil,
    Option.isNone_none]

theorem merge_self (s : Settings) : s.merge s = s := by
  simp only [merge, cover_self]

theorem default_merge (s : Settings) : (({} : Settings).merge s).Same s where
  rootPath := by
    apply cover_same (Path.same · ({} : Settings).rootPath) fun a b => a.same b = true
    · exact fun path => decide_eq_true rfl
    · exact fun path usual => Path.same_symm usual
  fileExtensions := cover_eq _ s.fileExtensions
  ignorePatterns := by
    apply cover_same List.isEmpty Eq
    · exact fun _ => rfl
    · exact fun patterns usual => (List.isEmpty_iff.mp usual).symm
  workerCount := cover_eq _ s.workerCount
  counterCount := cover_eq _ s.counterCount
  stopwordsPath := by
    apply cover_same (sameOptionalPath · ({} : Settings).stopwordsPath) fun a b => sameOptionalPath a b = true
    · exact sameOptionalPath_refl
    · exact fun path usual => sameOptionalPath_symm usual
  decoding := cover_eq _ s.decoding
  logLevel := cover_eq _ s.logLevel
  outputPath := by
    apply cover_same (·.isNone) fun a b => sameOptionalPath a b = true
    · exact sameOptionalPath_refl
    · intro path usual
      rw [Option.isNone_iff_eq_none.mp usual]
      rfl
  statsOnly := cover_eq _ s.statsOnly

/-- Layers may be grouped in any way. The defaults are neutral on top, and at the bottom up to the spelling of
paths; a layer that is laid over twice is as good as once. -/
theorem layering_laws (lower a b : Settings) :
    (lower.merge a).merge b = lower.merge (a.merge b) ∧
    lower.merge {} = lower ∧
    (({} : Settings).merge lower).Same lower ∧
    (lower.merge a).merge a = lower.merge a := by
  refine ⟨merge_assoc lower a b, merge_default lower, default_merge lower, ?_⟩
  rw [merge_assoc, merge_self]

end Settings

end CorpusTally
