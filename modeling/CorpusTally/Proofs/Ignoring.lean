import CorpusTally.FileFilter
import CorpusTally.Proofs.Pieces

/-!
Which paths are ignored. The names on the way of a path decide, and no text that goes across them: a directory
is passed over if it is called just as the built-in rule says, and a pattern counts if it can be read and
matches the whole. So the patterns are a set to which any may be added.
-/

namespace CorpusTally

namespace Wildcard

def IsValid (pattern : String) : Prop := ∃ tokens, parse pattern = .ok tokens

def Matches (pattern text : String) : Prop := ∃ tokens, parse pattern = .ok tokens ∧ isMatch tokens text = true

theorem Matches.isValid {pattern text : String} (found : Matches pattern text) : IsValid pattern := by
  obtain ⟨tokens, valid, -⟩ := found
  exact ⟨tokens, valid⟩

end Wildcard

namespace FileFilter

open Wildcard (IsValid Matches)

def isSlash (c : Char) : Bool := c = '/' || c = '\\'

/-- The names of a path as the filters read it: with what is no UTF-8 replaced, and either slash between two
names. The last one is that of the file. -/
def segments (path : Path) : List String := (path.display.toList.splitOnP isSlash).map String.ofList

def slashed (path : Path) : String := "/".intercalate (segments path)

variable {path : Path} {patterns others : List String}

private theorem split_slashes (cs : List Char) :
    split '/' (cs.map fun c => if c = '\\' then '/' else c) = cs.splitOnP isSlash := by
  induction cs with
  | nil => rfl
  | cons c cs ih =>
    rw [List.map_cons, split_cons, ih, List.splitOnP_cons_eq_if_modifyHead]
    obtain ⟨first, rest, pieces⟩ := List.exists_cons_of_ne_nil (List.splitOnP_ne_nil isSlash cs)
    rw [pieces, pushPiece]
    by_cases back : c = '\\'
    · simp [back, isSlash]
    · by_cases forward : c = '/'
      · simp [forward, isSlash]
      · simp [back, forward, isSlash]

theorem split_normalized (path : Path) :
    split '/' (normalized path).toList = (segments path).map String.toList := by
  rw [normalized, String.toList_ofList, split_slashes, segments, List.map_map]
  simp [Function.comp_def]

theorem normalized_eq (path : Path) : normalized path = slashed path := by
  have joined := joinPieces_split '/' (normalized path).toList
  rw [split_normalized] at joined
  apply String.toList_inj.mp
  rw [← joined, slashed, String.toList_intercalate]
  rfl

theorem hasInfix_iff {part items : List Char} : hasInfix part items = true ↔ part <:+: items := by
  induction items with
  | nil => rw [hasInfix, List.isEmpty_iff, List.infix_nil]
  | cons c items ih => rw [hasInfix, Bool.or_eq_true, ih, List.isPrefixOf_iff_prefix, List.infix_cons_iff]

/-- A directory has a name if the name stands between slashes, or in front of the first. -/
private theorem mem_dropLast_segments_iff (path : Path) {name : String} (whole : '/' ∉ name.toList) :
    name ∈ (segments path).dropLast ↔
      hasInfix ('/' :: (name.toList ++ ['/'])) (normalized path).toList = true ∨
        (name.toList ++ ['/']).isPrefixOf (normalized path).toList = true := by
  have law := mem_dropLast_split_iff whole (normalized path).toList
  rw [split_normalized, ← List.map_dropLast, List.mem_map_of_injective fun _ _ => String.toList_inj.mp] at law
  rw [law, List.isPrefixOf_iff_prefix, hasInfix_iff, or_comm]

theorem isBuiltInIgnored_iff : isBuiltInIgnored (normalized path) = true ↔
    ∃ name ∈ (segments path).dropLast, name = "target" ∨ name = ".git" := by
  have target := mem_dropLast_segments_iff path (show '/' ∉ "target".toList by decide)
  have git := mem_dropLast_segments_iff path (show '/' ∉ ".git".toList by decide)
  simp only [and_or_left, exists_or, exists_eq_right, target, git]
  simp only [isBuiltInIgnored, Bool.or_eq_true]
  rw [or_assoc]
  exact or_or_or_comm

theorem matchesAny_iff {text : String} :
    (matchesAny text patterns).1 = true ↔ ∃ pattern ∈ patterns, Matches pattern text := by
  induction patterns with
  | nil => simp [matchesAny]
  | cons pattern patterns ih =>
    rw [List.exists_mem_cons_iff, matchesAny]
    split
    · next tokens valid =>
      have here : Matches pattern text ↔ Wildcard.isMatch tokens text = true := by simp [Matches, valid]
      rw [here]
      split
      · next found => simp [found]
      · next missed => simpa [missed] using ih
    · next invalid =>
      have never : ¬ Matches pattern text := by simp [Matches, invalid]
      simpa [never] using ih

private theorem isIgnored_iff_segments : (isIgnored patterns path).1 = true ↔
    (∃ name ∈ (segments path).dropLast, name = "target" ∨ name = ".git") ∨
      ∃ pattern ∈ patterns, Matches pattern (slashed path) := by
  rw [← isBuiltInIgnored_iff, ← normalized_eq, ← matchesAny_iff, isIgnored]
  by_cases builtIn : isBuiltInIgnored (normalized path) = true
  · simp [builtIn]
  · simp [builtIn]

/-- A path is ignored exactly if a directory on its way is called just so, or a pattern that can be read matches
it. A path with no such directory is left to the patterns, whatever its names contain; all that counts of these
is which of them can be read, and more of them ignore no less. -/
theorem isIgnored_iff (path : Path) (patterns others : List String) :
    ((isIgnored patterns path).1 = true ↔
      (∃ name ∈ (segments path).dropLast, name = "target" ∨ name = ".git") ∨
        ∃ pattern ∈ patterns, Matches pattern (slashed path)) ∧
      ((∀ name ∈ (segments path).dropLast, name ≠ "target" ∧ name ≠ ".git") →
        ((isIgnored patterns path).1 = true ↔ ∃ pattern ∈ patterns, Matches pattern (slashed path))) ∧
      ((∀ pattern, IsValid pattern → (pattern ∈ patterns ↔ pattern ∈ others)) →
        (isIgnored patterns path).1 = (isIgnored others path).1) ∧
      (patterns ⊆ others → (isIgnored patterns path).1 = true → (isIgnored others path).1 = true) := by
  refine ⟨isIgnored_iff_segments, fun unnamed => ?_, fun same => ?_, fun more ignored => ?_⟩
  · rw [isIgnored_iff_segments]
    apply or_iff_right
    rintro ⟨name, mem, called⟩
    exact called.elim (unnamed name mem).1 (unnamed name mem).2
  · rw [Bool.eq_iff_iff, isIgnored_iff_segments, isIgnored_iff_segments]
    refine or_congr_right (exists_congr fun pattern => ?_)
    constructor
    · rintro ⟨mem, found⟩
      exact ⟨(same pattern found.isValid).mp mem, found⟩
    · rintro ⟨mem, found⟩
      exact ⟨(same pattern found.isValid).mpr mem, found⟩
  · rw [isIgnored_iff_segments] at ignored ⊢
    refine ignored.imp_right ?_
    rintro ⟨pattern, mem, found⟩
    exact ⟨pattern, more mem, found⟩

/-- Names that only contain the reserved ones, and a list with a pattern that cannot be read. -/
theorem isIgnored_near_reserved :
    (∃ pattern ∈ ["[", "**/*.bak"], ¬ IsValid pattern) ∧
      segments (.ofString ".github\\targets/target") = [".github", "targets", "target"] ∧
      (isIgnored ["[", "**/*.bak"] (.ofString ".github\\targets/target")).1 = false ∧
      (isIgnored ["**/*.bak", "**/*.bak"] (.ofString ".github\\targets/b.bak")).1 = true ∧
      (isIgnored ["*.md", "[", "**/*.bak"] (.ofString ".github\\targets/b.bak")).1 = true := by
  have unread : ¬ IsValid "[" := by
    rintro ⟨tokens, valid⟩
    cases valid
  have names : segments (.ofString ".github\\targets/target") = [".github", "targets", "target"] := by
    decide +kernel
  have backup : Matches "**/*.bak" (slashed (.ofString ".github\\targets/b.bak")) :=
    ⟨_, rfl, by decide +kernel⟩
  obtain ⟨-, near, -⟩ := isIgnored_iff (.ofString ".github\\targets/target") ["[", "**/*.bak"] []
  obtain ⟨found, -, same, -⟩ := isIgnored_iff (.ofString ".github\\targets/b.bak") ["[", "**/*.bak"]
    ["**/*.bak", "**/*.bak"]
  refine ⟨⟨"[", by simp, unread⟩, names, ?_, ?_, ?_⟩
  · rw [Bool.eq_false_iff, Ne, near (by rw [names]; decide)]
    rintro ⟨pattern, mem, matched⟩
    obtain rfl | rfl := by simpa using mem
    · exact unread matched.isValid
    · obtain ⟨tokens, valid, matched⟩ := matched
      cases valid
      revert matched
      decide +kernel
  · rw [← same]
    · exact found.mpr (.inr ⟨"**/*.bak", by simp, backup⟩)
    · intro pattern valid
      have other : pattern ≠ "[" := fun same => unread (same ▸ valid)
      simp [other]
  · obtain ⟨-, -, -, more⟩ := isIgnored_iff (.ofString ".github\\targets/b.bak") ["[", "**/*.bak"]
      ["*.md", "[", "**/*.bak"]
    exact more (by simp) (found.mpr (.inr ⟨"**/*.bak", by simp, backup⟩))

end FileFilter

end CorpusTally
