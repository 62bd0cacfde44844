import CorpusTally.Split
import Mathlib.Data.List.Basic

/-!
Cutting at a separator and putting together undo each other: a list is what its pieces are put together to,
and pieces without a separator come out as they were put in. The lines of a text are such pieces.
-/

namespace CorpusTally

section

variable {α : Type} [DecidableEq α]

theorem split_append (separator : α) (before after : List α) :
    split separator (before ++ separator :: after) =
      split separator before ++ split separator after := by
  induction before with
  | nil => simp [split, pushPiece]
  | cons item before ih =>
    rw [List.cons_append, split_cons, ih, split_cons]
    obtain ⟨first, rest, pieces⟩ := List.exists_cons_of_ne_nil (split_ne_nil separator before)
    simp only [pieces, pushPiece]
    split <;> rfl

theorem split_of_not_mem {separator : α} {items : List α} (absent : separator ∉ items) :
    split separator items = [items] := by
  induction items with
  | nil => rfl
  | cons item items ih =>
    have other : item ≠ separator := fun same => absent (same ▸ List.mem_cons_self)
    have later : separator ∉ items := fun mem => absent (List.mem_cons_of_mem _ mem)
    rw [split_cons, ih later, pushPiece, if_neg other]

theorem split_append_of_not_mem {separator : α} {items after last : List α} {before : List (List α)}
    (absent : separator ∉ after) (pieces : split separator items = before ++ [last]) :
    split separator (items ++ after) = before ++ [last ++ after] := by
  induction items generalizing before last with
  | nil =>
    obtain ⟨rfl, rfl⟩ : before = [] ∧ last = [] := by simpa [split, List.cons_eq_append_iff] using pieces
    exact split_of_not_mem absent
  | cons item items ih =>
    rcases List.eq_nil_or_concat' (split separator items) with none | ⟨others, piece, later⟩
    · exact absurd none (split_ne_nil separator items)
    · rw [List.cons_append, split_cons, ih later]
      rw [split_cons, later] at pieces
      unfold pushPiece at pieces ⊢
      split at pieces
      · next same =>
        rw [if_pos same]
        have pieces : ([] :: others) ++ [piece] = before ++ [last] := pieces
        obtain ⟨rfl, same⟩ := List.append_inj' pieces rfl
        obtain rfl := List.singleton_inj.mp same
        rfl
      · next other =>
        rw [if_neg other]
        cases others with
        | nil =>
          obtain ⟨rfl, rfl⟩ : before = [] ∧ last = item :: piece := by
            simpa [List.cons_eq_append_iff] using pieces
          rfl
        | cons first others =>
          have pieces : ((item :: first) :: others) ++ [piece] = before ++ [last] := pieces
          obtain ⟨rfl, same⟩ := List.append_inj' pieces rfl
          obtain rfl := List.singleton_inj.mp same
          rfl

theorem not_mem_of_mem_split {separator : α} {items piece : List α}
    (mem : piece ∈ split separator items) : separator ∉ piece := by
  induction items generalizing piece with
  | nil =>
    rw [List.mem_singleton.mp mem]
    exact List.not_mem_nil
  | cons item items ih =>
    obtain ⟨first, rest, pieces⟩ := List.exists_cons_of_ne_nil (split_ne_nil separator items)
    rw [pieces] at ih
    rw [split_cons, pieces, pushPiece] at mem
    split at mem
    · rcases List.mem_cons.mp mem with rfl | older
      · exact List.not_mem_nil
      · exact ih older
    · next other =>
      rcases List.mem_cons.mp mem with rfl | older
      · rw [List.mem_cons, not_or]
        exact ⟨Ne.symm other, ih List.mem_cons_self⟩
      · exact ih (List.mem_cons_of_mem _ older)

theorem split_joinPieces {separator : α} {pieces : List (List α)} (some : pieces ≠ [])
    (absent : ∀ piece ∈ pieces, separator ∉ piece) :
    split separator (joinPieces separator pieces) = pieces := by
  induction pieces with
  | nil => contradiction
  | cons first rest ih =>
    have alone := split_of_not_mem (absent first List.mem_cons_self)
    cases rest with
    | nil =>
      have joined : joinPieces separator [first] = first := by simp [joinPieces]
      rw [joined, alone]
    | cons second rest =>
      have joined : joinPieces separator (first :: second :: rest) =
          first ++ separator :: joinPieces separator (second :: rest) := by simp [joinPieces]
      have later := ih (by simp) fun piece mem => absent piece (List.mem_cons_of_mem _ mem)
      rw [joined, split_append, alone, later, List.singleton_append]

omit [DecidableEq α] in
theorem joinPieces_append (separator : α) {before after : List (List α)} (some : before ≠ [])
    (more : after ≠ []) : joinPieces separator (before ++ after) =
      joinPieces separator before ++ separator :: joinPieces separator after := by
  induction before with
  | nil => contradiction
  | cons first rest ih =>
    cases rest with
    | nil =>
      obtain ⟨second, later, rfl⟩ := List.exists_cons_of_ne_nil more
      simp [joinPieces]
    | cons second rest =>
      have later := ih (by simp)
      simp only [joinPieces, List.cons_append, List.intersperse_cons_cons, List.flatten_cons,
        List.append_assoc] at later ⊢
      rw [later]

/-- A piece that others follow has a separator behind it, and one in front of it unless it is the first. -/
theorem mem_dropLast_split_iff {separator : α} {piece : List α} (whole : separator ∉ piece) (items : List α) :
    piece ∈ (split separator items).dropLast ↔
      piece ++ [separator] <+: items ∨ separator :: (piece ++ [separator]) <:+: items := by
  constructor
  · intro mem
    obtain ⟨before, after, pieces⟩ := List.append_of_mem mem
    obtain ⟨front, last, same⟩ := (List.eq_nil_or_concat' (split separator items)).resolve_left
      (split_ne_nil separator items)
    rw [same, List.dropLast_concat] at pieces
    have joined := joinPieces_split separator items
    rw [same, pieces, List.append_assoc, List.cons_append] at joined
    have behind : joinPieces separator (piece :: (after ++ [last])) =
        piece ++ separator :: joinPieces separator (after ++ [last]) := by
      have cut := joinPieces_append separator (List.cons_ne_nil piece [])
        (List.concat_ne_nil last after)
      simpa [joinPieces] using cut
    rcases List.eq_nil_or_concat' before with rfl | ⟨others, other, rfl⟩
    · left
      rw [← joined, List.nil_append, behind]
      exact ⟨joinPieces separator (after ++ [last]), by simp⟩
    · right
      rw [← joined, joinPieces_append separator (by simp) (by simp), behind]
      exact ⟨joinPieces separator (others ++ [other]), joinPieces separator (after ++ [last]), by simp⟩
  · rintro (⟨behind, rfl⟩ | ⟨front, behind, rfl⟩)
    · have pieces : split separator (piece ++ [separator] ++ behind) = piece :: split separator behind := by
        rw [List.append_assoc, List.singleton_append, split_append, split_of_not_mem whole,
          List.singleton_append]
      rw [pieces, List.dropLast_cons_of_ne_nil (split_ne_nil separator behind)]
      exact List.mem_cons_self
    · have pieces : split separator (front ++ separator :: (piece ++ [separator]) ++ behind) =
          split separator front ++ piece :: split separator behind := by
        rw [List.append_assoc, List.cons_append, List.append_assoc, List.singleton_append, split_append,
          split_append, split_of_not_mem whole, List.singleton_append]
      rw [pieces, List.dropLast_append_of_ne_nil (by simp),
        List.dropLast_cons_of_ne_nil (split_ne_nil separator behind)]
      exact List.mem_append_right _ List.mem_cons_self

theorem length_split_le (separator : α) (items : List α) :
    (split separator items).length ≤ items.length + 1 := by
  induction items with
  | nil => simp [split]
  | cons item items ih =>
    rw [split_cons, List.length_cons]
    unfold pushPiece
    split
    · rw [List.length_cons]
      omega
    · split
      · simp
      · next first rest pieces =>
        rw [pieces] at ih
        simpa using Nat.le_succ_of_le ih

end

theorem joinLines_lines (text : String) : joinLines (lines text) = text := by
  have pieces : (lines text).map String.toList = split '\n' text.toList := by
    simp [lines, Function.comp_def]
  rw [joinLines, pieces, joinPieces_split, String.ofList_toList]

theorem newline_not_mem_of_mem_lines {text line : String} (mem : line ∈ lines text) :
    '\n' ∉ line.toList := by
  obtain ⟨piece, among, rfl⟩ := List.mem_map.mp mem
  rw [String.toList_ofList]
  exact not_mem_of_mem_split among

theorem lines_joinLines {group : List String} (some : group ≠ [])
    (whole : ∀ line ∈ group, '\n' ∉ line.toList) : lines (joinLines group) = group := by
  have pieces : split '\n' (joinPieces '\n' (group.map String.toList)) = group.map String.toList := by
    apply split_joinPieces
    · simpa using some
    · intro piece mem
      obtain ⟨line, among, rfl⟩ := List.mem_map.mp mem
      exact whole line among
  rw [lines, joinLines, String.toList_ofList, pieces, List.map_map]
  simp [Function.comp_def]

theorem eq_singleton_of_joinLines_eq_empty {group : List String} (some : group ≠ [])
    (nothing : joinLines group = "") : group = [""] := by
  rw [joinLines, String.ofList_eq_empty_iff] at nothing
  match group with
  | [line] =>
    have empty : line.toList = [] := by simpa [joinPieces] using nothing
    rw [String.toList_eq_nil_iff.mp empty]
  | first :: second :: rest => simp [joinPieces] at nothing

end CorpusTally
