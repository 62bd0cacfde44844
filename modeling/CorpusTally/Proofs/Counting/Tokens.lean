import CorpusTally.Chunk
import CorpusTally.Proofs.Pieces
import CorpusTally.Stage
import Mathlib.Data.String.Basic

/-!
The tokens of a text are those of its lines, one line after the other, so that cutting the text between
lines loses none of them and makes no new ones.
-/

namespace CorpusTally

private theorem push_blank {c : Char} (blank : Unicode.isBlank c = true) (w : Words) :
    w.push c = { later := w.toList } := by
  obtain ⟨first, later⟩ := w
  cases first <;> simp [Words.push, Words.toList, blank]

private theorem foldr_push_later (cs : List Char) (later : List String) :
    cs.foldr Words.push { later := later } =
      { cs.foldr Words.push {} with later := (cs.foldr Words.push {}).later ++ later } := by
  induction cs with
  | nil => rfl
  | cons c cs ih =>
    rw [List.foldr_cons, ih, List.foldr_cons]
    generalize cs.foldr Words.push {} = w
    obtain ⟨first, done⟩ := w
    cases first <;> by_cases blank : Unicode.isBlank c <;> simp [Words.push, blank]

private theorem words_append_blank (before after : List Char) {c : Char}
    (blank : Unicode.isBlank c = true) :
    ((before ++ c :: after).foldr Words.push {}).toList =
      (before.foldr Words.push {}).toList ++ (after.foldr Words.push {}).toList := by
  rw [List.foldr_append, List.foldr_cons, push_blank blank, foldr_push_later]
  generalize before.foldr Words.push {} = w
  obtain ⟨first, later⟩ := w
  cases first <;> simp [Words.toList]

private theorem tokens_eq (text : String) :
    tokens text =
      (((text.toList.map foldCase).map blankOut).foldr Words.push {}).toList := by
  simp [tokens, splitBlanks, stripText, foldText]

theorem tokens_empty : tokens "" = [] := by decide

theorem isBlank_blankOut {c : Char} (other : Unicode.isAlphanumeric c = false) :
    Unicode.isBlank (blankOut c) = true := by
  cases blank : Unicode.isBlank c with
  | true => simp [blankOut, blank]
  | false =>
    have space : blankOut c = ' ' := by simp [blankOut, other, blank]
    rw [space]
    decide

/-- The tokens of a text are those of its parts on the two sides of a character that folds to no letter or
digit. -/
theorem tokens_append_separator (before after : List Char) {c : Char}
    (separates : Unicode.isAlphanumeric (foldCase c) = false) :
    tokens (String.ofList (before ++ c :: after)) =
      tokens (String.ofList before) ++ tokens (String.ofList after) := by
  simp only [tokens_eq, String.toList_ofList, List.map_append, List.map_cons]
  exact words_append_blank _ _ (isBlank_blankOut separates)

theorem tokens_joinLines (pieces : List String) :
    tokens (joinLines pieces) = pieces.flatMap tokens := by
  induction pieces with
  | nil => exact tokens_empty
  | cons first rest ih =>
    cases rest with
    | nil => simp [joinLines, joinPieces]
    | cons second rest =>
      have parts : joinLines (first :: second :: rest) =
          String.ofList (first.toList ++ '\n' :: (joinLines (second :: rest)).toList) := by
        simp [joinLines, joinPieces]
      rw [parts, tokens_append_separator _ _ (by decide), String.ofList_toList, String.ofList_toList, ih]
      rfl

namespace Chunk

theorem flatMap_groups (size index : Nat) {counters : Nat} (some : 0 < counters)
    (all : List String) : (groups size counters index all).flatMap (·.2) = all := by
  induction counters generalizing index all with
  | zero => omega
  | succ left ih =>
    cases all with
    | nil => simp [groups]
    | cons line more =>
      cases left with
      | zero => simp [groups]
      | succ left =>
        rw [groups, List.flatMap_cons, ih (index + 1) (by omega), List.take_append_drop]

/-- The chunks of a text have exactly its tokens, in their order. -/
theorem flatMap_tokens (text : String) (counters : Nat) :
    (ofText text counters).flatMap (fun chunk => tokens chunk.text) = tokens text := by
  have harmless : ∀ chunks : List Chunk,
      (chunks.filter fun chunk => chunk.text ≠ "").flatMap (fun chunk => tokens chunk.text) =
        chunks.flatMap fun chunk => tokens chunk.text := by
    intro chunks
    induction chunks with
    | nil => rfl
    | cons chunk chunks ih =>
      by_cases nothing : chunk.text = ""
      · simpa [nothing, tokens_empty] using ih
      · simpa [nothing] using ih
  have grouped : ∀ groups : List (Nat × List String),
      (groups.map fun group => (⟨group.1, joinLines group.2⟩ : Chunk)).flatMap
        (fun chunk => tokens chunk.text) = (groups.flatMap (·.2)).flatMap tokens := by
    intro groups
    induction groups with
    | nil => rfl
    | cons group groups ih =>
      simp only [List.map_cons, List.flatMap_cons, List.flatMap_append, tokens_joinLines, ih]
  rw [ofText, harmless, grouped, flatMap_groups _ _ (by omega), ← tokens_joinLines,
    joinLines_lines]

theorem flatMap_keptTokens (set : StopwordSet) (text : String) (counters : Nat) :
    (ofText text counters).flatMap (fun chunk => keptTokens set chunk.text) =
      keptTokens set text := by
  unfold keptTokens
  rw [← List.filter_flatMap, flatMap_tokens]

end Chunk

private theorem length_words_le (cs : List Char) :
    (cs.foldr Words.push {}).first.length + (cs.foldr Words.push {}).later.length ≤ cs.length := by
  induction cs with
  | nil => simp
  | cons c cs ih =>
    rw [List.foldr_cons]
    generalize cs.foldr Words.push {} = w at ih
    obtain ⟨first, later⟩ := w
    cases first <;> by_cases blank : Unicode.isBlank c <;> simp [Words.push, blank] at ih ⊢ <;>
      omega

theorem length_tokens_le (text : String) : (tokens text).length ≤ text.toList.length := by
  have bound := length_words_le ((text.toList.map foldCase).map blankOut)
  rw [List.length_map, List.length_map] at bound
  rw [tokens_eq]
  generalize ((text.toList.map foldCase).map blankOut).foldr Words.push {} = w at bound
  obtain ⟨first, later⟩ := w
  cases first <;> simp [Words.toList] at bound ⊢ <;> omega

theorem length_keptTokens_le (set : StopwordSet) (text : String) :
    (keptTokens set text).length ≤ (tokens text).length := List.length_filter_le _ _

theorem length_toList_le (text : String) : text.toList.length ≤ text.utf8ByteSize := by
  have bound : ∀ cs : List Char, cs.length ≤ String.utf8Len cs := by
    intro cs
    induction cs with
    | nil => simp
    | cons c cs ih =>
      have one := c.utf8Size_pos
      simp only [List.length_cons, String.utf8Len_cons]
      omega
  have size := bound text.toList
  rwa [← String.utf8ByteSize_ofList, String.ofList_toList] at size

theorem length_keptTokens_le_size (set : StopwordSet) (text : String) :
    (keptTokens set text).length ≤ text.utf8ByteSize :=
  calc (keptTokens set text).length
    _ ≤ (tokens text).length := length_keptTokens_le set text
    _ ≤ text.toList.length := length_tokens_le text
    _ ≤ text.utf8ByteSize := length_toList_le text

theorem count_keptTokens (set : StopwordSet) (text word : String) :
    (keptTokens set text).count word =
      if set.contains word then 0 else (tokens text).count word := by
  unfold keptTokens
  by_cases listed : set.contains word
  · rw [if_pos listed]
    exact List.count_eq_zero_of_not_mem fun mem => by simp [listed] at mem
  · rw [if_neg listed]
    exact List.count_filter (by simpa using listed)

end CorpusTally
