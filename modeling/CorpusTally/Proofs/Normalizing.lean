import CorpusTally.Proofs.Counting.InTurn
import CorpusTally.Proofs.Stopwords

/-!
What tokenizing makes of a text: words of small letters and digits. Such words are their own tokens, so that
a second pass over them changes nothing.
-/

namespace CorpusTally

open Unicode

namespace Words

structure MadeOf (kind : Char → Prop) (w : Words) : Prop where
  first : ∀ c ∈ w.first, kind c
  later : ∀ word ∈ w.later, word ≠ "" ∧ ∀ c ∈ word.toList, kind c

variable {kind : Char → Prop} {w : Words}

theorem MadeOf.closed (made : w.MadeOf kind) :
    ∀ word ∈ w.toList, word ≠ "" ∧ ∀ c ∈ word.toList, kind c := by
  obtain ⟨first, later⟩ := w
  cases first with
  | nil => exact made.later
  | cons c rest =>
    intro word mem
    rcases List.mem_cons.mp mem with rfl | older
    · refine ⟨by simp, fun d inside => ?_⟩
      rw [String.toList_ofList] at inside
      exact made.first d inside
    · exact made.later word older

theorem MadeOf.push (made : w.MadeOf kind) {c : Char} (fits : isBlank c = false → kind c) :
    (w.push c).MadeOf kind := by
  have closed := made.closed
  cases blank : isBlank c with
  | true =>
    obtain ⟨first, later⟩ := w
    cases first with
    | nil => simpa [Words.push, blank] using made
    | cons d rest =>
      simp only [Words.push, blank, if_true]
      exact ⟨by simp, closed⟩
  | false =>
    rw [Words.push, if_neg (by simp [blank])]
    refine ⟨fun d mem => ?_, made.later⟩
    rcases List.mem_cons.mp mem with rfl | older
    · exact fits blank
    · exact made.first d older

theorem MadeOf.of_foldr {cs : List Char} (fits : ∀ c ∈ cs, isBlank c = false → kind c) :
    (cs.foldr Words.push {}).MadeOf kind := by
  induction cs with
  | nil => exact ⟨by simp, by simp⟩
  | cons c cs ih =>
    apply MadeOf.push
    · exact ih fun d mem => fits d (List.mem_cons_of_mem c mem)
    · exact fits c List.mem_cons_self

end Words

/-- A word of letters and digits that folding leaves as they are. -/
structure IsNormalWord (word : String) : Prop where
  nonempty : word ≠ ""
  letters : ∀ c ∈ word.toList, isAlphanumeric c = true
  folded : ∀ c ∈ word.toList, foldCase c = c

theorem isNormalWord_of_mem_tokens {text word : String} (mem : word ∈ tokens text) :
    IsNormalWord word := by
  have stays (c : Char) (kept : isBlank (blankOut (foldCase c)) = false) :
      isAlphanumeric (blankOut (foldCase c)) = true ∧
        foldCase (blankOut (foldCase c)) = blankOut (foldCase c) := by
    cases letter : isAlphanumeric (foldCase c) with
    | true =>
      have same : blankOut (foldCase c) = foldCase c := by simp [blankOut, letter]
      rw [same]
      exact ⟨letter, foldCase_foldCase c⟩
    | false =>
      rw [isBlank_blankOut letter] at kept
      cases kept
  have made : (((foldText text).toList.map blankOut).foldr Words.push {}).MadeOf
      fun c => isAlphanumeric c = true ∧ foldCase c = c := by
    apply Words.MadeOf.of_foldr
    intro d among kept
    simp only [foldText, String.toList_ofList, List.mem_map] at among
    obtain ⟨-, ⟨c, -, rfl⟩, rfl⟩ := among
    exact stays c kept
  rw [tokens, splitBlanks, stripText, String.toList_ofList] at mem
  obtain ⟨nonempty, characters⟩ := made.closed word mem
  exact ⟨nonempty, fun c inside => (characters c inside).1, fun c inside => (characters c inside).2⟩

theorem IsNormalWord.tokens_eq {word : String} (normal : IsNormalWord word) : tokens word = [word] := by
  have same : word.toList.map foldCase = word.toList.map id := List.map_congr_left normal.folded
  rw [tokens_of_alphanumeric normal.letters normal.nonempty, foldText, same, List.map_id,
    String.ofList_toList]

/-- Words in their normal form come back from a text that has them with a space between each two. -/
theorem tokens_intercalate {words : List String} (normal : ∀ word ∈ words, IsNormalWord word) :
    tokens (" ".intercalate words) = words := by
  induction words with
  | nil => exact tokens_empty
  | cons first rest ih =>
    have alone := (normal first List.mem_cons_self).tokens_eq
    cases rest with
    | nil => rw [String.intercalate_singleton, alone]
    | cons second rest =>
      have later := ih fun word mem => normal word (List.mem_cons_of_mem first mem)
      have parts : " ".intercalate (first :: second :: rest) =
          String.ofList (first.toList ++ ' ' :: (" ".intercalate (second :: rest)).toList) := by
        rw [String.intercalate_cons_cons, ← String.toList_inj]
        simp
      rw [parts, tokens_append_separator _ _ (by decide), String.ofList_toList, String.ofList_toList,
        alone, later]
      rfl

theorem isNormalWord_of_mem_keptTokens {set : StopwordSet} {text word : String}
    (mem : word ∈ keptTokens set text) : IsNormalWord word ∧ set.contains word = false := by
  obtain ⟨among, kept⟩ := List.mem_filter.mp mem
  exact ⟨isNormalWord_of_mem_tokens among, by simpa using kept⟩

theorem keptTokens_intercalate (set : StopwordSet) (text : String) :
    keptTokens set (" ".intercalate (keptTokens set text)) = keptTokens set text := by
  have again : tokens (" ".intercalate (keptTokens set text)) = keptTokens set text := by
    apply tokens_intercalate
    intro word mem
    exact (isNormalWord_of_mem_keptTokens mem).1
  rw [keptTokens, again, List.filter_eq_self]
  intro word mem
  simp [(isNormalWord_of_mem_keptTokens mem).2]

namespace Tokenizer

variable {read : ReadFile} {set : StopwordSet} {t u : Tokenizer}

/-- The words of a text are in their normal form and none is on the list. Written down with spaces between
them they are the words of that text too, for every tokenizer with the same list. -/
theorem inline_normalizes (first : t.Serves read set) (second : u.Serves read set) (text : String) :
    (∀ word ∈ (t.inline read text).1, IsNormalWord word ∧ set.contains word = false) ∧
      (u.inline read (" ".intercalate (t.inline read text).1)).1 = (t.inline read text).1 := by
  obtain ⟨words, -⟩ := inline_eq first text
  rw [words, (inline_eq second _).1]
  exact ⟨fun word mem => isNormalWord_of_mem_keptTokens mem, keptTokens_intercalate set text⟩

/-- A capital I with a dot, a word in two parts, a stopword and capitals; the second tokenizer has the set
from the start. -/
theorem inline_normalizes_istanbul :
    ({ stopwords := { origin := .words ["the"] } } : Tokenizer).Serves (fun _ => .error .notText)
        (.ofWords ["the"]) ∧
      (({ stopwords := { origin := .words ["the"] } } : Tokenizer).inline (fun _ => .error .notText)
        "İstanbul'da THE Café").1 = ["istanbul", "da", "café"] ∧
      IsNormalWord "istanbul" ∧
      (({ stopwords := { origin := .none, built? := some (.ofWords ["the"]) } } : Tokenizer).inline
        (fun _ => .error .notText) "istanbul da café").1 = ["istanbul", "da", "café"] := by
  have clean : ({} : Buffers).Clean := by simp [Buffers.Clean]
  have lazily : ({ stopwords := { origin := .words ["the"] } } : Tokenizer).Serves
      (fun _ => .error .notText) (.ofWords ["the"]) := ⟨rfl, clean⟩
  have built : ({ stopwords := { origin := .none, built? := some (.ofWords ["the"]) } } : Tokenizer).Serves
      (fun _ => .error .notText) (.ofWords ["the"]) := ⟨rfl, clean⟩
  have words : (({ stopwords := { origin := .words ["the"] } } : Tokenizer).inline
      (fun _ => .error .notText) "İstanbul'da THE Café").1 = ["istanbul", "da", "café"] := by
    rw [(inline_eq lazily _).1]
    decide +kernel
  obtain ⟨normal, again⟩ := inline_normalizes lazily built "İstanbul'da THE Café"
  rw [words] at normal again
  exact ⟨lazily, words, (normal "istanbul" (by simp)).1, again⟩

end Tokenizer

end CorpusTally
