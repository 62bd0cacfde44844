import CorpusTally.Proofs.Stopwords
import Mathlib.Algebra.Order.BigOperators.Group.List
import Mathlib.Algebra.Order.Group.Nat

/-!
What stands between tokens. A character that folds to no letter or digit parts a text into two whose tokens have
nothing to do with each other, and no other character does so, whatever words are left out.
-/

namespace CorpusTally

open Unicode

theorem StopwordSet.contains_of_longer (set : StopwordSet) {word : String}
    (longer : (set.words.map String.length).sum < word.length) : set.contains word = false := by
  rw [contains, List.contains_eq_mem, decide_eq_false_iff_not]
  intro listed
  have bound : word.length ≤ (set.words.map String.length).sum :=
    List.le_sum_of_mem (List.mem_map_of_mem listed)
  omega

theorem keptTokens_append_separator (set : StopwordSet) (before after : String) {c : Char}
    (separates : isAlphanumeric (foldCase c) = false) :
    keptTokens set (before ++ String.singleton c ++ after) = keptTokens set before ++ keptTokens set after := by
  have parts : before ++ String.singleton c ++ after = String.ofList (before.toList ++ c :: after.toList) := by
    rw [← String.toList_inj]
    simp
  rw [keptTokens, parts, tokens_append_separator _ _ separates, String.ofList_toList, String.ofList_toList,
    List.filter_append]
  rfl

theorem keptTokens_joinLines (set : StopwordSet) (texts : List String) :
    keptTokens set (joinLines texts) = texts.flatMap (keptTokens set) := by
  rw [keptTokens, tokens_joinLines, List.filter_flatMap]
  rfl

private theorem keptTokens_replicate {set : StopwordSet} {c : Char} (letter : isAlphanumeric (foldCase c) = true)
    {times : Nat} (long : (set.words.map String.length).sum < times) :
    keptTokens set (String.ofList (List.replicate times c)) =
      [String.ofList (List.replicate times (foldCase c))] := by
  have folded : ∀ d ∈ (String.ofList (List.replicate times c)).toList, isAlphanumeric (foldCase d) = true := by
    intro d mem
    rw [String.toList_ofList] at mem
    rw [List.eq_of_mem_replicate mem]
    exact letter
  have some : String.ofList (List.replicate times c) ≠ "" := by
    rw [Ne, String.ofList_eq_empty_iff, List.replicate_eq_nil_iff]
    omega
  have form : foldText (String.ofList (List.replicate times c)) =
      String.ofList (List.replicate times (foldCase c)) := by
    rw [foldText, String.toList_ofList, List.map_replicate]
  have unlisted : set.contains (String.ofList (List.replicate times (foldCase c))) = false := by
    apply set.contains_of_longer
    simpa using long
  rw [keptTokens, tokens_of_folded folded some, form, List.filter_singleton, unlisted]
  rfl

/-- Between two long words of one letter this letter makes one word of them. -/
theorem exists_joined (set : StopwordSet) {c : Char} (letter : isAlphanumeric (foldCase c) = true) :
    ∃ before after, keptTokens set (before ++ String.singleton c ++ after) ≠
      keptTokens set before ++ keptTokens set after := by
  let times := (set.words.map String.length).sum + 1
  let word := String.ofList (List.replicate times c)
  have long : (set.words.map String.length).sum < times := Nat.lt_succ_self _
  have whole : word ++ String.singleton c ++ word = String.ofList (List.replicate (times + 1 + times) c) := by
    rw [← String.toList_inj]
    simp [word, List.replicate_add]
  refine ⟨word, word, fun same => ?_⟩
  rw [whole, keptTokens_replicate letter (by omega), keptTokens_replicate letter long] at same
  simp at same

namespace Tokenizer

variable {read : ReadFile} {set : StopwordSet} {t u v : Tokenizer}

/-- The characters between which words end, for every list of stopwords, are those that fold to no letter or
digit: around each of them, and around no other, the words of a text are those on the one side and those on the
other. So the words of lines that are put together are those of the lines. -/
theorem inline_separates_iff (whole : t.Serves read set) (first : u.Serves read set) (second : v.Serves read set) :
    (∀ c, (∀ before after, (t.inline read (before ++ String.singleton c ++ after)).1 =
        (u.inline read before).1 ++ (v.inline read after).1) ↔ isAlphanumeric (foldCase c) = false) ∧
      ∀ texts, (t.inline read (joinLines texts)).1 = texts.flatMap fun text => (u.inline read text).1 := by
  have words : ∀ {w : Tokenizer}, w.Serves read set → ∀ text, (w.inline read text).1 = keptTokens set text :=
    fun serves text => (inline_eq serves text).1
  constructor
  · intro c
    simp only [words whole, words first, words second]
    constructor
    · intro separates
      by_contra letter
      obtain ⟨before, after, joined⟩ := exists_joined set (by simpa using letter)
      exact joined (separates before after)
    · intro separates before after
      exact keptTokens_append_separator set before after separates
  · intro texts
    simp only [words whole, words first]
    exact keptTokens_joinLines set texts

/-- A dash parts two words and an apostrophe a third one from its end; an empty line and the end of a line from
elsewhere make no word. -/
theorem inline_separates_dash :
    ({ stopwords := { origin := .words ["the"] } } : Tokenizer).Serves (fun _ => .error .notText) (.ofWords ["the"]) ∧
      isAlphanumeric (foldCase '—') = false ∧
      (({ stopwords := { origin := .words ["the"] } } : Tokenizer).inline (fun _ => .error .notText)
        ("The cat" ++ String.singleton '—' ++ "İzmir's")).1 = ["cat"] ++ ["izmir", "s"] ∧
      (({ stopwords := { origin := .words ["the"] } } : Tokenizer).inline (fun _ => .error .notText)
        (joinLines ["The cat\r", "", "sat"])).1 = ["cat", "sat"] := by
  have serves : ({ stopwords := { origin := .words ["the"] } } : Tokenizer).Serves (fun _ => .error .notText)
      (.ofWords ["the"]) := ⟨rfl, by simp [Buffers.Clean]⟩
  have dash : isAlphanumeric (foldCase '—') = false := by decide +kernel
  obtain ⟨separates, lines⟩ := inline_separates_iff serves serves serves
  have words : ∀ text, (({ stopwords := { origin := .words ["the"] } } : Tokenizer).inline
      (fun _ => .error .notText) text).1 = keptTokens (.ofWords ["the"]) text :=
    fun text => (inline_eq serves text).1
  refine ⟨serves, dash, ?_, ?_⟩
  · rw [(separates '—').mpr dash, words, words]
    decide +kernel
  · simp only [lines, words]
    decide +kernel

end Tokenizer

end CorpusTally
