import CorpusTally.Proofs.Tokenizing
import CorpusTally.Proofs.Unicode.Folding

/-!
Which words a list filters. A listed word is compared in the form that it has without the blanks around
it and in small letters; a word of a text is compared as it is folded. A word of letters and digits that
is on the list is therefore filtered exactly if the two forms of it are the same.
-/

namespace CorpusTally

open Unicode

namespace StopwordSet

variable {set : StopwordSet} {word entry : String}

theorem contains_add :
    (set.add entry).contains word = true ↔
      set.contains word = true ∨ word ≠ "" ∧ listedForm entry = word := by
  unfold add
  split
  · next nothing =>
    have vacuous : ¬ (word ≠ "" ∧ listedForm entry = word) := by
      rintro ⟨some, here⟩
      exact some (here.symm.trans nothing)
    simp [vacuous]
  · next form =>
    rw [contains_insert, Bool.or_eq_true, beq_iff_eq, or_comm]
    have same : word = listedForm entry ↔ word ≠ "" ∧ listedForm entry = word := by
      constructor
      · rintro rfl
        exact ⟨form, rfl⟩
      · exact fun here => here.2.symm
    rw [same]

theorem contains_ofWords {listed : List String} :
    (ofWords listed).contains word = true ↔ word ≠ "" ∧ ∃ entry ∈ listed, listedForm entry = word := by
  have added : ∀ (entries : List String) (set : StopwordSet),
      (entries.foldl add set).contains word = true ↔
        set.contains word = true ∨ word ≠ "" ∧ ∃ entry ∈ entries, listedForm entry = word := by
    intro entries
    induction entries with
    | nil => simp
    | cons entry entries ih =>
      intro set
      rw [List.foldl_cons, ih, contains_add, or_assoc, ← and_or_left]
      simp only [List.mem_cons, exists_eq_or_imp]
  have start := added listed empty
  simpa [ofWords, empty, contains] using start

end StopwordSet

namespace Unicode

theorem trim_of_no_blank {word : String} (solid : ∀ c ∈ word.toList, isBlank c = false) :
    trim word = word := by
  have keeps : ∀ cs : List Char, (∀ c ∈ cs, isBlank c = false) → cs.dropWhile isBlank = cs := by
    intro cs solid
    cases cs with
    | nil => rfl
    | cons c cs => simp [solid c]
  have backwards := keeps word.toList.reverse (by simpa using solid)
  simp only [trim, keeps word.toList solid, backwards, List.reverse_reverse, String.ofList_toList]

end Unicode

private theorem foldr_push_solid {cs : List Char} (solid : ∀ c ∈ cs, isBlank c = false) :
    cs.foldr Words.push {} = { first := cs } := by
  induction cs with
  | nil => rfl
  | cons c cs ih =>
    rw [List.foldr_cons, ih fun d mem => solid d (List.mem_cons_of_mem c mem), Words.push,
      if_neg (by simp [solid c])]

variable {word : String}

theorem listedForm_of_alphanumeric (letters : ∀ c ∈ word.toList, isAlphanumeric c = true) :
    listedForm word = lowercase word := by
  rw [listedForm, trim_of_no_blank fun c mem => not_isBlank_of_isAlphanumeric (letters c mem)]

theorem tokens_of_folded (folded : ∀ c ∈ word.toList, isAlphanumeric (foldCase c) = true) (some : word ≠ "") :
    tokens word = [foldText word] := by
  have letters : ∀ c ∈ word.toList.map foldCase, isAlphanumeric c = true := by
    intro c mem
    obtain ⟨d, among, rfl⟩ := List.mem_map.mp mem
    exact folded d among
  have stripped : stripText (foldText word) = foldText word := by
    have kept : ∀ c ∈ word.toList.map foldCase, blankOut c = id c := by
      intro c mem
      simp [blankOut, letters c mem]
    rw [stripText, foldText, String.toList_ofList, List.map_congr_left kept, List.map_id]
  have solid := foldr_push_solid fun c mem => not_isBlank_of_isAlphanumeric (letters c mem)
  rw [tokens, stripped, splitBlanks, foldText, String.toList_ofList, solid, Words.toList]
  cases cs : word.toList with
  | nil => exact absurd (String.toList_eq_nil_iff.mp cs) some
  | cons c rest => rfl

theorem tokens_of_alphanumeric (letters : ∀ c ∈ word.toList, isAlphanumeric c = true)
    (some : word ≠ "") : tokens word = [foldText word] :=
  tokens_of_folded (fun c mem => isAlphanumeric_foldCase (letters c mem)) some

theorem listedForm_eq_foldText_iff (letters : ∀ c ∈ word.toList, isAlphanumeric c = true) :
    listedForm word = foldText word ↔ 'İ' ∉ word.toList ∧ ¬ HasFinalSigma [] word.toList := by
  rw [listedForm_of_alphanumeric letters, lowercase, foldText, String.ofList_inj,
    lowerFrom_eq_map_foldCase_iff]

theorem foldText_eq_empty_iff : foldText word = "" ↔ word = "" := by
  rw [foldText, ← String.toList_eq_nil_iff, String.toList_ofList, List.map_eq_nil_iff,
    String.toList_eq_nil_iff]

theorem keptTokens_eq_nil_iff (letters : ∀ c ∈ word.toList, isAlphanumeric c = true)
    (some : word ≠ "") (listed : List String) :
    keptTokens (.ofWords listed) word = [] ↔ ∃ entry ∈ listed, listedForm entry = foldText word := by
  have form : foldText word ≠ "" := fun nothing => some (foldText_eq_empty_iff.mp nothing)
  rw [keptTokens, tokens_of_alphanumeric letters some, List.filter_eq_nil_iff]
  simp [StopwordSet.contains_ofWords, form]

namespace Tokenizer

private theorem serves_listed (read : ReadFile) {buffers : Buffers} (clean : buffers.Clean)
    (listed : List String) :
    ({ stopwords := { origin := .words listed }, buffers } : Tokenizer).Serves read
      (.ofWords listed) := ⟨rfl, clean⟩

/-- A word of letters and digits is filtered by every list that it is on, on either way to the tokens,
exactly if it has no capital I with a dot and no capital sigma in final position. -/
theorem filtered_where_listed_iff (read : ReadFile) {buffers : Buffers} (clean : buffers.Clean)
    {word : String} (letters : ∀ c ∈ word.toList, isAlphanumeric c = true) :
    (∀ listed, word ∈ listed →
      let t : Tokenizer := { stopwords := { origin := .words listed }, buffers }
      (t.inline read word).1 = [] ∧ ∀ words left, t.Streams read word words left → words = []) ↔
    'İ' ∉ word.toList ∧ ¬ HasFinalSigma [] word.toList := by
  rw [← listedForm_eq_foldText_iff letters]
  constructor
  · intro filtered
    by_cases nothing : word = ""
    · rw [nothing]
      decide +kernel
    · -- A list of the word alone has no other entry that could filter it.
      have alone := (filtered [word] (List.mem_singleton_self word)).1
      rw [(inline_eq (serves_listed read clean [word]) word).1,
        keptTokens_eq_nil_iff letters nothing] at alone
      simpa using alone
  · intro same listed mem t
    have serves := serves_listed read clean listed
    have none : keptTokens (.ofWords listed) word = [] := by
      by_cases nothing : word = ""
      · rw [nothing, keptTokens, tokens_empty, List.filter_nil]
      · exact (keptTokens_eq_nil_iff letters nothing listed).mpr ⟨word, mem, same⟩
    constructor
    · rw [(inline_eq serves word).1]
      exact none
    · intro words left streams
      rw [(streams.eq clean).1, serves.1]
      exact none

/-- A word whose last letter is a capital sigma is on the list and is not filtered. -/
theorem not_filtered_odos :
    ¬ ∀ listed, "ΟΔΟΣ" ∈ listed →
      let t : Tokenizer := { stopwords := { origin := .words listed } }
      (t.inline (fun _ => .error .notText) "ΟΔΟΣ").1 = [] ∧
        ∀ words left, t.Streams (fun _ => .error .notText) "ΟΔΟΣ" words left → words = [] := by
  intro filtered
  have letters : ∀ c ∈ "ΟΔΟΣ".toList, isAlphanumeric c = true := by
    rw [← List.all_eq_true]
    decide +kernel
  have clean : ({} : Buffers).Clean := by simp [Buffers.Clean]
  obtain ⟨-, plain⟩ := (filtered_where_listed_iff (fun _ => .error .notText) clean letters).mp filtered
  apply plain
  exact ⟨['Ο', 'Δ', 'Ο'], [], by decide +kernel, by decide +kernel, by decide +kernel⟩

end Tokenizer

end CorpusTally
