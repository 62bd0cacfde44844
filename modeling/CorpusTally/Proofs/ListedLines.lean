import CorpusTally.Proofs.Counting.InTurn
import CorpusTally.Proofs.Pieces
import CorpusTally.Proofs.Stopwords
import CorpusTally.Proofs.Unicode.Segments
import CorpusTally.StopwordLines
import Mathlib.Data.Finset.Dedup
import Mathlib.Data.Finset.Card
import Mathlib.Data.List.TakeWhile

/-!
Lists of stopwords in files. A newline is never a part of another character, so that bytes are text exactly if
all their lines are, and the lines of a text can be decoded one by one. What blanks and line ends stand around a
listed word does not matter.
-/

namespace CorpusTally

namespace Utf8

theorem eq_newline_of_mem {c : Char} (mem : newline ∈ String.utf8EncodeChar c) : c = '\n' := by
  have valid := c.valid
  simp only [UInt32.isValidChar, Nat.isValidChar] at valid
  have value : c.val.toNat = 10 := by
    unfold String.utf8EncodeChar newline at mem
    generalize c.val.toNat = n at valid mem
    dsimp only at mem
    split_ifs at mem
    all_goals
      simp only [List.mem_cons, List.not_mem_nil, or_false, ← UInt8.toNat_inj, UInt8.toNat_ofNat',
        UInt8.reduceToNat] at mem
      omega
  apply Char.ext
  apply UInt32.toNat_inj.mp
  exact value

theorem newline_not_mem_encode {text : String} (single : '\n' ∉ text.toList) : newline ∉ encode text := by
  intro mem
  obtain ⟨c, inside, among⟩ := List.mem_flatMap.mp mem
  exact single (eq_newline_of_mem among ▸ inside)

theorem encodeChars_joinPieces (pieces : List (List Char)) :
    encodeChars (joinPieces '\n' pieces) = joinPieces newline (pieces.map encodeChars) := by
  induction pieces with
  | nil => rfl
  | cons first later ih =>
    cases later with
    | nil => simp [joinPieces]
    | cons second later =>
      have front {α : Type} (separator : α) (a b : List α) (more : List (List α)) :
          joinPieces separator (a :: b :: more) = a ++ separator :: joinPieces separator (b :: more) := by
        simp [joinPieces]
      rw [front, List.map_cons, List.map_cons, front, ← List.map_cons, ← ih]
      simp only [encodeChars, List.flatMap_append, List.flatMap_cons]
      rfl

theorem encode_joinLines (pieces : List String) :
    encode (joinLines pieces) = joinPieces newline (pieces.map encode) := by
  rw [joinLines, encode, String.toList_ofList, encodeChars_joinPieces, List.map_map]
  rfl

theorem split_encode (text : String) : split newline (encode text) = (lines text).map encode := by
  have some : (lines text).map encode ≠ [] := by
    simpa [lines] using split_ne_nil '\n' text.toList
  have apart : ∀ piece ∈ (lines text).map encode, newline ∉ piece := by
    intro piece mem
    obtain ⟨line, among, rfl⟩ := List.mem_map.mp mem
    exact newline_not_mem_encode (newline_not_mem_of_mem_lines among)
  calc split newline (encode text) = split newline (encode (joinLines (lines text))) := by rw [joinLines_lines]
    _ = split newline (joinPieces newline ((lines text).map encode)) := by rw [encode_joinLines]
    _ = (lines text).map encode := split_joinPieces some apart

theorem exists_text_of_lines {bytes : Bytes}
    (texts : ∀ piece ∈ split newline bytes, ∃ line, encode line = piece) : ∃ text, encode text = bytes := by
  have whole : ∀ pieces : List Bytes, (∀ piece ∈ pieces, ∃ line, encode line = piece) →
      ∃ found : List String, found.map encode = pieces := by
    intro pieces
    induction pieces with
    | nil => exact fun _ => ⟨[], rfl⟩
    | cons piece later ih =>
      intro texts
      obtain ⟨line, same⟩ := texts piece List.mem_cons_self
      obtain ⟨found, others⟩ := ih fun other mem => texts other (List.mem_cons_of_mem _ mem)
      exact ⟨line :: found, by rw [List.map_cons, same, others]⟩
  obtain ⟨found, pieces⟩ := whole _ texts
  refine ⟨joinLines found, ?_⟩
  rw [encode_joinLines, pieces, joinPieces_split]

end Utf8

theorem decodeLine_encode (line : String) : decodeLine (Utf8.encode line) = .ok line := by
  rw [decodeLine, Utf8.decode?_eq_some_iff.mpr rfl]

theorem decodeLine_cases (bytes : Utf8.Bytes) :
    (∃ line, Utf8.encode line = bytes ∧ decodeLine bytes = .ok line) ∨
      (¬ ∃ line, Utf8.encode line = bytes) ∧ decodeLine bytes = .error .notText := by
  by_cases valid : ∃ line, Utf8.encode line = bytes
  · obtain ⟨line, rfl⟩ := valid
    exact .inl ⟨line, rfl, decodeLine_encode line⟩
  · refine .inr ⟨valid, ?_⟩
    rw [decodeLine, Utf8.decode?_eq_none_iff.mpr valid]

def tidyLines : List String → List String
  | [] => []
  | [rest] => if rest = "" then [] else [rest]
  | ended :: later => dropReturn ended :: tidyLines later

private theorem tidyLines_cons (ended next : String) (later : List String) :
    tidyLines (ended :: next :: later) = dropReturn ended :: tidyLines (next :: later) := by
  rw [tidyLines]
  simp

private theorem readPieces_cons (ended next : Utf8.Bytes) (later : List Utf8.Bytes) :
    readPieces (ended :: next :: later) =
      (decodeLine ended).bind fun line => (readPieces (next :: later)).map (dropReturn line :: ·) := by
  rw [readPieces]
  · rfl
  · simp

theorem readPieces_encode (found : List String) : readPieces (found.map Utf8.encode) = .ok (tidyLines found) := by
  induction found with
  | nil => rfl
  | cons line later ih =>
    cases later with
    | nil =>
      have empty : Utf8.encode line = [] ↔ line = "" := by
        constructor
        · intro nothing
          have none : Utf8.encode "" = [] := rfl
          have same := (Utf8.decode?_eq_some_iff.mpr nothing).symm.trans (Utf8.decode?_eq_some_iff.mpr none)
          exact Option.some.inj same
        · rintro rfl
          rfl
      change (if Utf8.encode line = [] then _ else _) = Except.ok (if line = "" then _ else _)
      by_cases nothing : line = ""
      · rw [if_pos (empty.mpr nothing), if_pos nothing]
      · rw [if_neg (mt empty.mp nothing), if_neg nothing, decodeLine_encode]
        rfl
    | cons next later =>
      rw [List.map_cons, List.map_cons, readPieces_cons, decodeLine_encode, ← List.map_cons, ih]
      rfl

theorem readPieces_error {pieces : List Utf8.Bytes} {piece : Utf8.Bytes} (mem : piece ∈ pieces)
    (broken : ¬ ∃ line, Utf8.encode line = piece) : readPieces pieces = .error .notText := by
  induction pieces with
  | nil => cases mem
  | cons first later ih =>
    cases later with
    | nil =>
      obtain rfl := List.mem_singleton.mp mem
      have some : piece ≠ [] := by
        rintro rfl
        exact broken ⟨"", rfl⟩
      have failed : decodeLine piece = .error .notText :=
        (decodeLine_cases piece).elim (fun valid => absurd ⟨_, valid.choose_spec.1⟩ broken) And.right
      change (if piece = [] then _ else _) = _
      rw [if_neg some, failed]
      rfl
    | cons next later =>
      rw [readPieces_cons]
      rcases decodeLine_cases first with ⟨line, same, decoded⟩ | ⟨-, failed⟩
      · have inside : piece ∈ next :: later := by
          refine (List.mem_cons.mp mem).resolve_left ?_
          rintro rfl
          exact broken ⟨line, same⟩
        rw [decoded, ih inside]
        rfl
      · rw [failed]
        rfl

theorem readLines_encode (text : String) : readLines (Utf8.encode text) = .ok (tidyLines (lines text)) := by
  rw [readLines, Utf8.split_encode, readPieces_encode]

theorem readLines_error {bytes : Utf8.Bytes} (broken : ¬ ∃ text, Utf8.encode text = bytes) :
    readLines bytes = .error .notText := by
  have some : ¬ ∀ piece ∈ split Utf8.newline bytes, ∃ line, Utf8.encode line = piece :=
    mt Utf8.exists_text_of_lines broken
  push Not at some
  obtain ⟨piece, mem, none⟩ := some
  exact readPieces_error mem (not_exists.mpr none)

namespace Unicode

theorem trim_snoc_blank (cs : List Char) {c : Char} (blank : isBlank c = true) :
    trim (String.ofList (cs ++ [c])) = trim (String.ofList cs) := by
  simp only [trim, String.toList_ofList]
  by_cases nothing : cs.dropWhile isBlank = []
  · have all : (cs ++ [c]).dropWhile isBlank = [] := by
      rw [List.dropWhile_eq_nil_iff] at nothing ⊢
      intro d mem
      rcases List.mem_append.mp mem with before | last
      · exact nothing d before
      · exact List.mem_singleton.mp last ▸ blank
    rw [all, nothing]
  · have kept : (cs ++ [c]).dropWhile isBlank = cs.dropWhile isBlank ++ [c] := by
      rw [List.dropWhile_append, if_neg (by simpa using nothing)]
    rw [kept, List.reverse_append, List.reverse_singleton, List.singleton_append, List.dropWhile_cons_of_pos blank]

end Unicode

theorem listedForm_append_return (line : String) : listedForm (line ++ "\r") = listedForm line := by
  have same : line ++ "\r" = String.ofList (line.toList ++ ['\r']) := by
    rw [String.ofList_append, String.ofList_toList]
  rw [listedForm, same, Unicode.trim_snoc_blank line.toList (by decide), String.ofList_toList, listedForm]

theorem listedForm_dropReturn (line : String) : listedForm (dropReturn line) = listedForm line := by
  unfold dropReturn
  split
  · next last =>
    obtain ⟨front, same⟩ := List.getLast?_eq_some_iff.mp last
    rw [same, List.dropLast_concat, ← listedForm_append_return]
    congr 1
    rw [← String.ofList_toList (s := line), same, String.ofList_append]
  · rfl

namespace StopwordSet

theorem add_congr {a b : String} (same : listedForm a = listedForm b) (set : StopwordSet) :
    set.add a = set.add b := by
  rw [add, add, same]

theorem add_empty (set : StopwordSet) : set.add "" = set := by
  have nothing : listedForm "" = "" := by decide
  rw [add, if_pos nothing]

theorem foldl_add_tidyLines (found : List String) (set : StopwordSet) :
    (tidyLines found).foldl add set = found.foldl add set := by
  induction found generalizing set with
  | nil => rfl
  | cons line later ih =>
    cases later with
    | nil =>
      rw [tidyLines, List.foldl_cons, List.foldl_nil]
      split
      · next nothing => rw [nothing, add_empty, List.foldl_nil]
      · rw [List.foldl_cons, List.foldl_nil]
    | cons next later =>
      rw [tidyLines_cons, List.foldl_cons, ih, add_congr (listedForm_dropReturn line), ← List.foldl_cons]

/-- Reading line by line comes to decoding the whole first. -/
theorem ofReader_eq (bytes : Utf8.Bytes) : ofReader bytes = ofBytes bytes := by
  unfold ofBytes
  by_cases valid : ∃ text, Utf8.encode text = bytes
  · obtain ⟨text, rfl⟩ := valid
    rw [Utf8.decode?_eq_some_iff.mpr rfl, ofReader, readLines_encode]
    change Except.ok ((tidyLines (lines text)).foldl add empty) = _
    rw [foldl_add_tidyLines]
    rfl
  · rw [Utf8.decode?_eq_none_iff.mpr valid, ofReader, readLines_error valid]
    rfl

structure Lists (set : StopwordSet) (listed : List String) : Prop where
  contains : ∀ word, set.contains word = true ↔ word ≠ "" ∧ ∃ entry ∈ listed, listedForm entry = word
  size : set.size = ((listed.map listedForm).toFinset.erase "").card

theorem ofWords_lists (listed : List String) : (ofWords listed).Lists listed where
  contains _ := contains_ofWords
  size := by
    have same : (ofWords listed).words.toFinset = (listed.map listedForm).toFinset.erase "" := by
      ext word
      have law : word ∈ (ofWords listed).words ↔ _ := List.contains_iff_mem.symm.trans contains_ofWords
      rw [List.mem_toFinset, law, Finset.mem_erase, List.mem_toFinset, List.mem_map]
    rw [← same, List.toFinset_card_of_nodup (ofWords listed).distinct, size]

theorem ofReader_lists (text : String) :
    ∃ set, ofReader (Utf8.encode text) = .ok set ∧ set.Lists (lines text) := by
  refine ⟨ofWords (lines text), ?_, ofWords_lists _⟩
  rw [ofReader_eq, ofBytes, Utf8.decode?_eq_some_iff.mpr rfl]

theorem ofReader_error {bytes : Utf8.Bytes} (broken : ¬ ∃ text, Utf8.encode text = bytes) :
    ofReader bytes = .error .notText := by
  rw [ofReader, readLines_error broken]
  rfl

theorem ofFile_eq {read : ReadFile} {path : Path} {bytes : Utf8.Bytes} (found : read path = .ok bytes) :
    ofFile read path = ofReader bytes := by
  rw [ofFile, found, ofReader_eq]
  rfl

theorem Lists.congr {set : StopwordSet} {listed others : List String} (lists : set.Lists listed)
    (same : listed.map listedForm = others.map listedForm) : set.Lists others where
  contains word := by
    have forms (entries : List String) :
        (∃ entry ∈ entries, listedForm entry = word) ↔ word ∈ entries.map listedForm := List.mem_map.symm
    rw [lists.contains word, forms, forms, same]
  size := by rw [lists.size, same]

end StopwordSet

inductive LineEnd where
  | feed
  | returnFeed

def LineEnd.text : LineEnd → String
  | feed => "\n"
  | returnFeed => "\r\n"

def writeLines (ended : List (String × LineEnd)) (rest : String) : String :=
  ended.foldr (fun line later => line.1 ++ line.2.text ++ later) rest

theorem lines_of_single {line : String} (single : '\n' ∉ line.toList) : lines line = [line] := by
  rw [lines, split_of_not_mem single, List.map_singleton, String.ofList_toList]

theorem lines_append_feed (line later : String) : lines (line ++ "\n" ++ later) = lines line ++ lines later := by
  have cut : (line ++ "\n" ++ later).toList = line.toList ++ '\n' :: later.toList := by simp
  rw [lines, cut, split_append, List.map_append]
  rfl

theorem listedForm_lines_writeLines {ended : List (String × LineEnd)} {rest : String}
    (single : ∀ line ∈ ended, '\n' ∉ line.1.toList) (last : '\n' ∉ rest.toList) :
    (lines (writeLines ended rest)).map listedForm = (ended.map Prod.fst ++ [rest]).map listedForm := by
  induction ended with
  | nil => rw [writeLines, List.foldr_nil, lines_of_single last, List.map_nil, List.nil_append]
  | cons line ended ih =>
    obtain ⟨line, ending⟩ := line
    have here : '\n' ∉ line.toList := single (line, ending) List.mem_cons_self
    have later := ih fun other mem => single other (List.mem_cons_of_mem _ mem)
    rw [writeLines, List.foldr_cons, ← writeLines, List.map_cons, List.cons_append, List.map_cons, ← later]
    cases ending with
    | feed => rw [LineEnd.text, lines_append_feed, lines_of_single here, List.singleton_append, List.map_cons]
    | returnFeed =>
      have cut : line ++ LineEnd.returnFeed.text = line ++ "\r" ++ "\n" := by rw [String.append_assoc]; rfl
      have whole : '\n' ∉ (line ++ "\r").toList := by simpa using here
      rw [cut, lines_append_feed, lines_of_single whole, List.singleton_append, List.map_cons,
        listedForm_append_return]

theorem LazyStopwords.view_file (read : ReadFile) (path : Path) :
    ({ origin := .file path } : LazyStopwords).view read = (StopwordSet.ofFile read path).toOption.getD .empty := by
  change (StopwordOrigin.toSet read (.file path)).1 = _
  rw [StopwordOrigin.toSet]
  cases StopwordSet.ofFile read path <;> rfl

namespace Tokenizer

/-- Queries are answered by the words that are left out, and all others come out of every text. -/
structure LeavesOut (read : ReadFile) (t : Tokenizer) (out : String → Bool) : Prop where
  query : ∀ word, (t.query read word).1 = out word
  inline : ∀ text, (t.inline read text).1 = (tokens text).filter fun word => !out word
  streams : ∀ text words left, t.Streams read text words left →
    words = (tokens text).filter fun word => !out word

variable {read : ReadFile} {path : Path} {buffers : Buffers}

theorem leavesOut_of_view {t : Tokenizer} {set : StopwordSet} (view : t.stopwords.view read = set)
    (clean : t.buffers.Clean) : t.LeavesOut read set.contains where
  query word := by rw [Tokenizer.query, view]
  inline text := (inline_eq ⟨view, clean⟩ text).1
  streams text words left streams := by
    rw [(streams.eq clean).1, view]
    rfl

private theorem leavesOut_nothing {t : Tokenizer} (view : t.stopwords.view read = .empty)
    (clean : t.buffers.Clean) : t.LeavesOut read fun _ => false := leavesOut_of_view view clean

/-- Reading a list fails exactly if its bytes are no text. Otherwise the set has the forms of the lines, each once,
whatever ends the lines have and whether the last one has any. A handle on a file with these bytes filters by this
set, and by none where the file cannot be loaded. -/
theorem filters_listed_lines (bytes : Utf8.Bytes) :
    (StopwordSet.ofReader bytes = .error .notText ↔ ¬ ∃ text, Utf8.encode text = bytes) ∧
    (∀ text, Utf8.encode text = bytes →
      ∃ set, StopwordSet.ofReader bytes = .ok set ∧ set.Lists (lines text)) ∧
    (∀ ended rest, (∀ line ∈ ended, '\n' ∉ line.1.toList) → '\n' ∉ rest.toList →
      Utf8.encode (writeLines ended rest) = bytes →
      ∃ set, StopwordSet.ofReader bytes = .ok set ∧ set.Lists (ended.map Prod.fst ++ [rest])) ∧
    ∀ (read : ReadFile) (path : Path) (buffers : Buffers), buffers.Clean →
      let t : Tokenizer := { stopwords := { origin := .file path }, buffers }
      (read path = .ok bytes → ∀ set, StopwordSet.ofReader bytes = .ok set → t.LeavesOut read set.contains) ∧
      (read path = .ok bytes → (¬ ∃ text, Utf8.encode text = bytes) → t.LeavesOut read fun _ => false) ∧
      ∀ e, read path = .error e → t.LeavesOut read fun _ => false := by
  refine ⟨⟨?_, StopwordSet.ofReader_error⟩, ?_, ?_, ?_⟩
  · rintro failed ⟨text, rfl⟩
    obtain ⟨set, made, -⟩ := StopwordSet.ofReader_lists text
    rw [failed] at made
    cases made
  · rintro text rfl
    exact StopwordSet.ofReader_lists text
  · rintro ended rest single last rfl
    obtain ⟨set, made, lists⟩ := StopwordSet.ofReader_lists (writeLines ended rest)
    exact ⟨set, made, lists.congr (listedForm_lines_writeLines single last)⟩
  · intro read path buffers clean t
    refine ⟨fun found set made => ?_, fun found none => ?_, fun e missing => ?_⟩
    · apply leavesOut_of_view _ clean
      rw [LazyStopwords.view_file, StopwordSet.ofFile_eq found, made]
      rfl
    · apply leavesOut_nothing _ clean
      rw [LazyStopwords.view_file, StopwordSet.ofFile_eq found, StopwordSet.ofReader_error none]
      rfl
    · apply leavesOut_nothing _ clean
      rw [LazyStopwords.view_file, StopwordSet.ofFile, missing]
      rfl

/-- Four lines with both ends and without one, of which two are the same word and one is blank; and a line that is
no text. -/
theorem filters_mixed_lines :
    (∃ set, StopwordSet.ofReader (Utf8.encode "The\r\n\r\n the\nOF") = .ok set ∧ set.size = 2 ∧
      set.contains "of" = true ∧ set.contains "The" = false ∧
      ({ stopwords := { origin := .file (.ofString "stop.txt") } } : Tokenizer).LeavesOut
        (fun _ => .ok (Utf8.encode "The\r\n\r\n the\nOF")) set.contains) ∧
    ({ stopwords := { origin := .file (.ofString "stop.txt") } } : Tokenizer).LeavesOut
      (fun _ => .ok [0x61, 0x0a, 0xff]) fun _ => false := by
  have clean : ({} : Buffers).Clean := by simp [Buffers.Clean]
  obtain ⟨-, -, written, handle⟩ := filters_listed_lines (Utf8.encode "The\r\n\r\n the\nOF")
  obtain ⟨set, read, lists⟩ := written [("The", .returnFeed), ("", .returnFeed), (" the", .feed)] "OF"
    (by simp) (by simp) (by decide +kernel)
  obtain ⟨filters, -, -⟩ := handle (fun _ => .ok _) (.ofString "stop.txt") {} clean
  obtain ⟨⟨-, broken⟩, -, -, handle⟩ := filters_listed_lines [0x61, 0x0a, 0xff]
  obtain ⟨-, nothing, -⟩ := handle (fun _ => .ok _) (.ofString "stop.txt") {} clean
  refine ⟨⟨set, read, ?_, ?_, ?_, filters rfl set read⟩, nothing rfl ?_⟩
  · rw [lists.size]
    decide +kernel
  · refine (lists.contains "of").mpr ⟨by decide, "OF", by simp, ?_⟩
    decide +kernel
  · rw [← Bool.not_eq_true, lists.contains]
    decide +kernel
  · have undecoded : Utf8.decode? [0x61, 0x0a, 0xff] = none := by decide +kernel
    exact Utf8.decode?_eq_none_iff.mp undecoded

end Tokenizer

end CorpusTally
