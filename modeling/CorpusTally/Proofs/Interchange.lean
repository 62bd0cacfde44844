import CorpusTally.Proofs.Json.Blocks
import CorpusTally.Report

/-!
The JSON of a report, which is read back as the results that it was written from. Whatever their names, words
and counts are, nothing is lost, and no other results have the same text.
-/

namespace CorpusTally

open Json

namespace WordCount

private theorem leads_word (w : WordCount) :
    Leads readMember {} "word" (quote w.word) { word? := some w.word } := by
  intro rest ends
  have found := readOnce_of_reads (reads_quote w.word) (fun _ => rfl) "word" ends
  simp [readMember, found, Except.map]

private theorem leads_count (w : WordCount) :
    Leads readMember { word? := some w.word } "count" (digits w.count.toNat)
      { word? := some w.word, count? := some w.count } := by
  intro rest ends
  have found := readOnce_of_reads (reads_digits w.count) (fun _ => rfl) "count" ends
  simp [readMember, found, Except.map]

theorem reads_toJson (indent : Nat) (w : WordCount) : Reads read (w.toJson.render indent) w := by
  have all : LeadAll readMember {} [("word", quote w.word), ("count", digits w.count.toNat)]
      { word? := some w.word, count? := some w.count } := .cons (leads_word w) (.cons (leads_count w) .nil)
  refine reads_struct [("word", quote w.word), ("count", digits w.count.toNat)] ?_
  intro rest
  have members := readObject_body all indent rest
  simp only [readObject, members, bind, Except.bind, required, pure, Except.pure]

end WordCount

namespace FileTally

private theorem reads_words (indent : Nat) (words : List WordCount) :
    Reads readWords ((Value.array (words.map WordCount.toJson)).render indent) words := by
  rw [Value.render, renderItems_eq, List.map_map]
  exact reads_list words (fun word _ => WordCount.reads_toJson (indent + 1) word) indent

private theorem leads_fileName (r : FileTally) :
    Leads readMember {} "file_name" (quote r.fileName) { fileName? := some r.fileName } := by
  intro rest ends
  have found := readOnce_of_reads (reads_quote r.fileName) (fun _ => rfl) "file_name" ends
  simp [readMember, found, Except.map]

private theorem leads_words (indent : Nat) (r : FileTally) :
    Leads readMember { fileName? := some r.fileName } "words"
      ((Value.array (r.words.map WordCount.toJson)).render indent)
      { fileName? := some r.fileName, words? := some r.words } := by
  intro rest ends
  have found := readOnce_of_reads (reads_words indent r.words) (fun _ => rfl) "words" ends
  simp [readMember, found, Except.map]

theorem reads_toJson (indent : Nat) (r : FileTally) : Reads read (r.toJson.render indent) r := by
  let fields : List (String × List Char) := [("file_name", quote r.fileName),
    ("words", (Value.array (r.words.map WordCount.toJson)).render (indent + 1))]
  have all : LeadAll readMember {} fields { fileName? := some r.fileName, words? := some r.words } :=
    .cons (leads_fileName r) (.cons (leads_words (indent + 1) r) .nil)
  refine reads_struct fields ?_
  intro rest
  have members := readObject_body all indent rest
  simp only [readObject, members, bind, Except.bind, required, pure, Except.pure]

theorem parseAll_renderAll (results : List FileTally) : parseAll (renderAll results) = .ok results := by
  have written : (renderAll results).toList =
      block '[' ']' 0 (results.map fun r => r.toJson.render 1) := by
    rw [renderAll, Value.pretty, Value.render, renderItems_eq, List.map_map, String.toList_ofList]
    rfl
  have found := (reads_list results (fun result _ => reads_toJson 1 result) 0).reads [] bounded_nil
  rw [List.append_nil] at found
  simp only [parseAll, readAll, written, found]
  rfl

end FileTally

namespace Report

/-- The results of a report are read back from its JSON, all of them and in their order. So reports with the
same JSON have the same results. -/
theorem parseAll_json (r other : Report) :
    FileTally.parseAll r.json = .ok r.results ∧ (r.json = other.json ↔ r.results = other.results) := by
  have back : ∀ report : Report, FileTally.parseAll report.json = .ok report.results :=
    fun report => FileTally.parseAll_renderAll report.results
  refine ⟨back r, ?_, fun same => congrArg FileTally.renderAll same⟩
  intro same
  have alike := (back r).symm.trans ((congrArg FileTally.parseAll same).trans (back other))
  exact Except.ok.inj alike

end Report

end CorpusTally
