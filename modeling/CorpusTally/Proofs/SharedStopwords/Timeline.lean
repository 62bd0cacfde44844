import CorpusTally.LazyStopwords
import Mathlib.Data.List.Basic

/-!
What can be told of a run in which callers share the stopwords while files change: which queries began, when
the source was loaded, and which answers there were. From these marks alone follows which set an answer has
to go by.
-/

namespace CorpusTally

namespace SharedStopwords

inductive Query where
  | contains (word : String)
  | whole

inductive Answer where
  | listed (yes : Bool)
  | whole (set : StopwordSet)

def Query.answer (set : StopwordSet) : Query → Answer
  | contains word => .listed (set.contains word)
  | whole => .whole set

abbrev Edit := ReadFile → ReadFile

inductive Action where
  | query (q : Query)
  | peek
  | edit (edit : Edit)

def Action.query? : Action → Option Query
  | query q => some q
  | peek | edit _ => none

/-- What can be told of a run afterwards. -/
inductive Mark where
  | began (q : Query)
  | loaded
  | built
  | answered (q : Query) (answer : Answer)
  | peeked (built : Bool)
  | edited (edit : Edit)

def Mark.query? : Mark → Option Query
  | answered q _ => some q
  | began _ | loaded | built | peeked _ | edited _ => none

def filesAfter (files : ReadFile) (history : List Mark) : ReadFile :=
  history.foldl (fun files mark => match mark with
    | .edited edit => edit files
    | .began _ | .loaded | .built | .answered _ _ | .peeked _ => files) files

def Mark.Right (origin : StopwordOrigin) (files : ReadFile) (before : List Mark) : Mark → Prop
  | began _ | edited _ => True
  | loaded => .loaded ∉ before ∧ ∃ q, .began q ∈ before
  | built => .loaded ∈ before
  | peeked yes => yes = true ↔ .built ∈ before
  | answered q answer => .built ∈ before ∧ ∃ earlier later,
    before = earlier ++ .loaded :: later ∧ answer = q.answer (origin.toSet (filesAfter files earlier)).1

def Timeline (origin : StopwordOrigin) (files : ReadFile) (history : List Mark) : Prop :=
  ∀ before mark after, history = before ++ mark :: after → mark.Right origin files before

/-- A source was read as these events tell, and gave this set. -/
def Loading (origin : StopwordOrigin) (files : ReadFile) (history : List Mark) (set : StopwordSet)
    (events : Log) : Prop :=
  ∃ earlier later, history = earlier ++ .loaded :: later ∧
    origin.toSet (filesAfter files earlier) = (set, events)

variable {origin : StopwordOrigin} {files : ReadFile} {history : List Mark} {mark : Mark}
variable {set : StopwordSet} {events : Log}

theorem filesAfter_append (files : ReadFile) (history others : List Mark) :
    filesAfter files (history ++ others) = filesAfter (filesAfter files history) others :=
  List.foldl_append

theorem Timeline.append (timeline : Timeline origin files history)
    (right : mark.Right origin files history) : Timeline origin files (history ++ [mark]) := by
  intro before other after same
  rcases List.eq_nil_or_concat after with rfl | ⟨front, last, rfl⟩
  · obtain ⟨rfl, rest⟩ := List.append_inj' same rfl
    obtain ⟨rfl, -⟩ := List.cons.inj rest
    exact right
  · rw [List.concat_eq_append, ← List.cons_append, ← List.append_assoc] at same
    obtain ⟨rest, -⟩ := List.append_inj' same rfl
    exact timeline before other front rest

theorem Timeline.right_of_mem (timeline : Timeline origin files history) (mem : mark ∈ history) :
    ∃ before, before <+: history ∧ mark.Right origin files before := by
  obtain ⟨before, after, same⟩ := List.append_of_mem mem
  exact ⟨before, ⟨mark :: after, same.symm⟩, timeline before mark after same⟩

theorem Timeline.of_prefix {before : List Mark} (timeline : Timeline origin files history)
    (first : before <+: history) : Timeline origin files before := by
  obtain ⟨later, rfl⟩ := first
  rintro earlier mark after rfl
  exact timeline earlier mark (after ++ later) (by simp)

/-- Nothing is loaded a second time. -/
theorem Timeline.loaded_once {before after : List Mark}
    (timeline : Timeline origin files (before ++ .loaded :: after)) :
    .loaded ∉ before ∧ .loaded ∉ after := by
  obtain ⟨first, -⟩ := timeline before .loaded after rfl
  refine ⟨first, fun again => ?_⟩
  obtain ⟨between, rest, rfl⟩ := List.append_of_mem again
  obtain ⟨never, -⟩ := timeline (before ++ .loaded :: between) .loaded rest (by simp)
  simp at never

theorem Timeline.began_of_built (timeline : Timeline origin files history) (built : .built ∈ history) :
    ∃ q, .began q ∈ history := by
  obtain ⟨before, first, loaded⟩ := timeline.right_of_mem built
  obtain ⟨earlier, start, -, q, began⟩ := (timeline.of_prefix first).right_of_mem loaded
  exact ⟨q, first.subset (start.subset began)⟩

theorem Timeline.built_of_seen (timeline : Timeline origin files history)
    (seen : (∃ q answer, .answered q answer ∈ history) ∨ .peeked true ∈ history) : .built ∈ history := by
  rcases seen with ⟨q, answer, answered⟩ | peeked
  · obtain ⟨before, first, built, -⟩ := timeline.right_of_mem answered
    exact first.subset built
  · obtain ⟨before, first, built⟩ := timeline.right_of_mem peeked
    exact first.subset (built.mp rfl)

theorem Loading.append (loading : Loading origin files history set events) (marks : List Mark) :
    Loading origin files (history ++ marks) set events := by
  obtain ⟨earlier, later, rfl, made⟩ := loading
  exact ⟨earlier, later ++ marks, by simp, made⟩

theorem Loading.mem (loading : Loading origin files history set events) : .loaded ∈ history := by
  obtain ⟨earlier, later, rfl, -⟩ := loading
  simp

/-- What is loaded once is loaded from the files at that moment. -/
theorem Loading.toSet_eq {before after : List Mark} (loading : Loading origin files history set events)
    (same : history = before ++ .loaded :: after) (once : .loaded ∉ before ∧ .loaded ∉ after) :
    origin.toSet (filesAfter files before) = (set, events) := by
  obtain ⟨earlier, later, rfl, made⟩ := loading
  obtain ⟨rfl, -, -⟩ := (List.append_cons_inj_of_notMem once.1 once.2).mp same.symm
  exact made

theorem Timeline.loading_of_answered (timeline : Timeline origin files history) {q : Query}
    {answer : Answer} (answered : .answered q answer ∈ history) :
    ∃ set events, Loading origin files history set events ∧ answer = q.answer set := by
  obtain ⟨front, ⟨rest, rfl⟩, -, earlier, later, rfl, right⟩ := timeline.right_of_mem answered
  exact ⟨_, _, Loading.append ⟨earlier, later, rfl, rfl⟩ rest, right⟩

theorem Loading.length_le (loading : Loading origin files history set events) : events.length ≤ 1 := by
  obtain ⟨earlier, later, -, made⟩ := loading
  match origin with
  | .none | .words _ =>
    obtain ⟨-, rfl⟩ := Prod.mk.inj made
    exact Nat.zero_le 1
  | .file path =>
    rw [StopwordOrigin.toSet] at made
    split at made
    all_goals
      obtain ⟨-, rfl⟩ := Prod.mk.inj made
      exact Nat.le_refl 1

end SharedStopwords

end CorpusTally
