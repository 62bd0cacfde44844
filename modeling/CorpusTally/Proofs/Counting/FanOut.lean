import CorpusTally.Proofs.Counting.InTurn

/-!
Counting a text by counters that run side by side. A sender cuts the text into chunks while the counters
take them, and their tallies are merged in the order in which they came. For any number of counters and
any order of steps this is the tally of the tokens of the text.
-/

namespace CorpusTally

inductive CountTask (read : ReadFile) where
  | opened (text : String)
  | single (task : ChunkTask)
  | spread (crew : Crew (chunkCraft read)) (results : List Tally) (broken : Bool)
  | merging (merged : Tally) (results : List Tally)
  | counted (counts : Except Crash Tally)

namespace CountTask

def counterCrash : Crash := .raised "a scoped thread panicked"

inductive Step (read : ReadFile) (counters : Nat) :
    Workbench × CountTask read → Workbench × CountTask read → Prop
  | single {w text} (one : (isShort text || counters ≤ 1) = true) :
      Step read counters (w, opened text) (w, single (.opened text))
  | spread {w text} (many : (isShort text || counters ≤ 1) = false) :
      Step read counters (w, opened text)
        (w, spread (.start (chunkCraft read) counters (Chunk.ofText text counters) true) [] false)
  | work {w w' task task'} (inner : ChunkTask.Step read (w, task) (w', task')) :
      Step read counters (w, single task) (w', single task')
  | done {w task counts} (done : task.result? = some counts) :
      Step read counters (w, single task) (w, counted counts)
  | crew {w w' crew crew' event results broken}
      (inner : Crew.Step (chunkCraft read) (w, crew) event (w', crew')) :
      Step read counters (w, spread crew results broken)
        (w', spread crew' (results ++ event.results) (broken || event.breaks))
  | join {w crew results} (isOver : crew.Over) :
      Step read counters (w, spread crew results false) (w, merging .empty results)
  | fail {w crew results} (isOver : crew.Over) :
      Step read counters (w, spread crew results true) (w, counted (.error counterCrash))
  | merge {w merged more counts results} (added : merged.merge counts = .ok more) :
      Step read counters (w, merging merged (counts :: results)) (w, merging more results)
  | overflow {w merged counts results e} (failed : merged.merge counts = .error e) :
      Step read counters (w, merging merged (counts :: results)) (w, counted (.error e))
  | finish {w merged} : Step read counters (w, merging merged []) (w, counted (.ok merged))

variable {read : ReadFile} {set : StopwordSet} {text : String} {counters : Nat}
variable {w w' : Workbench} {task task' : CountTask read}

def result? : CountTask read → Option (Except Crash Tally)
  | counted counts => some counts
  | opened _ | single _ | spread _ _ _ | merging _ _ => none

/-- How the task stands to the text it began with. Every chunk is still due or has its tally among the
results, and the words of the results are those of the text in some order. -/
def Valid (set : StopwordSet) (text : String) (counters : Nat) : CountTask read → Prop
  | opened same => same = text
  | single task => task.Valid set text
  | spread crew results broken =>
    crew.Valid (chunkLaw read set) ∧ broken = false ∧
      ∃ done : List Chunk, results = done.map (fun chunk => textTally set chunk.text) ∧
        (done ++ crew.due).Perm (Chunk.ofText text counters)
  | merging merged results =>
    ∃ (words : List String) (parts : List (List String)),
      merged.Counts words ∧ results = parts.map Tally.tallyOf ∧
        (words ++ parts.flatten).Perm (keptTokens set text)
  | counted counts => counts = .ok (textTally set text)

/-- The steps that are left at most. A delivery is a step of the crew and leaves one for its merge. -/
def rank (set : StopwordSet) (counters : Nat) : CountTask read → Nat
  | opened text =>
    (ChunkTask.opened text).rank set + 2 +
      (2 * (Crew.start (chunkCraft read) counters (Chunk.ofText text counters) true).rank
        (chunkLaw read set) + 3)
  | single task => task.rank set + 1
  | spread crew results _ => 2 * crew.rank (chunkLaw read set) + results.length + 2
  | merging _ results => results.length + 1
  | counted _ => 0

private theorem valid_spread (fits : Countable set text) (positive : 0 < counters) :
    (spread (.start (chunkCraft read) counters (Chunk.ofText text counters) true) [] false).Valid
      set text counters := by
  refine ⟨Crew.valid_start _ positive (fun chunk mem => Chunk.countable fits mem) true, rfl, [], rfl, ?_⟩
  rw [List.nil_append, Crew.due_start]

private theorem valid_join {crew : Crew (chunkCraft read)} {results : List Tally} {broken : Bool}
    (valid : (spread crew results broken).Valid set text counters) (isOver : crew.Over) :
    (merging Tally.empty results : CountTask read).Valid set text counters := by
  obtain ⟨staffed, -, done, same, perm⟩ := valid
  rw [staffed.due_of_over isOver, List.append_nil] at perm
  refine ⟨[], done.map fun chunk => keptTokens set chunk.text, .of_empty, ?_, ?_⟩
  · simp only [same, List.map_map, Function.comp_def, textTally]
  · have words := perm.flatMap_right fun chunk => keptTokens set chunk.text
    rw [Chunk.flatMap_keptTokens] at words
    rwa [List.nil_append, ← List.flatMap_def]

private theorem valid_merge {merged counts : Tally} {results : List Tally}
    (fits : Countable set text)
    (valid : (merging merged (counts :: results) : CountTask read).Valid set text counters) :
    ∃ more, merged.merge counts = .ok more ∧
      (merging more results : CountTask read).Valid set text counters := by
  obtain ⟨words, parts, sum, same, perm⟩ := valid
  cases parts with
  | nil => simp at same
  | cons part parts =>
    obtain ⟨rfl, rfl⟩ := List.cons.inj same
    have length := perm.length_eq
    simp only [List.flatten_cons, List.length_append] at length
    unfold Countable at fits
    have counts : (Tally.tallyOf part).Counts part := Tally.tallyOf_counts (by omega)
    obtain ⟨more, added, all⟩ := sum.merge counts (by omega)
    refine ⟨more, added, words ++ part, parts, all, rfl, ?_⟩
    rwa [List.append_assoc, ← List.flatten_cons]

theorem Step.keeps (step : Step read counters (w, task) (w', task')) (serves : w.Serves read set)
    (fits : Countable set text) (valid : task.Valid set text counters) :
    w'.Serves read set ∧ task'.Valid set text counters := by
  cases step with
  | single => exact ⟨serves, valid⟩
  | @spread _ opened many =>
    have same : opened = text := valid
    subst same
    have several : ¬ counters ≤ 1 := fun few => by simp [few] at many
    exact ⟨serves, valid_spread fits (by omega)⟩
  | work inner => exact inner.keeps serves fits valid
  | done done => exact ⟨serves, ChunkTask.eq_of_result? valid done⟩
  | @crew _ _ _ _ event _ _ inner =>
    obtain ⟨staffed, rfl, done, rfl, perm⟩ := valid
    obtain ⟨left, kept, right⟩ := inner.keeps (chunkLaw read set) serves staffed
    have moved := inner.due_perm (chunkLaw read set) staffed
    refine ⟨left, kept, right.breaks_eq, done ++ event.jobs, ?_, ?_⟩
    · rw [right.results_eq, ← List.map_append]
    · rw [List.append_assoc]
      exact (moved.symm.append_left done).trans perm
  | join isOver => exact ⟨serves, valid_join valid isOver⟩
  | fail => exact absurd valid.2.1 (by simp)
  | merge added =>
    obtain ⟨more, same, kept⟩ := valid_merge fits valid
    rw [added, Except.ok.injEq] at same
    exact ⟨serves, same ▸ kept⟩
  | overflow failed =>
    obtain ⟨more, same, -⟩ := valid_merge fits valid
    simp [failed] at same
  | finish =>
    obtain ⟨words, parts, counts, same, perm⟩ := valid
    have none : parts = [] := List.map_eq_nil_iff.mp same.symm
    rw [none, List.flatten_nil, List.append_nil] at perm
    exact ⟨serves, congrArg Except.ok ((counts.perm perm).unique (textTally_counts fits))⟩

theorem Step.rank_lt (step : Step read counters (w, task) (w', task')) (serves : w.Serves read set)
    (valid : task.Valid set text counters) : task'.rank set counters < task.rank set counters := by
  cases step with
  | single =>
    simp only [rank]
    omega
  | spread =>
    simp only [rank, List.length_nil]
    omega
  | work inner =>
    have lower := inner.rank_lt serves
    simp only [rank]
    omega
  | done => simp [rank]
  | @crew _ _ _ _ event _ _ inner =>
    have lower := inner.rank_lt (chunkLaw read set) serves valid.1
    have few : event.results.length ≤ 1 := by cases event <;> simp [Event.results]
    simp only [rank, List.length_append]
    omega
  | join =>
    simp only [rank]
    omega
  | fail => simp [rank]
  | merge => simp [rank]
  | overflow => simp [rank]
  | finish => simp [rank]

theorem exists_step (serves : w.Serves read set) (valid : task.Valid set text counters)
    (going : task.result? = none) : ∃ next, Step read counters (w, task) next := by
  match task with
  | opened text =>
    match size : isShort text || counters ≤ 1 with
    | true => exact ⟨_, .single size⟩
    | false => exact ⟨_, .spread size⟩
  | single task =>
    match done : task.result? with
    | some counts => exact ⟨_, .done done⟩
    | none =>
      obtain ⟨⟨w', task'⟩, inner⟩ := ChunkTask.exists_step read w done
      exact ⟨_, .work inner⟩
  | spread crew results broken =>
    by_cases isOver : crew.Over
    · match broken with
      | true => exact ⟨_, .fail isOver⟩
      | false => exact ⟨_, .join isOver⟩
    · obtain ⟨event, ⟨w', crew'⟩, inner⟩ :=
        Crew.exists_step (chunkLaw read set) serves valid.1 isOver
      exact ⟨_, .crew inner⟩
  | merging merged [] => exact ⟨_, .finish⟩
  | merging merged (counts :: results) =>
    match added : merged.merge counts with
    | .ok more => exact ⟨_, .merge added⟩
    | .error e => exact ⟨_, .overflow added⟩
  | counted _ => simp [result?] at going

theorem eq_of_result? {r : Except Crash Tally} (valid : task.Valid set text counters)
    (done : task.result? = some r) : r = .ok (textTally set text) := by
  cases task <;> simp [result?] at done
  exact done ▸ valid

end CountTask

def countCraft (read : ReadFile) (counters : Nat) : Craft Workbench String Tally where
  Task := CountTask read
  start := .opened
  Step := CountTask.Step read counters
  result? := CountTask.result?

def countLaw (read : ReadFile) (set : StopwordSet) (counters : Nat) :
    (countCraft read counters).Law (Workbench.Serves read set) (Countable set) (textTally set) where
  Valid := fun text task => Countable set text ∧ CountTask.Valid set text counters task
  rank := CountTask.rank set counters
  begins := fun fits => ⟨fits, rfl⟩
  keeps := fun serves valid step =>
    have kept := step.keeps serves valid.1 valid.2
    ⟨kept.1, ⟨valid.1, kept.2⟩, step.rank_lt serves valid.2⟩
  moves := fun serves valid going => CountTask.exists_step serves valid.2 going
  answers := fun valid done => CountTask.eq_of_result? valid.2 done

theorem countable_of_size {text : String} (set : StopwordSet) (fits : text.utf8ByteSize < 2 ^ 64) :
    Countable set text := Nat.lt_of_le_of_lt (length_keptTokens_le_size set text) fits

theorem count?_textTally {set : StopwordSet} {text : String} (fits : Countable set text)
    (word : String) :
    ((textTally set text).count? word).map UInt64.toNat =
      if set.contains word = true ∨ word ∉ tokens text then none
      else some ((tokens text).count word) := by
  rw [textTally_counts fits word, count_keptTokens]
  by_cases listed : set.contains word = true <;> by_cases mem : word ∈ tokens text <;>
    simp [keptTokens, listed, mem]

/-- There is one tally of a text: each of its tokens that is no stopword with the number of its
occurrences. Every number of counters comes to it, in every order of steps, and one after the other as
well. -/
theorem exists_tally_of_reaches (read : ReadFile) (w : Workbench)
    (clean : w.tokenizer.buffers.Clean) (text : String) (fits : text.utf8ByteSize < 2 ^ 64) :
    ∃ m : Tally,
      (∀ word, (m.count? word).map UInt64.toNat =
        if (w.tokenizer.stopwords.view read).contains word = true ∨ word ∉ tokens text then none
        else some ((tokens text).count word)) ∧
      m.total = .ok (keptTokens (w.tokenizer.stopwords.view read) text).length.toUInt64 ∧
      ∀ counters : Nat,
        (∃ left, w.count read counters text = .ok (m, left)) ∧
        Ends (CountTask.Step read counters) (w, .opened text) ∧
        ∀ left task, Reaches (CountTask.Step read counters) (w, .opened text) (left, task) →
          (∃ next, CountTask.Step read counters (left, task) next) ∨ task = .counted (.ok m) := by
  have countable := countable_of_size (w.tokenizer.stopwords.view read) fits
  have serves : w.Serves read (w.tokenizer.stopwords.view read) := ⟨rfl, clean⟩
  refine ⟨textTally (w.tokenizer.stopwords.view read) text, count?_textTally countable,
    (textTally_counts countable).total countable, fun counters => ?_⟩
  obtain ⟨last, counted, -⟩ := Workbench.count_eq serves countable counters
  have law := (countLaw read (w.tokenizer.stopwords.view read) counters).settles text
  have begins := (countLaw read (w.tokenizer.stopwords.view read) counters).begins countable
  refine ⟨⟨last, counted⟩, law.ends ⟨serves, begins⟩, fun left task run => ?_⟩
  obtain ⟨after, valid⟩ := run.keeps law.keeps ⟨serves, begins⟩
  match task with
  | .counted r => exact .inr (congrArg CountTask.counted valid.2)
  | .opened _ | .single _ | .spread _ _ _ | .merging _ _ =>
    exact .inl (law.moves ⟨after, valid⟩ (by simp [countCraft, CountTask.result?]))

/-- A text whose words are counted alike by one counter and by many. -/
theorem exists_tally_of_cats :
    ∃ m : Tally, (m.count? "cat").map UInt64.toNat = some 2 ∧
      (m.count? "the").map UInt64.toNat = none ∧
      ∀ counters : Nat, ∃ left,
        ({ tokenizer := { stopwords := { origin := .words ["the"] } } } : Workbench).count
          (fun _ => .error .notText) counters "The cat\nand the Cat." = .ok (m, left) := by
  obtain ⟨m, counts, -, same⟩ := exists_tally_of_reaches (fun _ => .error .notText)
    { tokenizer := { stopwords := { origin := .words ["the"] } } } (by simp [Buffers.Clean])
    "The cat\nand the Cat." (by decide)
  refine ⟨m, (counts "cat").trans ?_, (counts "the").trans ?_, fun counters => (same counters).1⟩
  · decide +kernel
  · decide +kernel

end CorpusTally
