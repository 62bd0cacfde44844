import CorpusTally.Proofs.Counting.Tally
import CorpusTally.Proofs.Counting.Tokens
import CorpusTally.Proofs.Crew
import CorpusTally.Proofs.Stages.Network
import CorpusTally.Workbench

/-!
The count of one chunk, step by step. A short chunk is done by one thread with two buffers, a long one
runs through the stages; either way the tally of its tokens comes out, whatever other threads do to the
workbench they share.
-/

namespace CorpusTally

namespace Stage

def all : List Stage := [.lowercase, .strip, .tokenize, .filter]

theorem apply_filter (set : StopwordSet) (words : List String) :
    Stage.filter.apply set words = words.filter fun word => !set.contains word := by
  induction words with
  | nil => rfl
  | cons word words ih =>
    rw [apply_cons, ih, step]
    cases listed : set.contains word <;> simp [listed]

theorem applyAll_all (set : StopwordSet) (text : String) :
    applyAll set all [text] = keptTokens set text := by
  have words : applyAll set all [text] = Stage.filter.apply set (tokens text) := by
    simp [applyAll, all, apply, step, tokens]
  rw [words, apply_filter, keptTokens]

end Stage

inductive ChunkTask where
  | opened (text : String)
  | lowered (text : String)
  | cleaned (text : String)
  | filtering (found kept : List String)
  | returning (kept : List String)
  | streamed (flow : Flow) (received : List String)
  | collected (words : List String)
  | counted (counts : Except Crash Tally)

def tallyWords (words : List String) : Except Crash (Tally × UInt64) := do
  let counts ← Tally.ofWords words
  let total ← counts.total
  return (counts, total)

namespace ChunkTask

inductive Step (read : ReadFile) : Workbench × ChunkTask → Workbench × ChunkTask → Prop
  | lower {w text} (short : isShort text = true) :
      Step read (w, opened text) ({ w with tokenizer := w.tokenizer.lendBuffer.2 },
        lowered (w.tokenizer.lendBuffer.1 ++ foldText text))
  | clean {w text} :
      Step read (w, lowered text) ({ w with tokenizer := w.tokenizer.lendBuffer.2 },
        cleaned (w.tokenizer.lendBuffer.1 ++ stripText text))
  | split {w text} : Step read (w, cleaned text) (w, filtering (splitBlanks text) [])
  | filter {w word found kept} :
      Step read (w, filtering (word :: found) kept)
        ({ w with tokenizer := (w.tokenizer.query read word).2 },
          filtering found (if (w.tokenizer.query read word).1 then kept else kept ++ [word]))
  | giveBackFirst {w kept} :
      Step read (w, filtering [] kept) ({ w with tokenizer := w.tokenizer.takeBackBuffer }, returning kept)
  | giveBackSecond {w kept} :
      Step read (w, returning kept) ({ w with tokenizer := w.tokenizer.takeBackBuffer }, collected kept)
  | stream {w text} (long : isShort text = false) :
      Step read (w, opened text) (w, streamed (.chain Stage.all [text]) [])
  | thread {w t flow flow' received} (inner : Flow.Step read true (w.tokenizer, flow) (t, flow')) :
      Step read (w, streamed flow received) ({ w with tokenizer := t }, streamed flow' received)
  | receive {w flow word later received} (next : flow.queue = word :: later) :
      Step read (w, streamed flow received)
        (w, streamed (flow.withQueue later) (received ++ [word]))
  | endOfStream {w flow received} (drained : flow.queue = []) (closed : flow.isOpen = false) :
      Step read (w, streamed flow received) (w, collected received)
  | record {w words counts total} (tallied : tallyWords words = .ok (counts, total)) :
      Step read (w, collected words) (w.record (.chunk total), counted (.ok counts))
  | crash {w words e} (failed : tallyWords words = .error e) :
      Step read (w, collected words) (w, counted (.error e))

def result? : ChunkTask → Option (Except Crash Tally)
  | counted counts => some counts
  | _ => none

def Valid (set : StopwordSet) (text : String) : ChunkTask → Prop
  | opened same => same = text
  | lowered changed => changed = foldText text
  | cleaned changed => changed = stripText (foldText text)
  | filtering found kept =>
    kept ++ found.filter (fun word => !set.contains word) = keptTokens set text
  | returning kept => kept = keptTokens set text
  | streamed flow received => received ++ flow.rest set = keptTokens set text ∧ flow.Intact
  | collected words => words = keptTokens set text
  | counted counts => counts = .ok (Tally.tallyOf (keptTokens set text))

def rank (set : StopwordSet) : ChunkTask → Nat
  | opened text =>
    (splitBlanks (stripText (foldText text))).length + 6 +
      ((Flow.chain Stage.all [text]).rank set + ((Flow.chain Stage.all [text]).rest set).length + 2)
  | lowered text => (splitBlanks (stripText text)).length + 5
  | cleaned text => (splitBlanks text).length + 4
  | filtering found _ => found.length + 3
  | returning _ => 2
  | streamed flow _ => flow.rank set + (flow.rest set).length + 2
  | collected _ => 1
  | counted _ => 0

variable {read : ReadFile} {set : StopwordSet} {text : String} {w w' : Workbench}
variable {task task' : ChunkTask}

theorem tallyWords_eq {words : List String} (fits : words.length < 2 ^ 64) :
    tallyWords words = .ok (Tally.tallyOf words, words.length.toUInt64) := by
  have total := (Tally.tallyOf_counts fits).total fits
  rw [tallyWords, Tally.ofWords_eq fits]
  change (Tally.tallyOf words).total.bind _ = _
  rw [total]
  rfl

theorem Step.keeps (step : Step read (w, task) (w', task')) (serves : w.tokenizer.Serves read set)
    (fits : (keptTokens set text).length < 2 ^ 64) (valid : task.Valid set text) :
    w'.tokenizer.Serves read set ∧ task'.Valid set text := by
  cases step with
  | @lower _ opened =>
    obtain ⟨empty, left⟩ := serves.lendBuffer
    have same : opened = text := valid
    exact ⟨left, by simp [Valid, empty, same]⟩
  | @clean _ lowered =>
    obtain ⟨empty, left⟩ := serves.lendBuffer
    have same : lowered = foldText text := valid
    exact ⟨left, by simp [Valid, empty, same]⟩
  | @split _ cleaned =>
    have same : cleaned = stripText (foldText text) := valid
    exact ⟨serves, by simp [Valid, same, keptTokens, tokens]⟩
  | @filter _ word found kept =>
    obtain ⟨answer, left⟩ := serves.query word
    have all : kept ++ (word :: found).filter (fun word => !set.contains word) =
      keptTokens set text := valid
    refine ⟨left, ?_⟩
    rw [Valid, answer, ← all]
    cases listed : set.contains word <;> simp [listed]
  | giveBackFirst => exact ⟨serves.takeBackBuffer, by simpa [Valid] using valid⟩
  | giveBackSecond => exact ⟨serves.takeBackBuffer, valid⟩
  | @stream _ opened =>
    have same : opened = text := valid
    refine ⟨serves, ?_, Flow.intact_chain _ _⟩
    rw [Flow.rest_chain, Stage.applyAll_all, same, List.nil_append]
  | thread inner =>
    obtain ⟨left, -, same⟩ := inner.keeps serves
    refine ⟨left, ?_, inner.intact rfl valid.2⟩
    rw [same rfl]
    exact valid.1
  | receive next =>
    refine ⟨serves, ?_, (Flow.intact_withQueue _ _).mpr valid.2⟩
    rw [← valid.1, Flow.rest_of_queue next]
    simp
  | endOfStream drained closed =>
    refine ⟨serves, ?_⟩
    have all := valid.1
    rw [Flow.rest, drained, Flow.behind_of_closed closed] at all
    simpa [Valid] using all
  | @record _ words _ _ tallied =>
    have same : words = keptTokens set text := valid
    rw [same, tallyWords_eq fits, Except.ok.injEq, Prod.mk.injEq] at tallied
    exact ⟨serves, by rw [Valid, tallied.1]⟩
  | @crash _ words _ failed =>
    have same : words = keptTokens set text := valid
    rw [same, tallyWords_eq fits] at failed
    simp at failed

theorem Step.rank_lt (step : Step read (w, task) (w', task'))
    (serves : w.tokenizer.Serves read set) : task'.rank set < task.rank set := by
  cases step with
  | lower =>
    simp only [rank, serves.lendBuffer.1, String.empty_append]
    omega
  | clean =>
    simp only [rank, serves.lendBuffer.1, String.empty_append]
    omega
  | split => simp [rank]
  | filter => simp [rank]
  | giveBackFirst => simp [rank]
  | giveBackSecond => simp [rank]
  | stream =>
    simp only [rank]
    omega
  | thread inner =>
    have lower := inner.rank_lt serves
    have fewer := (inner.keeps serves).2.1.length_le
    simp only [rank] at lower fewer ⊢
    omega
  | receive next => simp [rank, Flow.rest_of_queue next]
  | endOfStream =>
    simp only [rank]
    omega
  | record => simp [rank]
  | crash => simp [rank]

theorem exists_step (read : ReadFile) (w : Workbench) (going : task.result? = none) :
    ∃ next, Step read (w, task) next := by
  match task with
  | opened text =>
    match length : isShort text with
    | true => exact ⟨_, .lower length⟩
    | false => exact ⟨_, .stream length⟩
  | lowered _ => exact ⟨_, .clean⟩
  | cleaned _ => exact ⟨_, .split⟩
  | filtering [] _ => exact ⟨_, .giveBackFirst⟩
  | filtering (_ :: _) _ => exact ⟨_, .filter⟩
  | returning _ => exact ⟨_, .giveBackSecond⟩
  | streamed flow received =>
    by_cases threads : flow.Finished
    · match next : flow.queue with
      | [] => exact ⟨_, .endOfStream next threads.closed⟩
      | word :: later => exact ⟨_, .receive next⟩
    · obtain ⟨⟨t, flow'⟩, inner⟩ := Flow.exists_step read true w.tokenizer flow threads
      exact ⟨_, .thread inner⟩
  | collected words =>
    match tallied : tallyWords words with
    | .ok (counts, total) => exact ⟨_, .record tallied⟩
    | .error e => exact ⟨_, .crash tallied⟩
  | counted _ => simp [result?] at going

theorem eq_of_result? {r : Except Crash Tally} (valid : task.Valid set text)
    (done : task.result? = some r) : r = .ok (Tally.tallyOf (keptTokens set text)) := by
  cases task <;> simp [result?] at done
  exact done ▸ valid

end ChunkTask

def chunkCraft (read : ReadFile) : Craft Workbench Chunk Tally where
  Task := ChunkTask
  start := fun chunk => .opened chunk.text
  Step := ChunkTask.Step read
  result? := ChunkTask.result?

def Workbench.Serves (read : ReadFile) (set : StopwordSet) (w : Workbench) : Prop :=
  w.tokenizer.Serves read set

def Countable (set : StopwordSet) (text : String) : Prop := (keptTokens set text).length < 2 ^ 64

def textTally (set : StopwordSet) (text : String) : Tally := Tally.tallyOf (keptTokens set text)

def chunkLaw (read : ReadFile) (set : StopwordSet) :
    (chunkCraft read).Law (Workbench.Serves read set) (fun chunk => Countable set chunk.text)
      (fun chunk => textTally set chunk.text) where
  Valid := fun chunk task => Countable set chunk.text ∧ ChunkTask.Valid set chunk.text task
  rank := ChunkTask.rank set
  begins := fun fits => ⟨fits, rfl⟩
  keeps := fun serves valid step =>
    have kept := step.keeps serves valid.1 valid.2
    ⟨kept.1, ⟨valid.1, kept.2⟩, step.rank_lt serves⟩
  moves := fun {w _ _} _ _ going => ChunkTask.exists_step read w going
  answers := fun valid done => ChunkTask.eq_of_result? valid.2 done

end CorpusTally
