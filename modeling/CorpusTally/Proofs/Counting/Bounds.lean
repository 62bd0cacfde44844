import CorpusTally.Proofs.Counting.Cut
import CorpusTally.Proofs.Counting.FanOut
import Mathlib.Algebra.Order.BigOperators.Group.List

/-!
Counting without a crash. All counts of a map together bound each of its counts, and a text has fewer words
than bytes, so that no sum of counts has more than 64 bits. An unordered map gives its entries in any order;
nothing here depends on it.
-/

namespace CorpusTally

namespace Tally

/-- Maps that are merged into one, each with its entries in any order. -/
inductive Merging : Tally → List Tally → Except Crash Tally → Prop
  | done {m} : Merging m [] (.ok m)
  | adopt {m part parts r} (blank : m.entries.isEmpty = true) (later : Merging part parts r) :
      Merging m (part :: parts) r
  | add {m part parts entries more r} (filled : m.entries.isEmpty = false)
      (order : entries.Perm part.entries) (added : m.addAll entries = .ok more)
      (later : Merging more parts r) : Merging m (part :: parts) r
  | crash {m part parts entries e} (filled : m.entries.isEmpty = false)
      (order : entries.Perm part.entries) (failed : m.addAll entries = .error e) :
      Merging m (part :: parts) (.error e)

theorem merging_foldlM (m : Tally) (parts : List Tally) : Merging m parts (parts.foldlM merge m) := by
  induction parts generalizing m with
  | nil => exact .done
  | cons part parts ih =>
    rw [List.foldlM_cons]
    by_cases blank : m.entries.isEmpty = true
    · have merged : m.merge part = .ok part := if_pos blank
      rw [merged]
      exact .adopt blank (ih part)
    · have filled := Bool.eq_false_iff.mpr blank
      have merged : m.merge part = m.addAll part.entries := if_neg blank
      rw [merged]
      cases added : m.addAll part.entries with
      | ok more => exact .add filled (List.Perm.refl _) added (ih more)
      | error e => exact .crash filled (List.Perm.refl _) added

private theorem mass_of_isEmpty {m : Tally} (blank : m.entries.isEmpty = true) : m.mass = 0 := by
  rw [mass, List.isEmpty_iff.mp blank]
  rfl

private theorem sumOf_perm {entries : Entries} {m : Tally} (order : entries.Perm m.entries) :
    sumOf (entries.map (·.2)) = m.mass := sumOf_eq_of_perm (order.map _)

theorem Merging.within {m : Tally} {parts : List Tally} {r : Except Crash Tally}
    (merging : Merging m parts r) (fits : m.mass + (parts.map mass).sum < 2 ^ 64) :
    ∃ merged, r = .ok merged ∧ merged.mass = m.mass + (parts.map mass).sum := by
  induction merging with
  | done => exact ⟨_, rfl, rfl⟩
  | adopt blank later ih =>
    rw [mass_of_isEmpty blank, Nat.zero_add, List.map_cons, List.sum_cons] at fits ⊢
    exact ih fits
  | @add m part parts entries more r filled order added later ih =>
    rw [List.map_cons, List.sum_cons, ← sumOf_perm order, ← Nat.add_assoc] at fits ⊢
    have here : m.mass + sumOf (entries.map (·.2)) < 2 ^ 64 := by omega
    obtain ⟨next, same, heavier⟩ := addAll_within here
    rw [added, Except.ok.injEq] at same
    rw [← heavier, ← same] at fits ⊢
    exact ih fits
  | @crash m part parts entries e filled order failed =>
    rw [List.map_cons, List.sum_cons, ← sumOf_perm order, ← Nat.add_assoc] at fits
    have here : m.mass + sumOf (entries.map (·.2)) < 2 ^ 64 := by omega
    obtain ⟨next, same, -⟩ := addAll_within here
    rw [failed] at same
    cases same

def AddsUpTo (m : Tally) (total : UInt64) : Prop :=
  ∀ counts : List UInt64, counts.Perm (m.entries.map (·.2)) → checkedSum counts = .ok total

theorem addsUpTo_mass {m : Tally} (fits : m.mass < 2 ^ 64) : m.AddsUpTo m.mass.toUInt64 := by
  intro counts order
  rw [checkedSum_perm order]
  exact m.total_eq.trans (if_pos fits)

theorem mass_textTally {set : StopwordSet} {text : String} (fits : Countable set text) :
    (textTally set text).mass = (keptTokens set text).length := (textTally_counts fits).mass_eq fits

end Tally

def ChunkTask.Crashed (task : ChunkTask) : Prop := ∃ e, task.result? = some (.error e)

namespace CountTask

variable {read : ReadFile} {set : StopwordSet} {text : String} {counters : Nat}

def Crashed : CountTask read → Prop
  | single task => task.Crashed
  | spread crew _ broken =>
    broken = true ∨ ∃ (job : Chunk) (task : ChunkTask),
      (.busy job task : Member (chunkCraft read)) ∈ crew.members ∧ task.Crashed
  | counted counts => ∃ e, counts = .error e
  | opened _ | merging _ _ => False

theorem Valid.not_crashed {task : CountTask read} (valid : task.Valid set text counters) :
    ¬ task.Crashed := by
  intro crashed
  cases task with
  | opened => exact crashed
  | single =>
    obtain ⟨e, failed⟩ := crashed
    simpa using ChunkTask.eq_of_result? valid failed
  | spread crew results broken =>
    rcases crashed with broke | ⟨job, task, mem, e, failed⟩
    · simp [broke] at valid
      exact absurd valid.2.1 (by simp)
    · have atWork := (valid.1.members _ mem).2.2
      simpa using ChunkTask.eq_of_result? atWork failed
  | merging => exact crashed
  | counted =>
    obtain ⟨e, failed⟩ := crashed
    have fine : _ = Except.ok _ := valid
    simp [failed] at fine

end CountTask

theorem sum_mass_of_perm {set : StopwordSet} {text : String} (fits : Countable set text)
    {counters : Nat} {order : List Chunk} (perm : order.Perm (Chunk.ofText text counters)) :
    ((order.map fun chunk => textTally set chunk.text).map Tally.mass).sum =
      (keptTokens set text).length := by
  have parts : (order.map fun chunk => textTally set chunk.text).map Tally.mass =
      order.map fun chunk => (keptTokens set chunk.text).length := by
    rw [List.map_map]
    refine List.map_congr_left fun chunk mem => ?_
    have small : Countable set chunk.text := Chunk.countable fits (perm.mem_iff.mp mem)
    rw [Function.comp_apply, Tally.mass_textTally small]
  have words := perm.flatMap_right fun chunk => keptTokens set chunk.text
  rw [Chunk.flatMap_keptTokens] at words
  rw [parts, ← words.length_eq, List.length_flatMap]

/-- Whoever counts the chunks, and in whatever order their tallies are merged, all sums have 64 bits. -/
theorem exists_merged_of_perm {set : StopwordSet} {text : String} (fits : Countable set text)
    {counters : Nat} {order : List Chunk} (perm : order.Perm (Chunk.ofText text counters)) :
    ∃ parts, order.mapM (fun chunk => Tally.ofWords (keptTokens set chunk.text)) = .ok parts ∧
      (∀ part ∈ parts, ∃ total, part.AddsUpTo total) ∧
      ∀ r, Tally.Merging .empty parts r →
        ∃ merged total, r = .ok merged ∧ merged.AddsUpTo total ∧ total.toNat ≤ text.utf8ByteSize := by
  have small (chunk : Chunk) (mem : chunk ∈ order) : Countable set chunk.text :=
    Chunk.countable fits (perm.mem_iff.mp mem)
  have each (chunk : Chunk) (mem : chunk ∈ order) :
      Tally.ofWords (keptTokens set chunk.text) = .ok (textTally set chunk.text) := by
    have few : (keptTokens set chunk.text).length < 2 ^ 64 := small chunk mem
    rw [Tally.ofWords_eq few, textTally]
  refine ⟨_, mapM_ok each, fun part mem => ?_, fun r merging => ?_⟩
  · obtain ⟨chunk, inside, rfl⟩ := List.mem_map.mp mem
    have few : (keptTokens set chunk.text).length < 2 ^ 64 := small chunk inside
    rw [← Tally.mass_textTally (small chunk inside)] at few
    exact ⟨_, Tally.addsUpTo_mass few⟩
  · have masses := sum_mass_of_perm fits perm
    have few : (keptTokens set text).length < 2 ^ 64 := fits
    rw [← masses] at few
    obtain ⟨merged, same, mass⟩ := merging.within (by rwa [Tally.mass_empty, Nat.zero_add])
    rw [Tally.mass_empty, Nat.zero_add] at mass
    rw [← mass] at few masses
    refine ⟨merged, _, same, Tally.addsUpTo_mass few, ?_⟩
    have value : merged.mass.toUInt64.toNat = merged.mass := UInt64.toNat_ofNat_of_lt' few
    rw [value, masses]
    exact length_keptTokens_le_size set text

theorem CountTask.not_crashed_of_reaches {read : ReadFile} {set : StopwordSet} {text : String}
    {counters : Nat} {w left : Workbench} {task : CountTask read} (serves : w.Serves read set)
    (fits : Countable set text)
    (run : Reaches (CountTask.Step read counters) (w, .opened text) (left, task)) : ¬ task.Crashed := by
  have law := (countLaw read set counters).settles text
  have begins := (countLaw read set counters).begins fits
  exact (run.keeps law.keeps ⟨serves, begins⟩).2.2.not_crashed

/-- Counting does not crash. The cut comes to its chunks. These can be counted and merged in any order, with
the entries of every map in any order, and all counts added up. No counter breaks down, one by one or in any
order of the steps of many. -/
theorem counts_without_crash (set : StopwordSet) (text : String)
    (fits : text.utf8ByteSize < 2 ^ 63) (counters : UInt64) :
    Chunk.cut text counters = .ok (Chunk.ofText text counters.toNat) ∧
      (∀ order : List Chunk, order.Perm (Chunk.ofText text counters.toNat) →
        ∃ parts, order.mapM (fun chunk => Tally.ofWords (keptTokens set chunk.text)) = .ok parts ∧
          (∀ part ∈ parts, ∃ total, part.AddsUpTo total) ∧
          ∀ r, Tally.Merging .empty parts r →
            ∃ merged total, r = .ok merged ∧ merged.AddsUpTo total ∧
              total.toNat ≤ text.utf8ByteSize) ∧
      ∀ (read : ReadFile) (w : Workbench), w.Serves read set →
        (∃ counted, w.count read counters.toNat text = .ok counted) ∧
          ∀ left task, Reaches (CountTask.Step read counters.toNat) (w, .opened text) (left, task) →
            ¬ task.Crashed := by
  have countable : Countable set text := countable_of_size set (by omega)
  refine ⟨Chunk.cut_eq fits counters, fun order perm => exists_merged_of_perm countable perm,
    fun read w serves => ⟨?_, fun left task run => CountTask.not_crashed_of_reaches serves countable run⟩⟩
  obtain ⟨left, counted, -⟩ := Workbench.count_eq serves countable counters.toNat
  exact ⟨_, counted⟩

/-- Two lines for two counters, the second of which is done first. -/
theorem cats_without_crash :
    ∃ parts merged total,
      Chunk.cut "The cat\nand the Cat." 2 = .ok [⟨0, "The cat"⟩, ⟨1, "and the Cat."⟩] ∧
        [⟨1, "and the Cat."⟩, ⟨0, "The cat"⟩].mapM (fun chunk : Chunk =>
          Tally.ofWords (keptTokens (.ofWords ["the"]) chunk.text)) = .ok parts ∧
        parts.foldlM Tally.merge .empty = .ok merged ∧ merged.AddsUpTo total ∧
        total.toNat ≤ 20 := by
  have chunks : Chunk.ofText "The cat\nand the Cat." (2 : UInt64).toNat =
    [⟨0, "The cat"⟩, ⟨1, "and the Cat."⟩] := by decide
  obtain ⟨cut, counted, -⟩ :=
    counts_without_crash (.ofWords ["the"]) "The cat\nand the Cat." (by decide) 2
  rw [chunks] at cut counted
  obtain ⟨parts, made, -, all⟩ := counted _ (List.Perm.swap _ _ _)
  obtain ⟨merged, total, folded, sum, few⟩ := all _ (Tally.merging_foldlM _ parts)
  exact ⟨parts, merged, total, cut, made, folded, sum, few⟩

end CorpusTally
