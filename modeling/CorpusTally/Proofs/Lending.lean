import CorpusTally.Buffers
import CorpusTally.Proofs.Run
import CorpusTally.Stats
import Mathlib.Algebra.Order.BigOperators.Group.List
import Mathlib.Algebra.Order.Group.Nat
import Mathlib.Algebra.Ring.Nat
import Mathlib.Data.List.Count
import Mathlib.Data.List.Range

/-!
Buffers that are lent to any number of hands at once. Taking one and giving it back go on in steps, between which
other hands may come. Every buffer is in one place all the time, and comes to the next hand empty.
-/

namespace CorpusTally

namespace Loans

/-- A buffer goes by the number under which it was made. -/
structure Buffer where
  number : Nat
  text : String

/-- What can be told of a run afterwards. An acquire goes by the number of its pop, which tells what was idle. -/
inductive Mark where
  | popped (idle : List Buffer)
  | counted (acquire : Nat) (hit : Bool)
  | lent (acquire : Nat) (buffer : Buffer)
  | discarded (buffer : Buffer) (idle : List Buffer)

namespace Mark

def pop? : Mark → Option (List Buffer)
  | popped idle => some idle
  | counted _ _ | lent _ _ | discarded _ _ => none

def count? : Mark → Option (Nat × Bool)
  | counted acquire hit => some (acquire, hit)
  | popped _ | lent _ _ | discarded _ _ => none

def discarded? : Mark → Option Buffer
  | discarded buffer _ => some buffer
  | popped _ | counted _ _ | lent _ _ => none

end Mark

def popsIn (history : List Mark) : List (List Buffer) := history.filterMap Mark.pop?

def countsIn (history : List Mark) : List (Nat × Bool) := history.filterMap Mark.count?

def hitsIn (history : List Mark) : Nat := (countsIn history).countP fun entry => entry.2 = true

def missesIn (history : List Mark) : Nat := (countsIn history).countP fun entry => entry.2 = false

def discardedIn (history : List Mark) : List Buffer := history.filterMap Mark.discarded?

structure Stock where
  idle : List Buffer := []
  stats : Stats := {}
  made : Nat := 0
  history : List Mark := []

namespace Stock

def mark (s : Stock) (mark : Mark) : Stock := { s with history := s.history ++ [mark] }

def acquires (s : Stock) : Nat := (popsIn s.history).length

@[simp] theorem mark_idle (s : Stock) (m : Mark) : (s.mark m).idle = s.idle := rfl

@[simp] theorem mark_made (s : Stock) (m : Mark) : (s.mark m).made = s.made := rfl

end Stock

/-- How far a hand has come. What it holds it takes out of its guard and clears before it gives it back. -/
inductive Hand where
  | free
  | popped (acquire : Nat) (found : Option Buffer)
  | counted (acquire : Nat) (found : Option Buffer)
  | holds (buffer : Buffer)
  | taken (buffer : Buffer)
  | cleared (buffer : Buffer)

namespace Hand

/-- A pop and a push are done under the lock, a push with the look at how many are idle. The count comes after the
pop, the clearing before the push, and either leaves room for others. -/
inductive Step : Stock × Hand → Stock × Hand → Prop
  | pop {s} : Step (s, .free) ({ s.mark (.popped s.idle) with idle := s.idle.tail }, .popped s.acquires s.idle.head?)
  | count {s n found} : Step (s, .popped n found) ({ s.mark (.counted n found.isSome) with
      stats := s.stats.record (.buffer found.isSome) }, .counted n found)
  | reuse {s n buffer} : Step (s, .counted n (some buffer)) (s.mark (.lent n buffer), .holds buffer)
  | make {s n} : Step (s, .counted n none) ({ s.mark (.lent n ⟨s.made, ""⟩) with
      made := s.made + 1 }, .holds ⟨s.made, ""⟩)
  | write {s buffer text} : Step (s, .holds buffer) (s, .holds { buffer with text })
  | take {s buffer} : Step (s, .holds buffer) (s, .taken buffer)
  | clear {s buffer} : Step (s, .taken buffer) (s, .cleared { buffer with text := "" })
  | keep {s buffer} (room : s.idle.length < Buffers.maxIdle) :
      Step (s, .cleared buffer) ({ s with idle := buffer :: s.idle }, .free)
  | discard {s buffer} (full : ¬ s.idle.length < Buffers.maxIdle) :
      Step (s, .cleared buffer) (s.mark (.discarded buffer s.idle), .free)

end Hand

def Stock.buffers (s : Stock) : Buffers where
  idle := s.idle.map Buffer.text
  hits := s.stats.bufferHits
  misses := s.stats.bufferMisses

theorem reaches_lend (s : Stock) : ∃ s' buffer, Reaches Hand.Step (s, .free) (s', .holds buffer) ∧
    s.buffers.lend = (buffer.text, s'.buffers) := by
  obtain ⟨idle, stats, made, history⟩ := s
  cases idle with
  | nil => exact ⟨_, _, .head .pop (.head .count (.single .make)), rfl⟩
  | cons buffer idle => exact ⟨_, _, .head .pop (.head .count (.single .reuse)), rfl⟩

theorem reaches_takeBack (s : Stock) (buffer : Buffer) :
    ∃ s', Reaches Hand.Step (s, .holds buffer) (s', .free) ∧ s'.buffers = s.buffers.takeBack := by
  by_cases room : s.idle.length < Buffers.maxIdle
  · refine ⟨_, .head .take (.head .clear (.single (.keep room))), ?_⟩
    rw [Buffers.takeBack, if_pos (by simpa [Stock.buffers] using room)]
    rfl
  · refine ⟨_, .head .take (.head .clear (.single (.discard room))), ?_⟩
    rw [Buffers.takeBack, if_neg (by simpa [Stock.buffers] using room)]
    rfl

open Stock

variable {s s' : Stock} {h h' : Hand} {history later : List Mark} {mark : Mark}

def Mark.Right (history : List Mark) : Mark → Prop
  | popped _ => True
  | counted acquire hit => ∃ idle, (popsIn history)[acquire]? = some idle ∧ (hit = true ↔ idle ≠ [])
  | lent _ buffer => buffer.text = ""
  | discarded _ idle => idle.length = Buffers.maxIdle

theorem getElem?_popsIn_of_prefix {acquire : Nat} {idle : List Buffer} (more : history <+: later)
    (here : (popsIn history)[acquire]? = some idle) : (popsIn later)[acquire]? = some idle := by
  obtain ⟨marks, rfl⟩ := more
  obtain ⟨inside, -⟩ := List.getElem?_eq_some_iff.mp here
  have longer : popsIn (history ++ marks) = popsIn history ++ popsIn marks := List.filterMap_append
  rw [longer, List.getElem?_append_left inside]
  exact here

theorem Mark.Right.mono (right : mark.Right history) (more : history <+: later) : mark.Right later := by
  cases mark with
  | popped | lent | discarded => exact right
  | counted acquire hit =>
    obtain ⟨idle, here, law⟩ := right
    exact ⟨idle, getElem?_popsIn_of_prefix more here, law⟩

private theorem filterMap_mark {α : Type} (read : Mark → Option α) (s : Stock) (mark : Mark) :
    (s.mark mark).history.filterMap read = s.history.filterMap read ++ (read mark).toList := by
  rw [Stock.mark, List.filterMap_append]
  cases found : read mark <;> simp [found]

@[simp] theorem popsIn_mark (s : Stock) (mark : Mark) :
    popsIn (s.mark mark).history = popsIn s.history ++ mark.pop?.toList := filterMap_mark Mark.pop? s mark

@[simp] theorem countsIn_mark (s : Stock) (mark : Mark) :
    countsIn (s.mark mark).history = countsIn s.history ++ mark.count?.toList := filterMap_mark Mark.count? s mark

@[simp] theorem discardedIn_mark (s : Stock) (mark : Mark) :
    discardedIn (s.mark mark).history = discardedIn s.history ++ mark.discarded?.toList :=
  filterMap_mark Mark.discarded? s mark

@[simp] theorem hitsIn_mark (s : Stock) (mark : Mark) : hitsIn (s.mark mark).history =
    hitsIn s.history + mark.count?.toList.countP fun entry => entry.2 = true := by
  rw [hitsIn, countsIn_mark, List.countP_append, hitsIn]

@[simp] theorem missesIn_mark (s : Stock) (mark : Mark) : missesIn (s.mark mark).history =
    missesIn s.history + mark.count?.toList.countP fun entry => entry.2 = false := by
  rw [missesIn, countsIn_mark, List.countP_append, missesIn]

theorem length_countsIn (history : List Mark) : (countsIn history).length = hitsIn history + missesIn history := by
  rw [List.length_eq_countP_add_countP (fun entry : Nat × Bool => entry.2 = true)]
  simp [hitsIn, missesIn]

structure Stock.Valid (s : Stock) : Prop where
  marks : ∀ mark ∈ s.history, mark.Right s.history
  clean : ∀ buffer ∈ s.idle, buffer.text = ""
  few : s.idle.length ≤ Buffers.maxIdle
  hits : s.stats.bufferHits = (hitsIn s.history).toUInt64
  misses : s.stats.bufferMisses = (missesIn s.history).toUInt64

theorem Stock.Valid.marks_mark (valid : s.Valid) (right : mark.Right (s.mark mark).history) :
    ∀ other ∈ (s.mark mark).history, other.Right (s.mark mark).history := by
  intro other mem
  rcases List.mem_append.mp mem with before | last
  · exact (valid.marks other before).mono (List.prefix_append _ _)
  · rwa [List.mem_singleton.mp last]

theorem Stock.Valid.marked (valid : s.Valid) (right : mark.Right (s.mark mark).history)
    (uncounted : mark.count? = none) : (s.mark mark).Valid where
  marks := valid.marks_mark right
  clean := valid.clean
  few := valid.few
  hits := by
    rw [hitsIn_mark, uncounted, Option.toList_none, List.countP_nil, Nat.add_zero]
    exact valid.hits
  misses := by
    rw [missesIn_mark, uncounted, Option.toList_none, List.countP_nil, Nat.add_zero]
    exact valid.misses

namespace Hand

def Fits (history : List Mark) : Hand → Prop
  | free | holds _ | taken _ => True
  | popped acquire found => (∃ idle, (popsIn history)[acquire]? = some idle ∧ found = idle.head?) ∧
    ∀ buffer ∈ found, buffer.text = ""
  | counted _ found => ∀ buffer ∈ found, buffer.text = ""
  | cleared buffer => buffer.text = ""

def buffers : Hand → List Buffer
  | free => []
  | popped _ found | counted _ found => found.toList
  | holds buffer | taken buffer | cleared buffer => [buffer]

def uncounted : Hand → List Nat
  | popped acquire _ => [acquire]
  | free | counted _ _ | holds _ | taken _ | cleared _ => []

def waits : Hand → Nat
  | counted _ none => 1
  | free | popped _ _ | counted _ (some _) | holds _ | taken _ | cleared _ => 0

theorem Step.history_prefix (step : Step (s, h) (s', h')) : s.history <+: s'.history := by
  cases step with
  | write | take | clear | keep => exact List.prefix_refl _
  | pop | count | reuse | make | discard => exact List.prefix_append _ _

theorem Fits.mono (fits : h.Fits history) (more : history <+: later) : h.Fits later := by
  cases h with
  | free | counted | holds | taken | cleared => exact fits
  | popped acquire found =>
    obtain ⟨⟨idle, here, first⟩, clean⟩ := fits
    exact ⟨⟨idle, getElem?_popsIn_of_prefix more here, first⟩, clean⟩

theorem Step.keeps (step : Step (s, h) (s', h')) (valid : s.Valid) (fits : h.Fits s.history) :
    s'.Valid ∧ h'.Fits s'.history := by
  cases step with
  | pop =>
    have marked : (s.mark (.popped s.idle)).Valid := valid.marked trivial rfl
    refine ⟨⟨marked.marks, ?_, ?_, marked.hits, marked.misses⟩, ⟨s.idle, ?_, rfl⟩, ?_⟩
    · intro buffer mem
      exact valid.clean buffer (List.mem_of_mem_tail mem)
    · have shorter : s.idle.tail.length ≤ s.idle.length := by simp
      exact shorter.trans valid.few
    · rw [popsIn_mark, acquires]
      exact List.getElem?_concat_length
    · intro buffer first
      exact valid.clean buffer (List.mem_of_mem_head? first)
  | @count _ n found =>
    obtain ⟨⟨idle, here, first⟩, clean⟩ := fits
    -- what is idle by now may be different, so that the hit is judged by what the pop left in the history
    have right : (Mark.counted n found.isSome).Right (s.mark (.counted n found.isSome)).history := by
      refine ⟨idle, getElem?_popsIn_of_prefix (List.prefix_append _ _) here, ?_⟩
      rw [first]
      simp
    refine ⟨⟨valid.marks_mark right, valid.clean, valid.few, ?_, ?_⟩, clean⟩
    · rw [hitsIn_mark]
      cases found with
      | none => exact valid.hits
      | some buffer => simp [Stats.record, Mark.count?, valid.hits]
    · rw [missesIn_mark]
      cases found with
      | none => simp [Stats.record, Mark.count?, valid.misses]
      | some buffer => exact valid.misses
  | reuse => exact ⟨valid.marked (fits _ rfl) rfl, trivial⟩
  | @make _ n =>
    have marked : (s.mark (.lent n ⟨s.made, ""⟩)).Valid := valid.marked rfl rfl
    exact ⟨⟨marked.marks, marked.clean, marked.few, marked.hits, marked.misses⟩, trivial⟩
  | write => exact ⟨valid, trivial⟩
  | take => exact ⟨valid, trivial⟩
  | clear => exact ⟨valid, rfl⟩
  | keep room =>
    refine ⟨⟨valid.marks, ?_, room, valid.hits, valid.misses⟩, trivial⟩
    exact List.forall_mem_cons.mpr ⟨fits, valid.clean⟩
  | discard full =>
    have whole : s.idle.length = Buffers.maxIdle := Nat.le_antisymm valid.few (Nat.not_lt.mp full)
    exact ⟨valid.marked whole rfl, trivial⟩

private theorem perm_range_succ (items : List Nat) (n : Nat) :
    (n :: (items ++ List.range n)).Perm (items ++ List.range (n + 1)) := by
  rw [List.range_succ, ← List.append_assoc]
  exact (List.perm_append_singleton n (items ++ List.range n)).symm

def numbers (s : Stock) (h : Hand) : List Nat :=
  (h.buffers ++ (s.idle ++ discardedIn s.history)).map Buffer.number

/-- A step moves buffers, and what comes to them is what is made. -/
theorem Step.numbers_perm (step : Step (s, h) (s', h')) :
    (numbers s' h' ++ List.range s.made).Perm (numbers s h ++ List.range s'.made) := by
  cases step with
  | pop => cases idle : s.idle <;> simp [numbers, buffers, idle, Mark.discarded?]
  | make =>
    simp only [numbers, buffers, mark_idle, discardedIn_mark, Mark.discarded?, Option.toList_none, List.append_nil]
    exact perm_range_succ _ s.made
  | discard =>
    refine List.Perm.append_right _ (List.Perm.map _ ?_)
    simp only [buffers, mark_idle, discardedIn_mark, Mark.discarded?, Option.toList_some, ← List.append_assoc]
    exact List.perm_append_comm
  | count | reuse => simp [numbers, buffers, Mark.discarded?]
  | write | take | clear | keep => simp [numbers, buffers]

def begun (s : Stock) (h : Hand) : List Nat := h.uncounted ++ (countsIn s.history).map Prod.fst

theorem Step.begun_perm (step : Step (s, h) (s', h')) :
    (begun s' h' ++ List.range s.acquires).Perm (begun s h ++ List.range s'.acquires) := by
  cases step with
  | pop =>
    simp only [begun, uncounted, acquires, popsIn_mark, countsIn_mark, Mark.pop?, Mark.count?, Option.toList_some,
      Option.toList_none, List.append_nil, List.length_append, List.length_singleton]
    exact perm_range_succ _ s.acquires
  | count =>
    simp only [begun, uncounted, acquires, popsIn_mark, countsIn_mark, Mark.pop?, Mark.count?, Option.toList_some,
      Option.toList_none, List.map_append, List.nil_append, List.append_nil]
    exact List.perm_append_comm.append_right _
  | reuse | make | discard => simp [begun, uncounted, acquires, Mark.pop?, Mark.count?]
  | write | take | clear | keep => exact .rfl

theorem Step.missed (step : Step (s, h) (s', h')) :
    missesIn s'.history + s.made + h.waits = missesIn s.history + s'.made + h'.waits := by
  cases step with
  | @count _ n found =>
    cases found with
    | none =>
      simp only [missesIn_mark, Mark.count?, waits, mark_made, Option.isSome_none, Option.toList_some,
        List.countP_singleton, decide_true, if_true]
      omega
    | some buffer => simp [waits, Mark.count?]
  | make =>
    simp only [missesIn_mark, Mark.count?, waits, Option.toList_none, List.countP_nil]
    omega
  | pop | reuse | discard => simp [waits, Mark.count?]
  | write | take | clear | keep => rfl

end Hand

inductive Step : Stock × List Hand → Stock × List Hand → Prop
  | hand {s s' pre post h h'} (inner : Hand.Step (s, h) (s', h')) :
      Step (s, pre ++ h :: post) (s', pre ++ h' :: post)

def start (hands : Nat) : Stock × List Hand := ({}, List.replicate hands .free)

/-- Every buffer that was made is in one place, and every acquire that was begun is counted or about to be. -/
structure Valid (s : Stock) (hands : List Hand) : Prop where
  stock : s.Valid
  fits : ∀ h ∈ hands, h.Fits s.history
  numbers : ((hands.flatMap Hand.buffers ++ (s.idle ++ discardedIn s.history)).map Buffer.number).Perm
    (List.range s.made)
  begun : (hands.flatMap Hand.uncounted ++ (countsIn s.history).map Prod.fst).Perm (List.range s.acquires)
  missed : missesIn s.history = s.made + (hands.map Hand.waits).sum

variable {hands hands' pre post : List Hand}

private theorem perm_at_hand {α : Type} (parts : Hand → List α) (pre post : List Hand) (h : Hand) (rest : List α) :
    ((pre ++ h :: post).flatMap parts ++ rest).Perm ((pre ++ post).flatMap parts ++ (parts h ++ rest)) := by
  have mid := (flatMap_mid_perm parts pre post h).trans List.perm_append_comm
  rw [← List.append_assoc]
  exact mid.append_right rest

/-- What a part of the whole gains, the whole gains. -/
private theorem perm_range_of_part {own own' others : List Nat} {m m' : Nat}
    (before : (others ++ own).Perm (List.range m))
    (moved : (own' ++ List.range m).Perm (own ++ List.range m')) : (others ++ own').Perm (List.range m') := by
  apply (List.perm_append_right_iff (List.range m)).mp
  rw [List.append_assoc]
  calc (others ++ (own' ++ List.range m)).Perm (others ++ (own ++ List.range m')) := moved.append_left others
    _ = others ++ own ++ List.range m' := (List.append_assoc ..).symm
    (others ++ own ++ List.range m').Perm (List.range m ++ List.range m') := before.append_right _
    (List.range m ++ List.range m').Perm (List.range m' ++ List.range m) := List.perm_append_comm

theorem Step.keeps (step : Step (s, hands) (s', hands')) (valid : Valid s hands) : Valid s' hands' := by
  cases step with
  | @hand _ _ pre post h h' inner =>
    obtain ⟨stock, fits⟩ := inner.keeps valid.stock (valid.fits h (by simp))
    refine ⟨stock, ?_, ?_, ?_, ?_⟩
    · intro other mem
      rcases mem_mid.mp mem with rfl | outside
      · exact fits
      · exact (valid.fits other (mem_mid.mpr (.inr outside))).mono inner.history_prefix
    · have before := ((perm_at_hand Hand.buffers pre post h _).map Buffer.number).symm.trans valid.numbers
      have after := (perm_at_hand Hand.buffers pre post h' (s'.idle ++ discardedIn s'.history)).map Buffer.number
      rw [List.map_append] at before
      exact (after.trans (.of_eq List.map_append)).trans (perm_range_of_part before inner.numbers_perm)
    · have before := (perm_at_hand Hand.uncounted pre post h _).symm.trans valid.begun
      have after := perm_at_hand Hand.uncounted pre post h' ((countsIn s'.history).map Prod.fst)
      exact after.trans (perm_range_of_part before inner.begun_perm)
    · have before := valid.missed
      have moved := inner.missed
      simp only [List.map_append, List.map_cons, List.sum_append, List.sum_cons] at before ⊢
      omega

theorem valid_start (count : Nat) : Valid (start count).1 (start count).2 where
  stock := ⟨by simp [start], by simp [start], Nat.zero_le _, rfl, rfl⟩
  fits h mem := by
    rw [List.eq_of_mem_replicate mem]
    trivial
  numbers := by simp [start, Hand.buffers, discardedIn]
  begun := by simp [start, Hand.uncounted, countsIn, acquires, popsIn]
  missed := by simp [start, Hand.waits, missesIn, countsIn]

def Quiet (hands : List Hand) : Prop := ∀ h ∈ hands, h = .free ∨ ∃ buffer, h = .holds buffer

def Hand.held : Hand → List Buffer
  | holds buffer => [buffer]
  | free | popped _ _ | counted _ _ | taken _ | cleared _ => []

def heldIn (hands : List Hand) : List Buffer := hands.flatMap Hand.held

theorem Quiet.buffers_eq (quiet : Quiet hands) : hands.flatMap Hand.buffers = heldIn hands := by
  apply List.flatMap_congr
  intro h mem
  rcases quiet h mem with rfl | ⟨buffer, rfl⟩ <;> rfl

theorem Quiet.uncounted_eq (quiet : Quiet hands) : hands.flatMap Hand.uncounted = [] := by
  apply List.flatMap_eq_nil_iff.mpr
  intro h mem
  rcases quiet h mem with rfl | ⟨buffer, rfl⟩ <;> rfl

theorem Quiet.waits_eq (quiet : Quiet hands) : (hands.map Hand.waits).sum = 0 := by
  apply List.sum_eq_zero_iff_forall_eq_nat.mpr
  intro n mem
  obtain ⟨h, inside, rfl⟩ := List.mem_map.mp mem
  rcases quiet h inside with rfl | ⟨buffer, rfl⟩ <;> rfl

/-- Every acquire is counted, and as many are misses as there are buffers. -/
theorem Valid.figures (valid : Valid s hands) (quiet : Quiet hands) :
    hitsIn s.history + missesIn s.history = s.acquires ∧
      missesIn s.history = s.idle.length + (heldIn hands).length + (discardedIn s.history).length := by
  constructor
  · have whole := valid.begun.length_eq
    rw [quiet.uncounted_eq, List.nil_append, List.length_map, List.length_range] at whole
    rw [← length_countsIn, whole]
  · have whole := valid.numbers.length_eq
    rw [quiet.buffers_eq, List.length_map, List.length_range, List.length_append, List.length_append] at whole
    rw [valid.missed, quiet.waits_eq]
    omega

/-- Any number of hands take buffers, write to them and give them back. In every order of their steps what is idle
and what is lent is empty, and no more is idle than may be; an acquire is a hit if something was idle at its pop, and
what is discarded found as much idle as may be. No buffer is in two places. Whenever no hand is on its way, the hits
and misses are the acquires, and the misses the buffers that are idle, held or discarded; with 64 bits for each of
them, which are enough for fewer acquires than that. -/
theorem balanced_of_reaches (count : Nat) (run : Reaches Step (start count) (s, hands)) :
    ((∀ text ∈ s.buffers.idle, text = "") ∧ s.buffers.idle.length ≤ Buffers.maxIdle) ∧
      (∀ acquire buffer, .lent acquire buffer ∈ s.history → buffer.text = "") ∧
      (s.buffers.hits = (hitsIn s.history).toUInt64 ∧ s.buffers.misses = (missesIn s.history).toUInt64 ∧
        ∀ acquire hit, .counted acquire hit ∈ s.history →
          ∃ idle, (popsIn s.history)[acquire]? = some idle ∧ (hit = true ↔ idle ≠ [])) ∧
      (∀ buffer idle, .discarded buffer idle ∈ s.history → idle.length = Buffers.maxIdle) ∧
      ((hands.flatMap Hand.buffers ++ (s.idle ++ discardedIn s.history)).map Buffer.number).Nodup ∧
      (Quiet hands →
        ((countsIn s.history).map Prod.fst).Perm (List.range s.acquires) ∧
        s.buffers.hits + s.buffers.misses = s.acquires.toUInt64 ∧
        s.buffers.misses =
          (s.idle.length + (heldIn hands).length + (discardedIn s.history).length).toUInt64 ∧
        (s.acquires < 2 ^ 64 → s.buffers.hits.toNat + s.buffers.misses.toNat = s.acquires ∧
          s.buffers.misses.toNat = s.idle.length + (heldIn hands).length + (discardedIn s.history).length)) := by
  have keeps : ∀ {a b : Stock × List Hand}, Valid a.1 a.2 → Step a b → Valid b.1 b.2 :=
    fun valid step => step.keeps valid
  have valid : Valid s hands := run.keeps keeps (valid_start count)
  have stock := valid.stock
  refine ⟨⟨?_, ?_⟩, ?_, ⟨stock.hits, stock.misses, ?_⟩, ?_, ?_, ?_⟩
  · intro text mem
    obtain ⟨buffer, inside, rfl⟩ := List.mem_map.mp mem
    exact stock.clean buffer inside
  · rw [Stock.buffers, List.length_map]
    exact stock.few
  · intro acquire buffer mem
    exact stock.marks _ mem
  · intro acquire hit mem
    exact stock.marks _ mem
  · intro buffer idle mem
    exact stock.marks _ mem
  · exact valid.numbers.nodup_iff.mpr List.nodup_range
  · intro quiet
    obtain ⟨all, missed⟩ := valid.figures quiet
    have begun := valid.begun
    rw [quiet.uncounted_eq, List.nil_append] at begun
    have hits : s.buffers.hits = (hitsIn s.history).toUInt64 := stock.hits
    have misses : s.buffers.misses = (missesIn s.history).toUInt64 := stock.misses
    refine ⟨begun, ?_, ?_, ?_⟩
    · rw [hits, misses, ← all]
      exact (UInt64.ofNat_add _ _).symm
    · rw [misses, missed]
    · intro few
      have hitsFit : (hitsIn s.history).toUInt64.toNat = hitsIn s.history :=
        UInt64.toNat_ofNat_of_lt' (show hitsIn s.history < 2 ^ 64 by omega)
      have missesFit : (missesIn s.history).toUInt64.toNat = missesIn s.history :=
        UInt64.toNat_ofNat_of_lt' (show missesIn s.history < 2 ^ 64 by omega)
      rw [hits, misses, hitsFit, missesFit]
      exact ⟨all, missed⟩

private theorem reaches_first (other : Hand) (run : Reaches Hand.Step (s, h) (s', h')) :
    Reaches Step (s, [h, other]) (s', [h', other]) :=
  run.within (fun a => (a.1, [] ++ a.2 :: [other])) fun step => .hand step

private theorem reaches_second (other : Hand) (run : Reaches Hand.Step (s, h) (s', h')) :
    Reaches Step (s, [other, h]) (s', [other, h']) :=
  run.within (fun a => (a.1, [other] ++ a.2 :: [])) fun step => .hand step

/-- Two hands find nothing idle at the same time. The first one gives its buffer back with a text in it, and gets it
again without. -/
theorem balanced_after_return : ∃ s first second,
    Reaches Step (start 2) (s, [.holds first, .holds second]) ∧ first.number = 0 ∧ first.text = "" ∧
      second.number = 1 ∧ s.acquires = 3 ∧ s.buffers.hits.toNat + s.buffers.misses.toNat = 3 ∧
      s.buffers.misses.toNat = 2 := by
  have pops : Reaches Step (start 2) _ :=
    (reaches_first .free (.single .pop)).trans (reaches_second _ (.single .pop))
  have lends := pops.trans ((reaches_first _ (.head .count (.single .make))).trans
    (reaches_second _ (.head .count (.single .make))))
  have write {s} : Hand.Step (s, .holds ⟨0, ""⟩) (s, .holds ⟨0, "alpha"⟩) := .write
  have drops := lends.trans (reaches_first _ (.head write (.head .take (.head .clear (.single (.keep (by decide)))))))
  have run := drops.trans (reaches_first _ (.head .pop (.head .count (.single .reuse))))
  obtain ⟨-, -, -, -, -, figures⟩ := balanced_of_reaches 2 run
  obtain ⟨-, -, -, exact⟩ := figures (by simp [Quiet])
  obtain ⟨all, missed⟩ := exact (by decide)
  exact ⟨_, _, _, run, rfl, rfl, rfl, rfl, all, missed⟩

end Loans

end CorpusTally
