import CorpusTally.Proofs.Counting.Records
import CorpusTally.Stats

/-!
Counters of handles, one addition after the other. A recording is a few additions, and what additions come to does
not depend on their order.
-/

namespace CorpusTally

inductive Counter where
  | filesProcessed
  | filesFailed
  | bytesRead
  | chunksProcessed
  | tokensCounted
  | bufferHits
  | bufferMisses
  deriving DecidableEq

namespace Counter

def all : List Counter :=
  [filesProcessed, filesFailed, bytesRead, chunksProcessed, tokensCounted, bufferHits, bufferMisses]

def get : Counter → Stats → UInt64
  | filesProcessed, s => s.filesProcessed
  | filesFailed, s => s.filesFailed
  | bytesRead, s => s.bytesRead
  | chunksProcessed, s => s.chunksProcessed
  | tokensCounted, s => s.tokensCounted
  | bufferHits, s => s.bufferHits
  | bufferMisses, s => s.bufferMisses

def add : Counter → UInt64 → Stats → Stats
  | filesProcessed, n, s => { s with filesProcessed := s.filesProcessed + n }
  | filesFailed, n, s => { s with filesFailed := s.filesFailed + n }
  | bytesRead, n, s => { s with bytesRead := s.bytesRead + n }
  | chunksProcessed, n, s => { s with chunksProcessed := s.chunksProcessed + n }
  | tokensCounted, n, s => { s with tokensCounted := s.tokensCounted + n }
  | bufferHits, n, s => { s with bufferHits := s.bufferHits + n }
  | bufferMisses, n, s => { s with bufferMisses := s.bufferMisses + n }

def only (counter : Counter) (n : UInt64) : Stats := counter.add n 0

theorem add_eq (counter : Counter) (n : UInt64) (s : Stats) : counter.add n s = s + counter.only n := by
  cases counter <;>
    simp only [add, only, Stats.add_def, Stats.add, Stats.zero_def, UInt64.add_zero, UInt64.zero_add]

theorem mem_all (counter : Counter) : counter ∈ all := by
  cases counter <;> simp [all]

theorem get_zero (counter : Counter) : counter.get 0 = 0 := by
  cases counter <;> rfl

theorem get_add (counter : Counter) (a b : Stats) : counter.get (a + b) = counter.get a + counter.get b := by
  cases counter <;> rfl

end Counter

namespace Stats.Event

def amount : Event → Counter → Nat
  | fileProcessed _, .filesProcessed => 1
  | fileProcessed bytes, .bytesRead => bytes.toNat
  | fileFailed, .filesFailed => 1
  | chunk _, .chunksProcessed => 1
  | chunk tokens, .tokensCounted => tokens.toNat
  | buffer true, .bufferHits => 1
  | buffer false, .bufferMisses => 1
  | _, _ => 0

def total (counter : Counter) (events : List Event) : Nat := (events.map fun event : Event => event.amount counter).sum

def additions : Event → List (Counter × UInt64)
  | fileProcessed bytes => [(.filesProcessed, 1), (.bytesRead, bytes)]
  | fileFailed => [(.filesFailed, 1)]
  | chunk tokens => [(.chunksProcessed, 1), (.tokensCounted, tokens)]
  | buffer true => [(.bufferHits, 1)]
  | buffer false => [(.bufferMisses, 1)]

end Stats.Event

namespace Stats

def ofAdditions (additions : List (Counter × UInt64)) : Stats := (additions.map fun one => one.1.only one.2).sum

theorem ofAdditions_additions (event : Event) : ofAdditions event.additions = ofEvent event := by
  cases event with
  | fileProcessed bytes | fileFailed | chunk tokens =>
    simp [ofAdditions, Event.additions, ofEvent, record, Counter.only, Counter.add, add_def, add, zero_def]
  | buffer reused =>
    cases reused <;>
      simp [ofAdditions, Event.additions, ofEvent, record, Counter.only, Counter.add, add_def, add, zero_def]

theorem record_eq_foldl (s : Stats) (event : Event) :
    s.record event = event.additions.foldl (fun s one => one.1.add one.2 s) s := by
  cases event with
  | fileProcessed bytes | fileFailed | chunk tokens => rfl
  | buffer reused => cases reused <;> rfl

theorem get_ofEvent (counter : Counter) (event : Event) :
    counter.get (ofEvent event) = (event.amount counter).toUInt64 := by
  cases event with
  | fileProcessed bytes | fileFailed | chunk tokens =>
    cases counter <;> simp [Counter.get, ofEvent, record, Event.amount, zero_def]
  | buffer reused =>
    cases reused <;> cases counter <;> rfl

theorem get_sum_ofEvent (counter : Counter) (events : List Event) :
    (counter.get (events.map ofEvent).sum).toNat = Event.total counter events % 2 ^ 64 := by
  have words : counter.get (events.map ofEvent).sum = (Event.total counter events).toUInt64 := by
    induction events with
    | nil => exact counter.get_zero
    | cons event events ih =>
      rw [List.map_cons, List.sum_cons, counter.get_add, ih, get_ofEvent]
      exact (UInt64.ofNat_add _ _).symm
  rw [words]
  exact UInt64.toNat_ofNat'

end Stats

namespace MetricHandles

def start : MetricHandles := { families := [], handles := [] }

example : start.fresh = {} := rfl

def add (m : MetricHandles) (handle : Nat) (counter : Counter) (n : UInt64) : MetricHandles :=
  match m.family? handle with
  | some family => { m with families := m.families.modify family (counter.add n) }
  | none => m

variable {m : MetricHandles} {handle other : Nat}

@[simp] theorem family?_add (m : MetricHandles) (handle other : Nat) (counter : Counter) (n : UInt64) :
    (m.add handle counter n).family? other = m.family? other := by
  unfold add
  split <;> rfl

@[simp] theorem handles_add (m : MetricHandles) (handle : Nat) (counter : Counter) (n : UInt64) :
    (m.add handle counter n).handles = m.handles := by
  unfold add
  split <;> rfl

theorem families_add (m : MetricHandles) (handle family : Nat) (counter : Counter) (n : UInt64) :
    (m.add handle counter n).families[family]? =
      if m.family? handle = some family then m.families[family]?.map (counter.add n) else m.families[family]? := by
  unfold add
  cases m.family? handle with
  | none => simp
  | some own =>
    rw [List.getElem?_modify]
    by_cases same : own = family <;> simp [same]

theorem stats?_add_of_ne (counter : Counter) (n : UInt64) (apart : m.family? handle ≠ m.family? other) :
    (m.add handle counter n).stats? other = m.stats? other := by
  unfold stats?
  rw [family?_add]
  cases own : m.family? other with
  | none => rfl
  | some family => rw [Option.bind_some, Option.bind_some, families_add, if_neg (own ▸ apart)]

theorem record_eq_foldl (m : MetricHandles) (handle : Nat) (event : Stats.Event) :
    m.record handle event = event.additions.foldl (fun m one => m.add handle one.1 one.2) m := by
  have all : ∀ (additions : List (Counter × UInt64)) (m : MetricHandles) (family : Nat),
      m.family? handle = some family →
      additions.foldl (fun m one => m.add handle one.1 one.2) m =
        { m with
          families := m.families.modify family fun s => additions.foldl (fun s one => one.1.add one.2 s) s } := by
    intro additions
    induction additions with
    | nil =>
      intro m family own
      exact congrArg (fun families => { m with families }) (List.modify_id family m.families).symm
    | cons one additions ih =>
      intro m family own
      rw [List.foldl_cons, ih _ family (by simpa using own)]
      simp [add, own, List.modify_modify_eq, Function.comp_def]
  unfold record
  cases own : m.family? handle with
  | none => cases event with
    | fileProcessed bytes | fileFailed | chunk tokens => simp [Stats.Event.additions, add, own]
    | buffer reused => cases reused <;> simp [Stats.Event.additions, add, own]
  | some family =>
    rw [all event.additions m family own]
    simp only [Stats.record_eq_foldl]

theorem stats?_record_of_ne (event : Stats.Event) (apart : m.family? handle ≠ m.family? other) :
    (m.record handle event).stats? other = m.stats? other := by
  have all : ∀ (additions : List (Counter × UInt64)) (m : MetricHandles), m.family? handle ≠ m.family? other →
      (additions.foldl (fun m one => m.add handle one.1 one.2) m).stats? other = m.stats? other := by
    intro additions
    induction additions with
    | nil => exact fun _ _ => rfl
    | cons one additions ih =>
      intro m apart
      rw [List.foldl_cons, ih _ (by simpa using apart), stats?_add_of_ne one.1 one.2 apart]
  rw [record_eq_foldl, all event.additions m apart]

theorem family?_of_grown {family : Nat} {families : List Stats} (other : Nat) :
    ({ families := families, handles := m.handles ++ [family] } : MetricHandles).family? other =
      if other = m.handles.length then some family else m.family? other := by
  unfold family?
  rcases Nat.lt_trichotomy other m.handles.length with before | rfl | behind
  · rw [List.getElem?_append_left before, if_neg (Nat.ne_of_lt before)]
  · simp
  · have outside : (m.handles ++ [family])[other]? = none :=
      List.getElem?_eq_none (by rw [List.length_append, List.length_singleton]; omega)
    rw [outside, if_neg (Nat.ne_of_gt behind), List.getElem?_eq_none (Nat.le_of_lt behind)]

theorem clone_eq {family : Nat} (own : m.family? handle = some family) :
    m.clone handle = { m with handles := m.handles ++ [family] } := by
  simp [clone, own]

theorem family?_fresh (before : other < m.handles.length) : m.fresh.family? other = m.family? other :=
  (family?_of_grown other).trans (if_neg (Nat.ne_of_lt before))

theorem family?_clone (before : other < m.handles.length) : (m.clone handle).family? other = m.family? other := by
  cases own : m.family? handle with
  | none => simp [clone, own]
  | some family => rw [clone_eq own, family?_of_grown, if_neg (Nat.ne_of_lt before)]

end MetricHandles

end CorpusTally
