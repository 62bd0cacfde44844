import CorpusTally.Proofs.Metering.Counters
import Mathlib.Logic.Relation

/-!
Counters that handles share. Handles are made, cloned and recorded through, and the additions of a recording stand
between those of others. Handles are of one family if clones lead from one to the other. What was recorded in a family
is in its counters or still to be added, after every step.
-/

namespace CorpusTally

namespace Metering

/-- What can be told of a run afterwards. A handle goes by the number of handles that were there before it. -/
inductive Mark where
  | made
  | cloned (handle : Nat)
  | recorded (handle : Nat) (event : Stats.Event)

namespace Mark

def isHandle : Mark → Bool
  | made | cloned _ => true
  | recorded _ _ => false

def event? (among : Nat → Prop) [DecidablePred among] : Mark → Option Stats.Event
  | recorded handle event => if among handle then some event else none
  | made | cloned _ => none

end Mark

structure Call where
  handle : Nat
  left : List (Counter × UInt64)

def handlesIn (history : List Mark) : Nat := history.countP Mark.isHandle

def ClonedFrom (history : List Mark) (clone handle : Nat) : Prop :=
  ∃ before, before ++ [.cloned handle] <+: history ∧ handlesIn before = clone

/-- Handles that clones lead to from each other. -/
def SameFamily (history : List Mark) : Nat → Nat → Prop := Relation.EqvGen (ClonedFrom history)

def eventsIn (among : Nat → Prop) [DecidablePred among] (history : List Mark) : List Stats.Event :=
  history.filterMap (Mark.event? among)

def owedIn (among : Nat → Prop) [DecidablePred among] (calls : List Call) : Stats :=
  (calls.map fun call => if among call.handle then .ofAdditions call.left else 0).sum

end Metering

structure Metering where
  metrics : MetricHandles := .start
  calls : List Metering.Call := []
  history : List Metering.Mark := []

namespace Metering

/-- Handles are made and cloned, and recordings begin, in any order. Each addition of a recording is a step of its
own, between which those of others may come. -/
inductive Step : Metering → Metering → Prop
  | make {m} : Step m { m with metrics := m.metrics.fresh, history := m.history ++ [.made] }
  | clone {m handle} (there : handle < m.metrics.handles.length) :
      Step m { m with metrics := m.metrics.clone handle, history := m.history ++ [.cloned handle] }
  | record {m handle event} (there : handle < m.metrics.handles.length) :
      Step m { m with
        calls := m.calls ++ [⟨handle, event.additions⟩], history := m.history ++ [.recorded handle event] }
  | add {metrics history pre post handle counter n left} :
      Step ⟨metrics, pre ++ ⟨handle, (counter, n) :: left⟩ :: post, history⟩
        ⟨metrics.add handle counter n, pre ++ ⟨handle, left⟩ :: post, history⟩
  | finish {metrics history pre post handle} :
      Step ⟨metrics, pre ++ ⟨handle, []⟩ :: post, history⟩ ⟨metrics, pre ++ post, history⟩

noncomputable def events (m : Metering) (handle : Nat) : List Stats.Event := by
  classical
  exact eventsIn (fun other => SameFamily m.history other handle) m.history

noncomputable def owed (m : Metering) (handle : Nat) : Stats := by
  classical
  exact owedIn (fun other => SameFamily m.history other handle) m.calls

def Quiet (m : Metering) (handle : Nat) : Prop :=
  ∀ call ∈ m.calls, SameFamily m.history call.handle handle → call.left = []

/-- A recording that nobody comes between records what the handles record. -/
theorem reaches_record (m : Metering) {handle : Nat} (there : handle < m.metrics.handles.length)
    (event : Stats.Event) :
    Reaches Step m { m with
      metrics := m.metrics.record handle event, history := m.history ++ [.recorded handle event] } := by
  have adds : ∀ (left : List (Counter × UInt64)) (metrics : MetricHandles) (history : List Mark),
      Reaches Step ⟨metrics, m.calls ++ [⟨handle, left⟩], history⟩
        ⟨left.foldl (fun metrics one => metrics.add handle one.1 one.2) metrics, m.calls ++ [⟨handle, []⟩],
          history⟩ := by
    intro left
    induction left with
    | nil => exact fun _ _ => .refl
    | cons one left ih => exact fun metrics history => .head .add (ih _ history)
  rw [MetricHandles.record_eq_foldl]
  have ends := (adds event.additions m.metrics (m.history ++ [.recorded handle event])).tail .finish
  rw [List.append_nil] at ends
  exact .head (.record there) ends

/-- Every handle has its family, clones and no others are of one family, and a family has what was recorded, but
for what is still to be added. -/
structure Sound (m : Metering) : Prop where
  counted : m.metrics.handles.length = handlesIn m.history
  families : ∀ family ∈ m.metrics.handles, family < m.metrics.families.length
  calls : ∀ call ∈ m.calls, call.handle < m.metrics.handles.length
  marks : ∀ handle event, .recorded handle event ∈ m.history → handle < m.metrics.handles.length
  clones : ∀ clone handle, ClonedFrom m.history clone handle →
    clone < m.metrics.handles.length ∧ handle < m.metrics.handles.length ∧
      m.metrics.family? clone = m.metrics.family? handle
  joined : ∀ a b, a < m.metrics.handles.length → b < m.metrics.handles.length →
    m.metrics.family? a = m.metrics.family? b → SameFamily m.history a b
  books : ∀ family stats, m.metrics.families[family]? = some stats →
    stats + owedIn (m.metrics.family? · = some family) m.calls =
      ((eventsIn (m.metrics.family? · = some family) m.history).map Stats.ofEvent).sum

variable {m next last : Metering} {handle : Nat} {event : Stats.Event} {mark : Mark}

theorem ClonedFrom.append {history : List Mark} {clone handle : Nat} (cloned : ClonedFrom history clone handle)
    (more : List Mark) : ClonedFrom (history ++ more) clone handle := by
  obtain ⟨before, inside, count⟩ := cloned
  exact ⟨before, inside.trans (List.prefix_append _ _), count⟩

theorem SameFamily.append {history : List Mark} {a b : Nat} (same : SameFamily history a b) (more : List Mark) :
    SameFamily (history ++ more) a b :=
  Relation.EqvGen.mono (fun _ _ cloned => ClonedFrom.append cloned more) _ _ same

theorem clonedFrom_concat {history : List Mark} {clone : Nat} :
    ClonedFrom (history ++ [mark]) clone handle ↔
      ClonedFrom history clone handle ∨ mark = .cloned handle ∧ clone = handlesIn history := by
  constructor
  · rintro ⟨before, inside, rfl⟩
    rcases List.prefix_concat_iff.mp inside with whole | older
    · obtain ⟨rfl, same⟩ := List.append_inj' whole rfl
      exact .inr ⟨(List.singleton_inj.mp same).symm, rfl⟩
    · exact .inl ⟨before, older, rfl⟩
  · rintro (older | ⟨rfl, rfl⟩)
    · exact older.append [mark]
    · exact ⟨history, List.prefix_refl _, rfl⟩

section

variable (among : Nat → Prop) [DecidablePred among]

theorem owedIn_mid (pre post : List Call) (call : Call) :
    owedIn among (pre ++ call :: post) =
      (if among call.handle then .ofAdditions call.left else 0) + owedIn among (pre ++ post) := by
  simp only [owedIn, List.map_append, List.map_cons, List.sum_append, List.sum_cons]
  exact add_left_comm _ _ _

theorem owedIn_eq_zero {calls : List Call} (done : ∀ call ∈ calls, among call.handle → call.left = []) :
    owedIn among calls = 0 := by
  apply List.sum_eq_zero
  intro owed mem
  obtain ⟨call, inside, rfl⟩ := List.mem_map.mp mem
  split
  · next one =>
    rw [done call inside one]
    rfl
  · rfl

theorem eventsIn_concat (history : List Mark) (mark : Mark) :
    eventsIn among (history ++ [mark]) = eventsIn among history ++ (mark.event? among).toList := by
  rw [eventsIn, List.filterMap_append]
  cases found : mark.event? among <;> simp [eventsIn, found]

variable {among} {other : Nat → Prop} [DecidablePred other]

theorem owedIn_congr {calls : List Call} (same : ∀ call ∈ calls, among call.handle ↔ other call.handle) :
    owedIn among calls = owedIn other calls := by
  unfold owedIn
  congr 1
  apply List.map_congr_left
  intro call mem
  simp only [same call mem]

theorem eventsIn_congr {history : List Mark}
    (same : ∀ handle event, .recorded handle event ∈ history → (among handle ↔ other handle)) :
    eventsIn among history = eventsIn other history := by
  apply List.filterMap_congr
  intro mark mem
  cases mark with
  | made | cloned => rfl
  | recorded handle event => simp only [Mark.event?, same handle event mem]

end

theorem Sound.exists_family (sound : m.Sound) (there : handle < m.metrics.handles.length) :
    ∃ family stats, m.metrics.family? handle = some family ∧ m.metrics.families[family]? = some stats := by
  have own : m.metrics.family? handle = some m.metrics.handles[handle] := List.getElem?_eq_getElem there
  have inside := sound.families _ (List.getElem_mem there)
  exact ⟨_, _, own, List.getElem?_eq_getElem inside⟩

theorem Sound.grown (sound : m.Sound) {family : Nat} {families : List Stats} (mark : Mark)
    (new : mark.isHandle = true) (inside : family < families.length)
    (more : m.metrics.families.length ≤ families.length)
    (parent : ∀ handle, mark = .cloned handle →
      handle < m.metrics.handles.length ∧ m.metrics.family? handle = some family)
    (joins : ∀ other, other < m.metrics.handles.length → m.metrics.family? other = some family →
      SameFamily (m.history ++ [mark]) m.metrics.handles.length other)
    (books : ∀ own stats, families[own]? = some stats → stats + owedIn (m.metrics.family? · = some own) m.calls =
      ((eventsIn (m.metrics.family? · = some own) m.history).map Stats.ofEvent).sum) :
    Sound ⟨⟨families, m.metrics.handles ++ [family]⟩, m.calls, m.history ++ [mark]⟩ := by
  have longer : (m.metrics.handles ++ [family]).length = m.metrics.handles.length + 1 := by simp
  have older : ∀ other < m.metrics.handles.length,
      ({ families, handles := m.metrics.handles ++ [family] } : MetricHandles).family? other =
        m.metrics.family? other := by
    intro other before
    rw [MetricHandles.family?_of_grown, if_neg (Nat.ne_of_lt before)]
  have own : ({ families, handles := m.metrics.handles ++ [family] } : MetricHandles).family?
      m.metrics.handles.length = some family := by
    rw [MetricHandles.family?_of_grown, if_pos rfl]
  have marks : ∀ handle event, .recorded handle event ∈ m.history ++ [mark] → handle < m.metrics.handles.length := by
    intro handle event mem
    rcases List.mem_append.mp mem with before | here
    · exact sound.marks handle event before
    · rw [← List.mem_singleton.mp here] at new
      cases new
  constructor
  case counted =>
    rw [longer, handlesIn, List.countP_append, List.countP_singleton, if_pos new, sound.counted]
    rfl
  case families =>
    intro other mem
    rcases List.mem_append.mp mem with before | here
    · exact Nat.lt_of_lt_of_le (sound.families other before) more
    · rwa [List.mem_singleton.mp here]
  case calls =>
    intro call mem
    exact longer ▸ Nat.lt_succ_of_lt (sound.calls call mem)
  case marks =>
    intro handle event mem
    exact longer ▸ Nat.lt_succ_of_lt (marks handle event mem)
  case clones =>
    intro clone handle cloned
    rcases clonedFrom_concat.mp cloned with before | ⟨same, rfl⟩
    · obtain ⟨insideC, insideH, alike⟩ := sound.clones clone handle before
      rw [older clone insideC, older handle insideH]
      exact ⟨longer ▸ Nat.lt_succ_of_lt insideC, longer ▸ Nat.lt_succ_of_lt insideH, alike⟩
    · obtain ⟨insideH, ofHandle⟩ := parent handle same
      rw [← sound.counted, own, older handle insideH, ofHandle]
      exact ⟨longer ▸ Nat.lt_succ_self _, longer ▸ Nat.lt_succ_of_lt insideH, rfl⟩
  case joined =>
    intro a b insideA insideB same
    -- Older handles are joined as before, and the new one is joined with those of its family.
    rw [longer, Nat.lt_succ_iff_lt_or_eq] at insideA insideB
    rcases insideA with beforeA | rfl
    · rcases insideB with beforeB | rfl
      · rw [older a beforeA, older b beforeB] at same
        exact (sound.joined a b beforeA beforeB same).append [mark]
      · rw [older a beforeA, own] at same
        exact (joins a beforeA same).symm
    · rcases insideB with beforeB | rfl
      · rw [own, older b beforeB] at same
        exact joins b beforeB same.symm
      · exact .refl _
  case books =>
    intro other stats found
    have silent : mark.event? (m.metrics.family? · = some other) = none := by
      cases mark with
      | made | cloned => rfl
      | recorded => cases new
    have calls : owedIn (MetricHandles.family? ⟨families, m.metrics.handles ++ [family]⟩ · = some other) m.calls =
        owedIn (m.metrics.family? · = some other) m.calls := by
      apply owedIn_congr
      intro call mem
      rw [older call.handle (sound.calls call mem)]
    have events : eventsIn (MetricHandles.family? ⟨families, m.metrics.handles ++ [family]⟩ · = some other)
        (m.history ++ [mark]) = eventsIn (m.metrics.family? · = some other) (m.history ++ [mark]) := by
      apply eventsIn_congr
      intro handle event mem
      rw [older handle (marks handle event mem)]
    rw [calls, events, eventsIn_concat, silent, Option.toList_none, List.append_nil]
    exact books other stats found

theorem Sound.make (sound : m.Sound) :
    Sound { m with metrics := m.metrics.fresh, history := m.history ++ [.made] } := by
  have none : ∀ handle < m.metrics.handles.length, m.metrics.family? handle ≠ some m.metrics.families.length := by
    intro handle there same
    obtain ⟨family, stats, own, found⟩ := sound.exists_family there
    rw [own, Option.some.injEq] at same
    subst same
    simp at found
  apply sound.grown .made rfl
  · simp
  · simp
  · intro handle same
    cases same
  · intro other there same
    exact absurd same (none other there)
  · intro own stats found
    rcases Nat.lt_or_ge own m.metrics.families.length with before | behind
    · rw [List.getElem?_append_left before] at found
      exact sound.books own stats found
    · obtain rfl : own = m.metrics.families.length := by
        have inside := (List.getElem?_eq_some_iff.mp found).1
        rw [List.length_append, List.length_singleton] at inside
        omega
      obtain rfl : stats = {} := by simpa [eq_comm] using found
      have calls : owedIn (m.metrics.family? · = some m.metrics.families.length) m.calls = 0 := by
        apply owedIn_eq_zero
        intro call mem same
        exact absurd same (none call.handle (sound.calls call mem))
      have events : eventsIn (m.metrics.family? · = some m.metrics.families.length) m.history = [] := by
        apply List.filterMap_eq_nil_iff.mpr
        intro mark mem
        cases mark with
        | made | cloned => rfl
        | recorded handle event => exact if_neg (none handle (sound.marks handle event mem))
      rw [calls, events]
      rfl

theorem Sound.clone (sound : m.Sound) (there : handle < m.metrics.handles.length) :
    Sound { m with metrics := m.metrics.clone handle, history := m.history ++ [.cloned handle] } := by
  obtain ⟨family, stats, own, found⟩ := sound.exists_family there
  rw [MetricHandles.clone_eq own]
  apply sound.grown (.cloned handle) rfl
  · exact (List.getElem?_eq_some_iff.mp found).1
  · exact Nat.le_refl _
  · rintro other ⟨⟩
    exact ⟨there, own⟩
  · intro other inside same
    have new : ClonedFrom (m.history ++ [.cloned handle]) m.metrics.handles.length handle :=
      clonedFrom_concat.mpr (.inr ⟨rfl, sound.counted⟩)
    have older := sound.joined handle other there inside (own.trans same.symm)
    exact .trans _ _ _ (.rel _ _ new) (older.append _)
  · exact sound.books

theorem Sound.record (sound : m.Sound) (there : handle < m.metrics.handles.length) (event : Stats.Event) :
    Sound { m with
      calls := m.calls ++ [⟨handle, event.additions⟩], history := m.history ++ [.recorded handle event] } := by
  have clones : ∀ clone parent, ClonedFrom (m.history ++ [.recorded handle event]) clone parent ↔
      ClonedFrom m.history clone parent := by
    intro clone parent
    simp [clonedFrom_concat]
  constructor
  case counted =>
    rw [sound.counted, handlesIn, handlesIn, List.countP_append]
    rfl
  case families => exact sound.families
  case calls =>
    intro call mem
    rcases List.mem_append.mp mem with before | new
    · exact sound.calls call before
    · rwa [List.mem_singleton.mp new]
  case marks =>
    intro other recorded mem
    rcases List.mem_append.mp mem with before | new
    · exact sound.marks other recorded before
    · obtain ⟨rfl, -⟩ := Mark.recorded.inj (List.mem_singleton.mp new)
      exact there
  case clones =>
    intro clone parent cloned
    exact sound.clones clone parent ((clones clone parent).mp cloned)
  case joined =>
    intro a b insideA insideB same
    exact (sound.joined a b insideA insideB same).append _
  case books =>
    intro family stats found
    have before := sound.books family stats found
    have now := owedIn_mid (m.metrics.family? · = some family) m.calls [] ⟨handle, event.additions⟩
    rw [List.append_nil] at now
    rw [now, eventsIn_concat, List.map_append, List.sum_append, ← before, Stats.ofAdditions_additions, Mark.event?]
    split
    · rw [add_left_comm, add_comm (Stats.ofEvent event)]
      simp
    · simp

theorem Sound.add {metrics : MetricHandles} {history : List Mark} {pre post : List Call} {counter : Counter}
    {n : UInt64} {left : List (Counter × UInt64)}
    (sound : Sound ⟨metrics, pre ++ ⟨handle, (counter, n) :: left⟩ :: post, history⟩) :
    Sound ⟨metrics.add handle counter n, pre ++ ⟨handle, left⟩ :: post, history⟩ := by
  have families : (metrics.add handle counter n).families.length = metrics.families.length := by
    unfold MetricHandles.add
    split <;> simp
  constructor
  case counted => simpa using sound.counted
  case families => simpa [families] using sound.families
  case calls => simpa [or_imp, forall_and] using sound.calls
  case marks => simpa using sound.marks
  case clones => simpa using sound.clones
  case joined => simpa using sound.joined
  case books =>
    intro family stats found
    simp only [MetricHandles.family?_add, owedIn_mid]
    rw [MetricHandles.families_add] at found
    split at found
    · next own =>
      obtain ⟨before, old, rfl⟩ := Option.map_eq_some_iff.mp found
      have booked := sound.books family before old
      rw [owedIn_mid, if_pos own] at booked
      rw [if_pos own, ← booked, counter.add_eq]
      simp [Stats.ofAdditions, add_assoc]
    · next other =>
      have booked := sound.books family stats found
      rw [owedIn_mid, if_neg other] at booked
      rw [if_neg other]
      exact booked

theorem Sound.finish {metrics : MetricHandles} {history : List Mark} {pre post : List Call}
    (sound : Sound ⟨metrics, pre ++ ⟨handle, []⟩ :: post, history⟩) :
    Sound ⟨metrics, pre ++ post, history⟩ where
  counted := sound.counted
  families := sound.families
  calls call mem := sound.calls call (mem_mid.mpr (.inr mem))
  marks := sound.marks
  clones := sound.clones
  joined := sound.joined
  books family stats found := by
    have booked := sound.books family stats found
    rw [owedIn_mid] at booked
    simpa [Stats.ofAdditions] using booked

theorem Step.keeps (sound : m.Sound) (step : Step m next) : next.Sound := by
  cases step with
  | make => exact sound.make
  | clone there => exact sound.clone there
  | record there => exact sound.record there _
  | add => exact sound.add
  | finish => exact sound.finish

theorem sound_start : Sound {} where
  counted := rfl
  families family mem := by cases mem
  calls call mem := by cases mem
  marks handle event mem := by cases mem
  clones clone handle cloned := by
    obtain ⟨before, inside, -⟩ := cloned
    simp at inside
  joined a b insideA := absurd insideA (Nat.not_lt_zero a)
  books family stats found := by cases found

theorem sound_of_reaches (run : Reaches Step {} m) : m.Sound := run.keeps Step.keeps sound_start

theorem Sound.family?_eq (sound : m.Sound) {a b : Nat} (same : SameFamily m.history a b) :
    m.metrics.family? a = m.metrics.family? b := by
  induction same with
  | rel clone handle cloned => exact (sound.clones clone handle cloned).2.2
  | refl => rfl
  | symm _ _ _ ih => exact ih.symm
  | trans _ _ _ _ _ first second => exact first.trans second

theorem Sound.sameFamily_iff (sound : m.Sound) {a b : Nat} (insideA : a < m.metrics.handles.length)
    (insideB : b < m.metrics.handles.length) :
    SameFamily m.history a b ↔ m.metrics.family? a = m.metrics.family? b :=
  ⟨sound.family?_eq, sound.joined a b insideA insideB⟩

theorem Sound.events_eq (sound : m.Sound) (there : handle < m.metrics.handles.length) :
    m.events handle = eventsIn (m.metrics.family? · = m.metrics.family? handle) m.history := by
  classical
  unfold events
  apply eventsIn_congr
  intro other event mem
  exact sound.sameFamily_iff (sound.marks other event mem) there

theorem Sound.owed_eq (sound : m.Sound) (there : handle < m.metrics.handles.length) :
    m.owed handle = owedIn (m.metrics.family? · = m.metrics.family? handle) m.calls := by
  classical
  unfold owed
  apply owedIn_congr
  intro call mem
  exact sound.sameFamily_iff (sound.calls call mem) there

theorem Sound.quiet_iff (sound : m.Sound) (there : handle < m.metrics.handles.length) :
    m.Quiet handle ↔ ∀ call ∈ m.calls, m.metrics.family? call.handle = m.metrics.family? handle → call.left = [] := by
  unfold Quiet
  constructor
  · intro quiet call mem same
    exact quiet call mem ((sound.sameFamily_iff (sound.calls call mem) there).mpr same)
  · intro quiet call mem same
    exact quiet call mem ((sound.sameFamily_iff (sound.calls call mem) there).mp same)

theorem quiet_of_calls_nil (none : m.calls = []) : m.Quiet handle := by
  intro call mem
  rw [none] at mem
  cases mem

theorem Quiet.owed_eq (quiet : m.Quiet handle) : m.owed handle = 0 := by
  classical
  exact owedIn_eq_zero _ quiet

/-- At every moment, what was recorded in a family is there or still to be added. -/
theorem Sound.stats?_eq (sound : m.Sound) (there : handle < m.metrics.handles.length) :
    ∃ stats, m.metrics.stats? handle = some stats ∧
      stats + m.owed handle = ((m.events handle).map Stats.ofEvent).sum := by
  obtain ⟨family, stats, own, found⟩ := sound.exists_family there
  refine ⟨stats, by simp [MetricHandles.stats?, own, found], ?_⟩
  have booked := sound.books family stats found
  rw [sound.events_eq there, sound.owed_eq there, own]
  exact booked

end Metering

end CorpusTally
