import CorpusTally.Proofs.Metering.Families

/-!
What is read through a handle while others record, read, clone and make handles: all that was recorded in its family,
and nothing of the other ones.
-/

namespace CorpusTally

namespace Metering

/-- A reading of one counter after the other, with the steps of others in between. -/
inductive Loads (handle : Nat) : Metering → List Counter → List UInt64 → Metering → Prop
  | nil {m} : Loads handle m [] [] m
  | cons {m here last counter value counters values} (others : Reaches Step m here)
      (loaded : (here.metrics.stats? handle).map counter.get = some value)
      (rest : Loads handle here counters values last) : Loads handle m (counter :: counters) (value :: values) last

def Reads (handle : Nat) (m : Metering) (stats : Stats) (last : Metering) : Prop :=
  Loads handle m Counter.all (Counter.all.map fun counter => counter.get stats) last

variable {m next last : Metering} {handle : Nat} {event : Stats.Event} {mark : Mark}

/-- What a step keeps for a handle: its family has the events that it had, and no recording comes up in it without
an event. -/
structure Extends (handle : Nat) (m next : Metering) : Prop where
  there : handle < next.metrics.handles.length
  events : m.events handle <+: next.events handle
  quiet : next.events handle = m.events handle → m.Quiet handle → next.Quiet handle

theorem Extends.trans (first : Extends handle m next) (second : Extends handle next last) : Extends handle m last where
  there := second.there
  events := first.events.trans second.events
  quiet same quiet := by
    have between : next.events handle = m.events handle := by
      apply first.events.eq_of_length_le ?_ |>.symm
      rw [← same]
      exact second.events.length_le
    exact second.quiet (same.trans between.symm) (first.quiet between quiet)

theorem Sound.extends (sound : m.Sound) (after : next.Sound) (there : handle < m.metrics.handles.length)
    (longer : m.metrics.handles.length ≤ next.metrics.handles.length)
    (older : ∀ other < m.metrics.handles.length, next.metrics.family? other = m.metrics.family? other)
    (more : List Mark) (history : next.history = m.history ++ more)
    (calls : ∀ call ∈ next.calls, call ∈ m.calls ∨
      (∃ before ∈ m.calls, before.handle = call.handle ∧ before.left ≠ []) ∨
      (next.metrics.family? call.handle = next.metrics.family? handle → next.events handle ≠ m.events handle)) :
    Extends handle m next := by
  have inside : handle < next.metrics.handles.length := Nat.lt_of_lt_of_le there longer
  refine ⟨inside, ?_, ?_⟩
  · have kept : eventsIn (next.metrics.family? · = next.metrics.family? handle) m.history =
        eventsIn (m.metrics.family? · = m.metrics.family? handle) m.history := by
      apply eventsIn_congr
      intro other event mem
      rw [older other (sound.marks other event mem), older handle there]
    rw [sound.events_eq there, after.events_eq inside, ← kept, history, eventsIn, eventsIn, List.filterMap_append]
    exact List.prefix_append _ _
  · intro same quiet
    rw [sound.quiet_iff there] at quiet
    rw [after.quiet_iff inside]
    intro call mem alike
    have family : ∀ one ∈ m.calls, one.handle = call.handle →
        m.metrics.family? one.handle = m.metrics.family? handle := by
      intro one among same
      rw [← older one.handle (sound.calls one among), ← older handle there, same]
      exact alike
    rcases calls call mem with before | ⟨before, among, same, more⟩ | grown
    · exact quiet call before (family call before rfl)
    · exact absurd (quiet before among (family before among same)) more
    · exact absurd same (grown alike)

theorem Step.extends (step : Step m next) (sound : m.Sound) (there : handle < m.metrics.handles.length) :
    Extends handle m next := by
  have after := step.keeps sound
  cases step with
  | make =>
    apply sound.extends after there ?_ ?_ [.made] rfl
    · exact fun call mem => .inl mem
    · simp [MetricHandles.fresh]
    · exact fun other before => MetricHandles.family?_fresh before
  | @clone _ source inside =>
    obtain ⟨family, stats, own, -⟩ := sound.exists_family inside
    apply sound.extends after there ?_ ?_ [.cloned source] rfl
    · exact fun call mem => .inl mem
    · simp [MetricHandles.clone_eq own]
    · exact fun other before => MetricHandles.family?_clone before
  | @record _ source event inside =>
    apply sound.extends after there (Nat.le_refl _) (fun _ _ => rfl) [.recorded source event] rfl
    intro call mem
    rcases List.mem_append.mp mem with before | new
    · exact .inl before
    · refine .inr (.inr fun alike same => ?_)
      rw [List.mem_singleton.mp new] at alike
      have one : (Mark.recorded source event).event? (m.metrics.family? · = m.metrics.family? handle) = some event :=
        if_pos alike
      rw [sound.events_eq there, after.events_eq there, eventsIn_concat, one] at same
      simp at same
  | @add metrics history pre post source counter n left =>
    apply sound.extends after there (by simp) (by simp) [] (List.append_nil history).symm
    intro call mem
    rcases mem_mid.mp mem with rfl | outside
    · exact .inr (.inl ⟨_, mem_mid.mpr (.inl rfl), rfl, List.cons_ne_nil _ _⟩)
    · exact .inl (mem_mid.mpr (.inr outside))
  | @finish metrics history =>
    apply sound.extends after there (Nat.le_refl _) (fun _ _ => rfl) [] (List.append_nil history).symm
    exact fun call mem => .inl (mem_mid.mpr (.inr mem))

theorem Extends.of_reaches (run : Reaches Step m next) (sound : m.Sound) (there : handle < m.metrics.handles.length) :
    Extends handle m next := by
  induction run with
  | refl => exact ⟨there, List.prefix_refl _, fun _ quiet => quiet⟩
  | tail before last ih => exact ih.trans (last.extends (Reaches.keeps before Step.keeps sound) ih.there)

theorem Loads.reaches {counters : List Counter} {values : List UInt64} (loads : Loads handle m counters values last) :
    Reaches Step m last := by
  induction loads with
  | nil => exact .refl
  | cons others loaded rest ih => exact others.trans ih

/-- While nothing is recorded in a family, all that is loaded is what was recorded before. -/
theorem Loads.values_eq {counters : List Counter} {values : List UInt64}
    (loads : Loads handle m counters values last) (sound : m.Sound) (there : handle < m.metrics.handles.length)
    (quiet : m.Quiet handle) (same : last.events handle = m.events handle) :
    values = counters.map fun counter => counter.get ((m.events handle).map Stats.ofEvent).sum := by
  induction loads with
  | nil => rfl
  | @cons m here last counter value counters values others loaded rest ih =>
    have first := Extends.of_reaches others sound there
    have after := others.keeps Step.keeps sound
    have second := Extends.of_reaches rest.reaches after first.there
    -- The family has no event more at the end, and so none in between.
    have between : m.events handle = here.events handle := by
      apply first.events.eq_of_length_le
      rw [← same]
      exact second.events.length_le
    have still := first.quiet between.symm quiet
    obtain ⟨stats, found, total⟩ := after.stats?_eq first.there
    rw [still.owed_eq, add_zero] at total
    rw [found, Option.map_some, Option.some.injEq] at loaded
    rw [List.map_cons, ← loaded, total, between, ih after first.there still (same.trans between)]

theorem Step.adds_of_stats?_ne (step : Step m next) (sound : m.Sound) (there : handle < m.metrics.handles.length)
    (changed : next.metrics.stats? handle ≠ m.metrics.stats? handle) :
    ∃ pre post source counter n left, m.calls = pre ++ ⟨source, (counter, n) :: left⟩ :: post ∧
      next.calls = pre ++ ⟨source, left⟩ :: post ∧ SameFamily m.history source handle := by
  obtain ⟨family, stats, own, found⟩ := sound.exists_family there
  cases step with
  | make =>
    have same : m.metrics.fresh.family? handle = some family := (MetricHandles.family?_fresh there).trans own
    have kept : m.metrics.fresh.families[family]? = some stats := by
      rw [MetricHandles.fresh, List.getElem?_append_left (List.getElem?_eq_some_iff.mp found).1, found]
    simp [MetricHandles.stats?, own, found, same, kept] at changed
  | @clone _ source inside =>
    obtain ⟨other, -, parent, -⟩ := sound.exists_family inside
    have same : (m.metrics.clone source).family? handle = some family := (MetricHandles.family?_clone there).trans own
    have kept : (m.metrics.clone source).families = m.metrics.families := by rw [MetricHandles.clone_eq parent]
    simp [MetricHandles.stats?, own, same, kept] at changed
  | record | finish => exact absurd rfl changed
  | @add metrics history pre post source counter n left =>
    refine ⟨pre, post, source, counter, n, left, rfl, rfl, ?_⟩
    have inside : source < metrics.handles.length := sound.calls _ (mem_mid.mpr (.inl rfl))
    rw [sound.sameFamily_iff inside there]
    by_contra apart
    exact changed (MetricHandles.stats?_add_of_ne counter n apart)

/-- Handles are made and cloned and used by any number of hands at once. At every moment the counters of a handle
have what was recorded through it and its family, but for what recordings on their way have still to add. So what
is read of them while no recording of the family is on its way is the sum of all that was recorded there, counter by
counter, with 64 bits for each of them. Handles of one family always read the same, and nothing that goes on in
another family changes what a handle reads. -/
theorem shared_of_reaches (run : Reaches Step {} m) (there : handle < handlesIn m.history) :
    (∃ stats, m.metrics.stats? handle = some stats ∧
      ∀ counter, (counter.get (stats + m.owed handle)).toNat =
        Stats.Event.total counter (m.events handle) % 2 ^ 64) ∧
    (∀ stats last, Reads handle m stats last → m.Quiet handle → last.events handle = m.events handle →
      ∀ counter : Counter, (counter.get stats).toNat = Stats.Event.total counter (m.events handle) % 2 ^ 64) ∧
    (∀ other, SameFamily m.history other handle → m.metrics.stats? other = m.metrics.stats? handle) ∧
    (∀ other event, other < handlesIn m.history → ¬ SameFamily m.history other handle →
      (m.metrics.record other event).stats? handle = m.metrics.stats? handle) ∧
    ∀ next, Step m next → next.metrics.stats? handle ≠ m.metrics.stats? handle →
      ∃ pre post source counter n left, m.calls = pre ++ ⟨source, (counter, n) :: left⟩ :: post ∧
        next.calls = pre ++ ⟨source, left⟩ :: post ∧ SameFamily m.history source handle := by
  have sound := sound_of_reaches run
  rw [← sound.counted] at there ⊢
  refine ⟨?_, ?_, ?_, ?_, ?_⟩
  · obtain ⟨stats, found, total⟩ := sound.stats?_eq there
    refine ⟨stats, found, fun counter => ?_⟩
    rw [total]
    exact Stats.get_sum_ofEvent counter (m.events handle)
  · intro stats last reads quiet same counter
    have values := Loads.values_eq reads sound there quiet same
    have value := List.map_inj_left.mp values counter counter.mem_all
    rw [value]
    exact Stats.get_sum_ofEvent counter (m.events handle)
  · intro other same
    rw [MetricHandles.stats?, sound.family?_eq same]
    rfl
  · intro other event inside apart
    apply MetricHandles.stats?_record_of_ne
    rwa [Ne, ← sound.sameFamily_iff inside there]
  · intro next step changed
    exact step.adds_of_stats?_ne sound there changed

/-- A clone of a clone and the first handle record at the same time, each between the additions of the other, and
their bytes go beyond 64 bits. What is read through the clone between them has both, and not what is recorded
through a handle of its own family. -/
theorem shared_by_clone_of_clone : ∃ m, Reaches Step {} m ∧ 1 < handlesIn m.history ∧
    SameFamily m.history 2 0 ∧ ¬ SameFamily m.history 3 1 ∧
    ∃ stats, m.metrics.stats? 1 = some stats ∧ stats.filesProcessed.toNat = 2 ∧ stats.bytesRead.toNat = 2 ∧
      stats.tokensCounted.toNat = 0 := by
  have handles : Reaches Step {} ⟨⟨[{}, {}], [0, 0, 0, 1]⟩, [], [.made, .cloned 0, .cloned 1, .made]⟩ :=
    .head .make (.head (@Step.clone _ 0 (by decide)) (.head (@Step.clone _ 1 (by decide)) (.single .make)))
  have begun := (handles.tail (@Step.record _ 2 (.fileProcessed 3) (by decide))).tail
    (@Step.record _ 0 (.fileProcessed (2 ^ 64 - 1)) (by decide))
  have halfDone := (begun.tail (@Step.add _ _ [] [_] 2 .filesProcessed 1 [(.bytesRead, 3)])).tail
    (@Step.add _ _ [_] [] 0 .filesProcessed 1 [(.bytesRead, 2 ^ 64 - 1)])
  have added := (halfDone.tail (@Step.add _ _ [_] [] 0 .bytesRead (2 ^ 64 - 1) [])).tail
    (@Step.add _ _ [] [_] 2 .bytesRead 3 [])
  have quiet := (added.tail (@Step.finish _ _ [_] [] 0)).tail (@Step.finish _ _ [] [] 2)
  have run := quiet.trans (@reaches_record _ 3 (by decide) (.chunk 5))
  have sound := sound_of_reaches run
  have events := sound.events_eq (show 1 < 4 by decide)
  obtain ⟨⟨stats, found, total⟩, -⟩ := shared_of_reaches run (show 1 < 4 by decide)
  rw [(quiet_of_calls_nil rfl).owed_eq, add_zero, events] at total
  refine ⟨_, run, by decide, ?_, ?_, stats, found, ?_, ?_, ?_⟩
  · exact (sound.sameFamily_iff (by decide) (by decide)).mpr rfl
  · exact (sound.sameFamily_iff (by decide) (by decide)).not.mpr (by decide)
  · exact (total .filesProcessed).trans (by decide)
  · exact (total .bytesRead).trans (by decide +kernel)
  · exact (total .tokensCounted).trans (by decide)

end Metering

end CorpusTally
