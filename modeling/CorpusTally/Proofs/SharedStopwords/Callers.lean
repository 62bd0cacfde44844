import CorpusTally.Proofs.Run
import CorpusTally.Proofs.SharedStopwords.Timeline

/-!
A caller of the shared stopwords, step by step. Who finds no set, and nobody who builds one, takes it upon
itself to do so; who comes meanwhile waits for the set.
-/

namespace CorpusTally

namespace SharedStopwords

/-- The stopwords, whether somebody builds their set, and what is around them. -/
structure Shared where
  files : ReadFile
  handle : LazyStopwords
  taken : Bool := false
  log : Log := []
  history : List Mark := []

def Shared.mark (s : Shared) (mark : Mark) : Shared := { s with history := s.history ++ [mark] }

inductive Phase where
  | free
  | entered (q : Query)
  | building (q : Query)
  | loaded (q : Query) (set : StopwordSet) (events : Log)
  | noted (q : Query) (set : StopwordSet)
  | served (q : Query) (set : StopwordSet)

structure Caller where
  phase : Phase := .free
  plan : List Action

namespace Caller

inductive Step : Shared × Caller → Shared × Caller → Prop
  | enter {s q plan} : Step (s, ⟨.free, .query q :: plan⟩) (s.mark (.began q), ⟨.entered q, plan⟩)
  | find {s q plan set} (built : s.handle.built? = some set) :
      Step (s, ⟨.entered q, plan⟩) (s, ⟨.served q set, plan⟩)
  | claim {s q plan} (unbuilt : s.handle.built? = none) (unclaimed : s.taken = false) :
      Step (s, ⟨.entered q, plan⟩) ({ s with taken := true }, ⟨.building q, plan⟩)
  | load {s q plan} : Step (s, ⟨.building q, plan⟩)
      (s.mark .loaded, ⟨.loaded q (s.handle.origin.toSet s.files).1 (s.handle.origin.toSet s.files).2, plan⟩)
  | note {s q plan set events} : Step (s, ⟨.loaded q set events, plan⟩)
      ({ s with log := s.log ++ events }, ⟨.noted q set, plan⟩)
  | publish {s q plan set} : Step (s, ⟨.noted q set, plan⟩)
      ({ s.mark .built with handle := { s.handle with built? := some set }, taken := false },
        ⟨.served q set, plan⟩)
  | answer {s q plan set} : Step (s, ⟨.served q set, plan⟩)
      (s.mark (.answered q (q.answer set)), ⟨.free, plan⟩)
  | peek {s plan} : Step (s, ⟨.free, .peek :: plan⟩) (s.mark (.peeked s.handle.isBuilt), ⟨.free, plan⟩)
  | edit {s edit plan} : Step (s, ⟨.free, .edit edit :: plan⟩)
      ({ s.mark (.edited edit) with files := edit s.files }, ⟨.free, plan⟩)

end Caller

/-- A caller that is alone does what forcing the stopwords does, and is answered by their view. -/
theorem reaches_alone {s : Shared} (unclaimed : s.taken = false) (q : Query) (plan : List Action) :
    ∃ marks, Reaches Caller.Step (s, ⟨.free, .query q :: plan⟩)
      ({ s with
          handle := (s.handle.force s.files).1
          log := s.log ++ (s.handle.force s.files).2
          history := s.history ++ marks ++ [.answered q (q.answer (s.handle.view s.files))] },
        ⟨.free, plan⟩) := by
  obtain ⟨files, handle, taken, log, history⟩ := s
  obtain rfl : taken = false := unclaimed
  match built : handle.built? with
  | some set =>
    have forced : handle.force files = (handle, []) := by rw [LazyStopwords.force, built]
    have seen : handle.view files = set := by rw [LazyStopwords.view, built, Option.getD_some]
    refine ⟨[.began q], ?_⟩
    rw [forced, seen, List.append_nil]
    exact .head .enter (.head (.find built) (.single .answer))
  | none =>
    have forced : handle.force files = ({ handle with
        built? := some (handle.origin.toSet files).1 }, (handle.origin.toSet files).2) := by
      rw [LazyStopwords.force, built]
    have seen : handle.view files = (handle.origin.toSet files).1 := by
      rw [LazyStopwords.view, built, Option.getD_none]
    refine ⟨[.began q] ++ [.loaded] ++ [.built], ?_⟩
    rw [forced, seen, ← List.append_assoc, ← List.append_assoc]
    exact .head .enter (.head (.claim built rfl) (.head .load (.head .note (.head .publish (.single .answer)))))

variable {origin : StopwordOrigin} {files : ReadFile} {mark : Mark} {set : StopwordSet}

namespace Caller

def isBuilder (c : Caller) : Bool :=
  match c.phase with
  | .building _ | .loaded _ _ _ | .noted _ _ => true
  | .free | .entered _ | .served _ _ => false

/-- What a caller knows of the shared state, as far as it has come. Who builds knows that nobody else does. -/
def Fits (origin : StopwordOrigin) (files : ReadFile) (s : Shared) (c : Caller) : Prop :=
  match c.phase with
  | .free => True
  | .entered q => .began q ∈ s.history
  | .building q => (s.taken = true ∧ s.handle.built? = none) ∧
    .began q ∈ s.history ∧ .loaded ∉ s.history ∧ s.log = []
  | .loaded _ set events => (s.taken = true ∧ s.handle.built? = none) ∧
    Loading origin files s.history set events ∧ s.log = []
  | .noted _ set => (s.taken = true ∧ s.handle.built? = none) ∧
    Loading origin files s.history set s.log
  | .served _ set => s.handle.built? = some set

end Caller

structure Shared.Valid (origin : StopwordOrigin) (files : ReadFile) (s : Shared) : Prop where
  origin_eq : s.handle.origin = origin
  files_eq : s.files = filesAfter files s.history
  timeline : Timeline origin files s.history
  fresh : s.handle.built? = none → s.taken = false → .loaded ∉ s.history ∧ s.log = []
  unbuilt : s.handle.built? = none → .built ∉ s.history
  built : ∀ set, s.handle.built? = some set →
    .built ∈ s.history ∧ Loading origin files s.history set s.log
  logged : s.log = [] ∨ ∃ set, Loading origin files s.history set s.log

variable {s s' : Shared} {c c' other : Caller}

theorem Shared.Valid.marked (valid : s.Valid origin files) (right : mark.Right origin files s.history)
    (unread : mark ≠ .loaded) (unpublished : mark ≠ .built) {read : ReadFile}
    (left : read = filesAfter s.files [mark]) : ({ s.mark mark with files := read }).Valid origin files where
  origin_eq := valid.origin_eq
  files_eq := by
    rw [Shared.mark, filesAfter_append, ← valid.files_eq]
    exact left
  timeline := valid.timeline.append right
  fresh := fun none unclaimed => by
    obtain ⟨before, empty⟩ := valid.fresh none unclaimed
    exact ⟨by simp [Shared.mark, before, unread.symm], empty⟩
  unbuilt := fun none => by simp [Shared.mark, valid.unbuilt none, unpublished.symm]
  built := fun set some => by
    obtain ⟨published, loading⟩ := valid.built set some
    exact ⟨List.mem_append_left _ published, loading.append _⟩
  logged := valid.logged.imp_right fun ⟨set, loading⟩ => ⟨set, loading.append _⟩

namespace Caller

theorem Step.keeps (step : Step (s, c) (s', c')) (valid : s.Valid origin files)
    (fits : c.Fits origin files s) : s'.Valid origin files ∧ c'.Fits origin files s' := by
  cases step with
  | @enter _ q =>
    have right : (Mark.began q).Right origin files s.history := trivial
    refine ⟨valid.marked right (by simp) (by simp) rfl, ?_⟩
    simp [Fits, Shared.mark]
  | find built => exact ⟨valid, built⟩
  | claim none unclaimed =>
    obtain ⟨before, empty⟩ := valid.fresh none unclaimed
    refine ⟨⟨valid.origin_eq, valid.files_eq, valid.timeline, ?_, valid.unbuilt, valid.built,
      valid.logged⟩, ⟨rfl, none⟩, fits, before, empty⟩
    intro _ impossible
    cases impossible
  | @load _ q =>
    obtain ⟨⟨taken, none⟩, began, before, empty⟩ := fits
    have made : Loading origin files (s.history ++ [.loaded]) (s.handle.origin.toSet s.files).1
        (s.handle.origin.toSet s.files).2 := by
      refine ⟨s.history, [], rfl, ?_⟩
      rw [valid.origin_eq, valid.files_eq]
    refine ⟨⟨valid.origin_eq, ?_, valid.timeline.append ⟨before, q, began⟩, ?_, ?_, ?_, .inl empty⟩,
      ⟨taken, none⟩, made, empty⟩
    · rw [Shared.mark, filesAfter_append, ← valid.files_eq]
      rfl
    · intro _ unclaimed
      rw [Shared.mark, taken] at unclaimed
      cases unclaimed
    · intro _
      simp [Shared.mark, valid.unbuilt none]
    · intro set some
      rw [Shared.mark, none] at some
      cases some
  | @note _ q _ set events =>
    obtain ⟨⟨taken, none⟩, loading, empty⟩ := fits
    have all : s.log ++ events = events := by rw [empty, List.nil_append]
    rw [all]
    refine ⟨⟨valid.origin_eq, valid.files_eq, valid.timeline, ?_, valid.unbuilt, ?_, .inr ⟨set, loading⟩⟩,
      ⟨taken, none⟩, loading⟩
    · intro _ unclaimed
      rw [taken] at unclaimed
      cases unclaimed
    · intro set some
      rw [none] at some
      cases some
  | @publish _ q _ set =>
    obtain ⟨-, loading⟩ := fits
    have after := loading.append [.built]
    refine ⟨⟨valid.origin_eq, ?_, valid.timeline.append loading.mem, ?_, ?_, ?_, .inr ⟨set, after⟩⟩, rfl⟩
    · rw [Shared.mark, filesAfter_append, ← valid.files_eq]
      rfl
    · intro none
      cases none
    · intro none
      cases none
    · intro other some
      obtain rfl := Option.some.inj some
      exact ⟨by simp [Shared.mark], after⟩
  | @answer _ q _ set =>
    obtain ⟨published, earlier, later, before, made⟩ := valid.built set fits
    have right : (Mark.answered q (q.answer set)).Right origin files s.history :=
      ⟨published, earlier, later, before, by rw [made]⟩
    exact ⟨valid.marked right (by simp) (by simp) rfl, trivial⟩
  | peek =>
    have right : (Mark.peeked s.handle.isBuilt).Right origin files s.history := by
      rw [Mark.Right, LazyStopwords.isBuilt]
      match built : s.handle.built? with
      | none => simp [valid.unbuilt built]
      | some set => simp [(valid.built set built).1]
    exact ⟨valid.marked right (by simp) (by simp) rfl, trivial⟩
  | @edit _ edit =>
    have right : (Mark.edited edit).Right origin files s.history := trivial
    exact ⟨valid.marked right (by simp) (by simp) rfl, trivial⟩

theorem Step.history_prefix (step : Step (s, c) (s', c')) : s.history <+: s'.history := by
  cases step with
  | find | claim | note => exact List.prefix_refl _
  | enter | load | publish | answer | peek | edit => exact List.prefix_append _ _

theorem Step.built_eq (step : Step (s, c) (s', c')) (fits : c.Fits origin files s)
    (built : s.handle.built? = some set) : s'.handle.built? = some set := by
  cases step with
  | publish =>
    have none : s.handle.built? = none := fits.1.2
    rw [none] at built
    cases built
  | enter | find | claim | load | note | answer | peek | edit => exact built

/-- While somebody builds, a step of somebody else leaves the stopwords alone. -/
theorem Step.quiet (step : Step (s, c) (s', c')) (taken : s.taken = true) (idle : c.isBuilder = false) :
    s'.taken = true ∧ s'.handle = s.handle ∧ s'.log = s.log ∧
      ∃ marks, s'.history = s.history ++ marks ∧ .loaded ∉ marks := by
  cases step with
  | claim _ unclaimed =>
    rw [taken] at unclaimed
    cases unclaimed
  | load | note | publish => cases idle
  | find => exact ⟨taken, rfl, rfl, [], (List.append_nil _).symm, by simp⟩
  | enter | answer | peek | edit => exact ⟨taken, rfl, rfl, _, rfl, by simp⟩

theorem taken_of_builder (fits : c.Fits origin files s) (builds : c.isBuilder = true) :
    s.taken = true := by
  obtain ⟨phase, plan⟩ := c
  cases phase with
  | free | entered | served => cases builds
  | building | loaded | noted => exact fits.1.1

/-- What others know stays true, as only one of them builds. -/
theorem Fits.of_step (known : other.Fits origin files s) (step : Step (s, c) (s', c'))
    (fits : c.Fits origin files s) (alone : other.isBuilder = true → c.isBuilder = false) :
    other.Fits origin files s' := by
  have quiet := fun builds => step.quiet (taken_of_builder known builds) (alone builds)
  obtain ⟨phase, plan⟩ := other
  cases phase with
  | free => trivial
  | entered q => exact step.history_prefix.subset known
  | served q set => exact step.built_eq fits known
  | building q =>
    obtain ⟨⟨-, none⟩, began, before, empty⟩ := known
    obtain ⟨taken, handle, log, marks, history, unread⟩ := quiet rfl
    refine ⟨⟨taken, handle ▸ none⟩, step.history_prefix.subset began, ?_, log ▸ empty⟩
    simp [history, before, unread]
  | loaded q set events =>
    obtain ⟨⟨-, none⟩, loading, empty⟩ := known
    obtain ⟨taken, handle, log, marks, history, -⟩ := quiet rfl
    exact ⟨⟨taken, handle ▸ none⟩, history ▸ loading.append marks, log ▸ empty⟩
  | noted q set =>
    obtain ⟨⟨-, none⟩, loading⟩ := known
    obtain ⟨taken, handle, log, marks, history, -⟩ := quiet rfl
    exact ⟨⟨taken, handle ▸ none⟩, by rw [history, log]; exact loading.append marks⟩

theorem Step.builders (step : Step (s, c) (s', c')) {others : Nat}
    (all : others + c.isBuilder.toNat = s.taken.toNat) : others + c'.isBuilder.toNat = s'.taken.toNat := by
  cases step with
  | claim _ unclaimed =>
    rw [unclaimed] at all
    simpa [isBuilder] using all
  | publish =>
    have most := s.taken.toNat_le
    simp only [isBuilder, Bool.toNat_true, Bool.toNat_false] at all ⊢
    omega
  | enter | find | load | note | answer | peek | edit => exact all

def due (c : Caller) : List Query :=
  (match c.phase with
    | .free => []
    | .entered q | .building q | .loaded q _ _ | .noted q _ | .served q _ => [q]) ++
  c.plan.filterMap Action.query?

def rank (c : Caller) : Nat :=
  (match c.phase with
    | .free => 0
    | .entered _ => 5
    | .building _ => 4
    | .loaded _ _ _ => 3
    | .noted _ _ => 2
    | .served _ _ => 1) +
  6 * c.plan.length

end Caller

def answeredIn (history : List Mark) : List Query := history.filterMap Mark.query?

namespace Caller

theorem Step.due_eq (step : Step (s, c) (s', c')) :
    answeredIn s.history ++ c.due = answeredIn s'.history ++ c'.due := by
  cases step with
  | find | claim | note => rfl
  | enter | load | publish | answer | peek | edit =>
    simp only [answeredIn, due, Shared.mark, List.filterMap_append, List.append_assoc]
    rfl

theorem Step.rank_lt (step : Step (s, c) (s', c')) : c'.rank < c.rank := by
  cases step <;> simp only [rank, List.length_cons] <;> omega

theorem exists_step (s : Shared) (c : Caller) :
    c.phase = .free ∧ c.plan = [] ∨ (∃ next, Step (s, c) next) ∨
      s.taken = true ∧ c.isBuilder = false := by
  obtain ⟨phase, plan⟩ := c
  match phase, plan with
  | .free, [] => exact .inl ⟨rfl, rfl⟩
  | .free, .query q :: plan => exact .inr (.inl ⟨_, .enter⟩)
  | .free, .peek :: plan => exact .inr (.inl ⟨_, .peek⟩)
  | .free, .edit edit :: plan => exact .inr (.inl ⟨_, .edit⟩)
  | .entered q, plan =>
    match built : s.handle.built?, taken : s.taken with
    | some set, _ => exact .inr (.inl ⟨_, .find built⟩)
    | none, false => exact .inr (.inl ⟨_, .claim built taken⟩)
    | none, true => exact .inr (.inr ⟨rfl, rfl⟩)
  | .building q, plan => exact .inr (.inl ⟨_, .load⟩)
  | .loaded q set events, plan => exact .inr (.inl ⟨_, .note⟩)
  | .noted q set, plan => exact .inr (.inl ⟨_, .publish⟩)
  | .served q set, plan => exact .inr (.inl ⟨_, .answer⟩)

end Caller

end SharedStopwords

end CorpusTally
