import CorpusTally.Proofs.ListedLines
import CorpusTally.Proofs.SharedStopwords.Callers
import Mathlib.Algebra.Order.BigOperators.Group.List
import Mathlib.Algebra.Order.Group.Nat
import Mathlib.Algebra.Ring.Nat
import Mathlib.Data.List.Perm.Basic

/-!
Any number of callers that share the stopwords. There is one set at most, built from the files as they are
when its builder loads them, and every query of every caller is answered by it.
-/

namespace CorpusTally

/-- What comes of loading a source while the files are as they are: a set of the listed words, and events. -/
inductive StopwordOrigin.Loads (files : ReadFile) : StopwordOrigin → StopwordSet → Log → Prop
  | none {set} (lists : set.Lists []) : Loads files .none set []
  | words {listed set} (lists : set.Lists listed) : Loads files (.words listed) set []
  | file {path text set} (content : files path = .ok (Utf8.encode text)) (lists : set.Lists (lines text)) :
      Loads files (.file path) set [loadedEvent path set]
  | missing {path e set} (failed : files path = .error e) (lists : set.Lists []) :
      Loads files (.file path) set [notLoadedEvent path e]
  | broken {path bytes set} (content : files path = .ok bytes) (noText : ¬ ∃ text, Utf8.encode text = bytes)
      (lists : set.Lists []) : Loads files (.file path) set [notLoadedEvent path .notText]

theorem StopwordOrigin.loads_toSet (files : ReadFile) (origin : StopwordOrigin) :
    origin.Loads files (origin.toSet files).1 (origin.toSet files).2 := by
  have nothing : StopwordSet.empty.Lists [] := StopwordSet.ofWords_lists []
  cases origin with
  | none => exact .none nothing
  | words listed => exact .words (StopwordSet.ofWords_lists listed)
  | file path =>
    rw [toSet]
    cases found : files path with
    | error e =>
      have failed : StopwordSet.ofFile files path = .error e := by
        rw [StopwordSet.ofFile, found]
        rfl
      rw [failed]
      exact .missing found nothing
    | ok bytes =>
      rw [StopwordSet.ofFile_eq found]
      by_cases valid : ∃ text, Utf8.encode text = bytes
      · obtain ⟨text, rfl⟩ := valid
        obtain ⟨set, made, lists⟩ := StopwordSet.ofReader_lists text
        rw [made]
        exact .file found lists
      · rw [StopwordSet.ofReader_error valid]
        exact .broken found valid nothing

namespace SharedStopwords

inductive Step : Shared × List Caller → Shared × List Caller → Prop
  | caller {s s' pre post c c'} (inner : Caller.Step (s, c) (s', c')) :
      Step (s, pre ++ c :: post) (s', pre ++ c' :: post)

def start (origin : StopwordOrigin) (files : ReadFile) (plans : List (List Action)) :
    Shared × List Caller :=
  ({ files := files, handle := { origin := origin } }, plans.map fun plan => { plan := plan })

def buildersIn (callers : List Caller) : Nat := (callers.map fun c => c.isBuilder.toNat).sum

/-- The shared state, what the callers know of it, the one builder, and the queries that are still due. -/
structure Valid (origin : StopwordOrigin) (files : ReadFile) (plans : List (List Action)) (s : Shared)
    (callers : List Caller) : Prop where
  shared : s.Valid origin files
  fits : ∀ c ∈ callers, c.Fits origin files s
  builders : buildersIn callers = s.taken.toNat
  due : (answeredIn s.history ++ callers.flatMap Caller.due).Perm
    (plans.flatten.filterMap Action.query?)

variable {origin : StopwordOrigin} {files : ReadFile} {plans : List (List Action)}
variable {s s' : Shared} {callers callers' : List Caller}

private theorem buildersIn_mid (pre post : List Caller) (c : Caller) :
    buildersIn (pre ++ c :: post) = buildersIn (pre ++ post) + c.isBuilder.toNat := by
  simp only [buildersIn, List.map_append, List.map_cons, List.sum_append, List.sum_cons]
  omega

private theorem buildersIn_pos {c : Caller} (mem : c ∈ callers) (builds : c.isBuilder = true) :
    0 < buildersIn callers := by
  have one : c.isBuilder.toNat ≤ buildersIn callers := List.le_sum_of_mem (List.mem_map_of_mem mem)
  rwa [builds] at one

private theorem due_mid (pre post : List Caller) (c : Caller) (answered : List Query) :
    (answered ++ (pre ++ c :: post).flatMap Caller.due).Perm
      ((answered ++ c.due) ++ (pre ++ post).flatMap Caller.due) := by
  rw [List.append_assoc]
  exact (flatMap_mid_perm Caller.due pre post c).append_left answered

theorem Step.keeps (step : Step (s, callers) (s', callers'))
    (valid : Valid origin files plans s callers) : Valid origin files plans s' callers' := by
  cases step with
  | @caller _ _ pre post c c' inner =>
    have here := valid.fits c (by simp)
    have all := valid.builders
    rw [buildersIn_mid] at all
    obtain ⟨shared, known⟩ := inner.keeps valid.shared here
    refine ⟨shared, fun other mem => ?_, ?_, ?_⟩
    · rcases mem_mid.mp mem with rfl | outside
      · exact known
      · have inside : other ∈ pre ++ c :: post := mem_mid.mpr (.inr outside)
        refine (valid.fits other inside).of_step inner here fun builds => ?_
        have positive := buildersIn_pos outside builds
        have most := s.taken.toNat_le
        exact Bool.toNat_eq_zero.mp (by omega)
    · rw [buildersIn_mid]
      exact inner.builders all
    · refine (due_mid _ _ _ _).trans ?_
      rw [← inner.due_eq]
      exact (due_mid _ _ _ _).symm.trans valid.due

def Over (callers : List Caller) : Prop := ∀ c ∈ callers, c.phase = .free ∧ c.plan = []

theorem due_of_over (isOver : Over callers) : callers.flatMap Caller.due = [] := by
  refine List.flatMap_eq_nil_iff.mpr fun c mem => ?_
  obtain ⟨free, done⟩ := isOver c mem
  rw [Caller.due, free, done]
  rfl

private theorem exists_step_of_mem {c : Caller} (mem : c ∈ callers)
    (inner : ∃ next, Caller.Step (s, c) next) : ∃ next, Step (s, callers) next := by
  obtain ⟨⟨s', c'⟩, inner⟩ := inner
  obtain ⟨pre, post, rfl⟩ := List.append_of_mem mem
  exact ⟨_, .caller inner⟩

theorem exists_step (valid : Valid origin files plans s callers) (going : ¬ Over callers) :
    ∃ next, Step (s, callers) next := by
  simp only [Over, not_forall] at going
  obtain ⟨c, mem, busy⟩ := going
  rcases c.exists_step s with done | goesOn | ⟨taken, -⟩
  · exact absurd done busy
  · exact exists_step_of_mem mem goesOn
  -- a caller that waits has somebody to wait for, who goes on
  · have some : buildersIn callers ≠ 0 := by
      rw [valid.builders, taken]
      exact Nat.one_ne_zero
    obtain ⟨builder, inside, builds⟩ : ∃ b ∈ callers, b.isBuilder = true := by
      by_contra nobody
      refine some (List.sum_eq_zero_iff_forall_eq_nat.mpr fun n mem => ?_)
      obtain ⟨b, inside, rfl⟩ := List.mem_map.mp mem
      exact Bool.toNat_eq_zero.mpr (by_contra fun builds => nobody ⟨b, inside, by simpa using builds⟩)
    rcases builder.exists_step s with ⟨free, -⟩ | goesOn | ⟨-, idle⟩
    · rw [Caller.isBuilder, free] at builds
      cases builds
    · exact exists_step_of_mem inside goesOn
    · rw [builds] at idle
      cases idle

def settles (origin : StopwordOrigin) (files : ReadFile) (plans : List (List Action)) :
    Settles Step (fun a => Valid origin files plans a.1 a.2) (fun a => Over a.2) where
  rank := fun a => (a.2.map Caller.rank).sum
  keeps := fun valid step => step.keeps valid
  drops := fun {a b} valid step => by
    cases step with
    | caller inner =>
      have lower := inner.rank_lt
      simp only [List.map_append, List.map_cons, List.sum_append, List.sum_cons]
      omega
  moves := fun valid going => exists_step valid going

theorem valid_start (origin : StopwordOrigin) (files : ReadFile) (plans : List (List Action)) :
    Valid origin files plans (start origin files plans).1 (start origin files plans).2 where
  shared := by
    refine ⟨rfl, rfl, fun before mark after same => ?_, fun _ _ => ⟨by simp [start], rfl⟩,
      fun _ => by simp [start], fun set some => ?_, .inl rfl⟩
    · simp [start] at same
    · cases some
  fits := fun c mem => by
    obtain ⟨plan, -, rfl⟩ := List.mem_map.mp mem
    trivial
  builders := by
    refine List.sum_eq_zero_iff_forall_eq_nat.mpr fun n mem => ?_
    obtain ⟨c, inside, rfl⟩ := List.mem_map.mp mem
    obtain ⟨plan, -, rfl⟩ := List.mem_map.mp inside
    rfl
  due := by
    have same : (plans.map fun plan => ({ plan := plan } : Caller)).flatMap Caller.due =
        plans.flatten.filterMap Action.query? := by
      rw [List.filterMap_flatten, List.flatMap_map]
      rfl
    exact List.Perm.of_eq same

theorem Shared.Valid.logged_of_answered (valid : s.Valid origin files) {q : Query} {answer : Answer}
    (answered : .answered q answer ∈ s.history) : ∃ set, Loading origin files s.history set s.log := by
  have published := valid.timeline.built_of_seen (.inl ⟨q, answer, answered⟩)
  cases built : s.handle.built? with
  | none => exact absurd published (valid.unbuilt built)
  | some set => exact ⟨set, (valid.built set built).2⟩

/-- Any number of callers query the stopwords while files change. In every order of their steps the source is
loaded at most once, with one event at most, and every query comes to be answered, by the set of the words that
the source listed at that moment. The set is there once a query has been answered, and not before one was
begun. -/
theorem one_set_of_reaches (origin : StopwordOrigin) (files : ReadFile) (plans : List (List Action)) :
    Ends Step (start origin files plans) ∧
    ∀ s callers, Reaches Step (start origin files plans) (s, callers) →
      ((∃ next, Step (s, callers) next) ∨
        (answeredIn s.history).Perm (plans.flatten.filterMap Action.query?)) ∧
      s.log.length ≤ 1 ∧ (s.log ≠ [] → .loaded ∈ s.history) ∧
      (∀ before yes after, s.history = before ++ .peeked yes :: after →
        ((∀ q, .began q ∉ before) → yes = false) ∧
        ((∃ q answer, .answered q answer ∈ before) ∨ .peeked true ∈ before → yes = true)) ∧
      (∀ before q answer after, s.history = before ++ .answered q answer :: after → .loaded ∈ before) ∧
      ∀ before after, s.history = before ++ .loaded :: after →
        .loaded ∉ before ∧ .loaded ∉ after ∧
        ∃ set events, origin.Loads (filesAfter files before) set events ∧ (s.log = [] ∨ s.log = events) ∧
          ∀ q answer, .answered q answer ∈ s.history → answer = q.answer set ∧ s.log = events := by
  have law := settles origin files plans
  have begins := valid_start origin files plans
  refine ⟨law.ends begins, fun s callers run => ?_⟩
  obtain ⟨valid, goesOn⟩ := law.of_reaches begins run
  have timeline := valid.shared.timeline
  refine ⟨goesOn.imp_right fun isOver => ?_, ?_, fun some => ?_, ?_, ?_, ?_⟩
  · have due := valid.due
    rwa [due_of_over isOver, List.append_nil] at due
  · rcases valid.shared.logged with empty | ⟨set, loading⟩
    · rw [empty]
      exact Nat.zero_le 1
    · exact loading.length_le
  · rcases valid.shared.logged with empty | ⟨set, loading⟩
    · exact absurd empty some
    · exact loading.mem
  · intro before yes after same
    have built : yes = true ↔ .built ∈ before := timeline before _ after same
    have earlier := timeline.of_prefix ⟨_, same.symm⟩
    refine ⟨fun none => ?_, fun seen => built.mpr (earlier.built_of_seen seen)⟩
    refine Bool.eq_false_iff.mpr fun early => ?_
    obtain ⟨q, began⟩ := earlier.began_of_built (built.mp early)
    exact none q began
  · intro before q answer after same
    obtain ⟨-, earlier, later, rfl, -⟩ := timeline before _ after same
    simp
  · intro before after same
    have once := (same ▸ timeline).loaded_once
    refine ⟨once.1, once.2, _, _, origin.loads_toSet (filesAfter files before), ?_, fun q answer answered => ?_⟩
    · rcases valid.shared.logged with empty | ⟨set, loading⟩
      · exact .inl empty
      · rw [loading.toSet_eq same once]
        exact .inr rfl
    · obtain ⟨set, events, served, right⟩ := timeline.loading_of_answered answered
      obtain ⟨other, noted⟩ := valid.shared.logged_of_answered answered
      have made := served.toSet_eq same once
      have told := noted.toSet_eq same once
      exact ⟨by rw [right, made], by rw [told]⟩

def listPath : Path := .ofString "stopwords.txt"

def listFile : ReadFile := fun _ => .ok (Utf8.encode "The\n of \n")

def listSet : StopwordSet := ((StopwordOrigin.file listPath).toSet listFile).1

def noFile : ReadFile := fun _ => .error .notFound

def removesList : List Action :=
  [.peek, .query (.contains "the"), .edit fun _ => noFile, .query (.contains "cat")]

def asksForAll : List Action := [.query (.contains "of"), .peek, .query .whole]

def writesList : List Action := [.query (.contains "the"), .edit fun _ => listFile, .query (.contains "the")]

private theorem Step.first {s s' : Shared} {c c' other : Caller} (inner : Caller.Step (s, c) (s', c')) :
    Step (s, [c, other]) (s', [c', other]) := @Step.caller s s' [] [other] c c' inner

private theorem Step.second {s s' : Shared} {c c' other : Caller} (inner : Caller.Step (s, c) (s', c')) :
    Step (s, [other, c]) (s', [other, c']) := @Step.caller s s' [other] [] c c' inner

private theorem exists_run_of_list :
    ∃ s, Reaches Step (start (.file listPath) listFile [removesList, asksForAll])
        (s, [⟨.free, []⟩, ⟨.free, []⟩]) ∧
      s.history = [.peeked false, .began (.contains "the"), .began (.contains "of")] ++ .loaded :: [.built,
        .answered (.contains "of") (.listed (listSet.contains "of")),
        .answered (.contains "the") (.listed (listSet.contains "the")), .edited fun _ => noFile, .peeked true,
        .began (.contains "cat"), .answered (.contains "cat") (.listed (listSet.contains "cat")),
        .began .whole, .answered .whole (.whole listSet)] :=
  ⟨_, .head (.first .peek) (.head (.first .enter) (.head (.first (.claim rfl rfl))
    (.head (.second .enter) (.head (.first .load) (.head (.first .note) (.head (.first .publish)
    (.head (.second (.find rfl)) (.head (.second .answer) (.head (.first .answer) (.head (.first .edit)
    (.head (.second .peek) (.head (.first .enter) (.head (.first (.find rfl)) (.head (.first .answer)
    (.head (.second .enter) (.head (.second (.find rfl)) (.single (.second .answer)))))))))))))))))), rfl⟩

private theorem exists_run_of_absent :
    ∃ s, Reaches Step (start (.file listPath) noFile [writesList]) (s, [⟨.free, []⟩]) ∧
      s.history = [.began (.contains "the")] ++ .loaded :: [.built,
        .answered (.contains "the") (.listed false), .edited fun _ => listFile,
        .began (.contains "the"), .answered (.contains "the") (.listed false)] := by
  have alone : Reaches Caller.Step
      ({ files := noFile, handle := { origin := .file listPath } }, ⟨.free, writesList⟩) (_, ⟨.free, []⟩) :=
    .head .enter (.head (.claim rfl rfl) (.head .load (.head .note (.head .publish (.head .answer
      (.head .edit (.head .enter (.head (.find rfl) (.single .answer)))))))))
  exact ⟨_, alone.within (fun a => (a.1, [] ++ a.2 :: [])) fun step => .caller step, rfl⟩

/-- Two callers share a list that is removed later, and another one finds no list and writes it too late. -/
theorem listed_words_stay :
    (∃ s, Reaches Step (start (.file listPath) listFile [removesList, asksForAll])
        (s, [⟨.free, []⟩, ⟨.free, []⟩]) ∧
      .answered (.contains "of") (.listed true) ∈ s.history ∧
      .answered (.contains "the") (.listed true) ∈ s.history ∧
      .answered (.contains "cat") (.listed false) ∈ s.history ∧
      .answered .whole (.whole listSet) ∈ s.history ∧
      s.log = [loadedEvent listPath listSet] ∧ listSet.Lists ["The", " of ", ""]) ∧
    ∃ s, Reaches Step (start (.file listPath) noFile [writesList]) (s, [⟨.free, []⟩]) ∧
      .answered (.contains "the") (.listed true) ∉ s.history ∧
      s.log = [notLoadedEvent listPath .notFound] := by
  constructor
  · obtain ⟨s, run, history⟩ := exists_run_of_list
    obtain ⟨-, every⟩ := one_set_of_reaches (.file listPath) listFile [removesList, asksForAll]
    obtain ⟨-, -, -, -, -, loading⟩ := every s _ run
    obtain ⟨-, -, set, events, loads, -, answers⟩ := loading _ _ history
    have whole : .answered .whole (.whole listSet) ∈ s.history := by simp [history]
    obtain ⟨same, log⟩ := answers _ _ whole
    obtain rfl : listSet = set := by simpa [Query.answer] using same
    have the : listSet.contains "the" = true := by decide +kernel
    have of : listSet.contains "of" = true := by decide +kernel
    have cat : listSet.contains "cat" = false := by decide +kernel
    rw [the, of, cat] at history
    refine ⟨s, run, by simp [history], by simp [history], by simp [history], whole, ?_⟩
    rw [log]
    cases loads with
    | @file _ text _ content lists =>
      have found : Utf8.decode? (Utf8.encode "The\n of \n") = some text :=
        Utf8.decode?_eq_some_iff.mpr (Except.ok.inj content).symm
      rw [Utf8.decode?_eq_some_iff.mpr rfl] at found
      obtain rfl := Option.some.inj found
      exact ⟨rfl, lists⟩
    | missing failed => cases failed
    | broken content noText => exact absurd ⟨_, Except.ok.inj content⟩ noText
  · obtain ⟨s, run, history⟩ := exists_run_of_absent
    obtain ⟨-, every⟩ := one_set_of_reaches (.file listPath) noFile [writesList]
    obtain ⟨-, -, -, -, -, loading⟩ := every s _ run
    obtain ⟨-, -, set, events, loads, -, answers⟩ := loading _ _ history
    obtain ⟨-, log⟩ := answers (.contains "the") (.listed false) (by simp [history])
    refine ⟨s, run, by simp [history], ?_⟩
    rw [log]
    cases loads with
    | file content | broken content => cases content
    | missing failed => rw [Except.error.inj failed]

end SharedStopwords

end CorpusTally
