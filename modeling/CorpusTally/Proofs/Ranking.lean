import CorpusTally.Proofs.Sorting
import CorpusTally.Proofs.Unicode.ByteOrder

/-!
A sorted report has its results in the order of the bytes of their names and its failures in the order of the
components of their paths. Items of one rank stand as they came, and nothing else of the order in which they came
is left.
-/

namespace CorpusTally

open Utf8 (Bytes)

/-- The same items in an order that leaves those of one key as they were. -/
structure Rearranges {α κ : Type} [DecidableEq κ] (key : α → κ) (items others : List α) : Prop where
  perm : items.Perm others
  kept : ∀ k, items.filter (key · = k) = others.filter (key · = k)

section

variable {α κ : Type} [DecidableEq κ] {key : α → κ} {le : α → α → Bool} {items others : List α}

theorem Rearranges.trans {more : List α} (first : Rearranges key items others)
    (second : Rearranges key others more) : Rearranges key items more where
  perm := first.perm.trans second.perm
  kept k := (first.kept k).trans (second.kept k)

theorem Rearranges.symm (same : Rearranges key items others) : Rearranges key others items where
  perm := same.perm.symm
  kept k := (same.kept k).symm

theorem Rearranges.of_cons {a : α} (same : Rearranges key (a :: items) (a :: others)) :
    Rearranges key items others where
  perm := same.perm.cons_inv
  kept k := by
    have whole := same.kept k
    by_cases here : key a = k
    · simpa [here] using whole
    · simpa [here] using whole

theorem Rearranges.pass {a : α} (passed back : List α) (apart : ∀ b ∈ passed, key b ≠ key a) :
    Rearranges key (a :: (passed ++ back)) (passed ++ a :: back) where
  perm := List.perm_middle.symm
  kept k := by
    by_cases here : key a = k
    · have gone : passed.filter (key · = k) = [] := by
        apply List.filter_eq_nil_iff.mpr
        intro b mem
        rw [decide_eq_true_eq, ← here]
        exact apart b mem
      simp [here, gone]
    · simp [here]

namespace Ranks

omit [DecidableEq κ] in
theorem le_of_mem_cons (ranks : Ranks key le) {a b : α}
    (sorted : (a :: items).Pairwise fun x y => le x y = true) (mem : b ∈ a :: items) : le a b = true := by
  rcases List.mem_cons.mp mem with rfl | later
  · exact ((ranks.alike b b).mp rfl).1
  · exact (List.pairwise_cons.mp sorted).1 b later

/-- What is in order is known from its items key by key. -/
theorem eq_of_rearranges (ranks : Ranks key le) (same : Rearranges key items others)
    (sorted : items.Pairwise fun a b => le a b = true)
    (otherSorted : others.Pairwise fun a b => le a b = true) : items = others := by
  induction items generalizing others with
  | nil => exact same.perm.nil_eq
  | cons a items ih =>
    cases others with
    | nil => exact absurd same.perm (List.not_perm_cons_nil)
    | cons b others =>
      have rank : key a = key b := by
        apply (ranks.alike a b).mpr
        constructor
        · exact ranks.le_of_mem_cons sorted (same.perm.mem_iff.mpr List.mem_cons_self)
        · exact ranks.le_of_mem_cons otherSorted (same.perm.mem_iff.mp List.mem_cons_self)
      have firsts := same.kept (key a)
      rw [List.filter_cons_of_pos (by simp), List.filter_cons_of_pos (by simp [rank])] at firsts
      obtain ⟨rfl, -⟩ := List.cons.inj firsts
      rw [ih same.of_cons (List.pairwise_cons.mp sorted).2 (List.pairwise_cons.mp otherSorted).2]

theorem rearranges_mergeSort (ranks : Ranks key le) (items : List α) :
    Rearranges key (items.mergeSort le) items where
  perm := List.mergeSort_perm items le
  kept := ranks.mergeSort_filter items

theorem mergeSort_eq (ranks : Ranks key le) (same : Rearranges key items others) :
    items.mergeSort le = others.mergeSort le := by
  apply ranks.eq_of_rearranges
  · exact ((ranks.rearranges_mergeSort items).trans same).trans (ranks.rearranges_mergeSort others).symm
  · exact List.pairwise_mergeSort ranks.trans ranks.total items
  · exact List.pairwise_mergeSort ranks.trans ranks.total others

end Ranks

end

namespace Component

theorem Before.inOrder {a b : Component} (before : a.Before b) (common items others : List Component) :
    InOrder (common ++ a :: items) (common ++ b :: others) := by
  induction common with
  | nil => exact .first before
  | cons c common ih => exact .next ih

theorem before_longer (name : Bytes) {more : Bytes} (longer : more ≠ []) :
    (normal name).Before (normal (name ++ more)) := by
  obtain ⟨c, more, rfl⟩ := List.exists_cons_of_ne_nil longer
  have less : name ++ [] < name ++ c :: more := List.append_left_lt (List.nil_lt_cons c more)
  rw [List.append_nil] at less
  exact .inr ⟨rfl, less⟩

end Component

namespace Path

theorem AtOrBefore.trans {p q s : Path} (first : p.AtOrBefore q) (second : q.AtOrBefore s) : p.AtOrBefore s := by
  rw [← le_iff] at first second ⊢
  exact le_trans p q s first second

theorem AtOrBefore.total (p q : Path) : p.AtOrBefore q ∨ q.AtOrBefore p := by
  rw [← le_iff, ← le_iff]
  exact Bool.or_eq_true_iff.mp (le_total p q)

theorem alike_iff (p q : Path) : p.AtOrBefore q ∧ q.AtOrBefore p ↔ p.components = q.components := by
  rw [components_eq_iff, le_iff, le_iff]

/-- What is in a directory comes before what the name of the directory only begins. -/
theorem below_before_longer {p q : Path} {common below rest : List Component} {name more : Bytes}
    (inside : p.components = common ++ .normal name :: below)
    (beside : q.components = common ++ .normal (name ++ more) :: rest) (longer : more ≠ []) :
    p.AtOrBefore q ∧ ¬ q.AtOrBefore p := by
  have before : p.AtOrBefore q := by
    unfold AtOrBefore
    rw [inside, beside]
    exact (Component.before_longer name longer).inOrder common below rest
  refine ⟨before, fun after => longer ?_⟩
  have same := (alike_iff p q).mp ⟨before, after⟩
  rw [inside, beside] at same
  have names := (List.cons.inj (List.append_cancel_left same)).1
  exact List.append_right_eq_self.mp (Component.normal.inj names).symm

end Path

namespace Report

structure IsSorting (r s : Report) : Prop where
  results : Rearranges FileTally.fileName s.results r.results
  names : s.results.Pairwise fun a b => Utf8.encode a.fileName ≤ Utf8.encode b.fileName
  failures : Rearranges FailedFile.place s.failures r.failures
  places : s.failures.Pairwise fun a b => a.path.AtOrBefore b.path
  figures : s = { r with results := s.results, failures := s.failures }

theorem isSorting_sorted (r : Report) : IsSorting r r.sorted where
  results := FileTally.ranks_fileName.rearranges_mergeSort r.results
  names := by
    have order := List.pairwise_mergeSort FileTally.ranks_fileName.trans FileTally.ranks_fileName.total r.results
    apply order.imp
    intro a b below
    exact Utf8.encode_le_iff.mpr (of_decide_eq_true below)
  failures := FailedFile.ranks_place.rearranges_mergeSort r.failures
  places := by
    have order := List.pairwise_mergeSort FailedFile.ranks_place.trans FailedFile.ranks_place.total r.failures
    apply order.imp
    intro a b below
    exact (Path.le_iff a.path b.path).mp below
  figures := rfl

theorem sorted_rearranged (r : Report) {results : List FileTally} {failures : List FailedFile}
    (same : Rearranges FileTally.fileName results r.results)
    (sameFailures : Rearranges FailedFile.place failures r.failures) :
    ({ r with results, failures } : Report).sorted = r.sorted := by
  have oneOrder := FileTally.ranks_fileName.mergeSort_eq same
  have oneOrderOfFailures := FailedFile.ranks_place.mergeSort_eq sameFailures
  simp only [sorted, oneOrder, oneOrderOfFailures]

/-- Sorting brings the items in the order of their names and places, and nothing matters to it but the order within
one name or place. Places come in a total order, in which a directory and all below it come before what has a longer
name; slashes that are doubled or at the end and dots between them do not tell places apart. -/
theorem sorted_stable (r : Report) :
    (IsSorting r r.sorted ∧ r.sorted.sorted = r.sorted ∧
        ∀ results failures, Rearranges FileTally.fileName results r.results →
          Rearranges FailedFile.place failures r.failures →
          ({ r with results, failures } : Report).sorted = r.sorted) ∧
      (∀ p q s : Path, p.AtOrBefore q → q.AtOrBefore s → p.AtOrBefore s) ∧
      (∀ p q : Path, (p.AtOrBefore q ∨ q.AtOrBefore p) ∧
        (p.AtOrBefore q ∧ q.AtOrBefore p ↔ p.components = q.components)) ∧
      (∀ (p q : Path) common below rest name more, p.components = common ++ .normal name :: below →
        q.components = common ++ .normal (name ++ more) :: rest → more ≠ [] → p.AtOrBefore q ∧ ¬ q.AtOrBefore p) ∧
      ∀ front behind : Bytes,
        (⟨front ++ Path.slash :: Path.slash :: behind⟩ : Path).components =
            (⟨front ++ Path.slash :: behind⟩ : Path).components ∧
          (⟨front ++ Path.slash :: Path.dot :: Path.slash :: behind⟩ : Path).components =
            (⟨front ++ Path.slash :: behind⟩ : Path).components ∧
          (front ≠ [] → (⟨front ++ [Path.slash]⟩ : Path).components = (⟨front⟩ : Path).components) := by
  have sorting := isSorting_sorted r
  refine ⟨⟨sorting, ?_, ?_⟩, ?_, ?_, ?_, ?_⟩
  · exact sorted_rearranged r sorting.results sorting.failures
  · intro results failures same sameFailures
    exact sorted_rearranged r same sameFailures
  · intro p q s first second
    exact first.trans second
  · intro p q
    exact ⟨Path.AtOrBefore.total p q, Path.alike_iff p q⟩
  · intro p q common below rest name more inside beside longer
    exact Path.below_before_longer inside beside longer
  · intro front behind
    exact ⟨Path.components_double_slash front behind, Path.components_inner_dot front behind,
      Path.components_append_slash⟩

def failedAt (path : String) : FailedFile := ⟨.ofString path, .read (.ofString path) (.ofKind .permissionDenied)⟩

/-- Two results of one name, and one place in four spellings beside a name that bytes would put in front. -/
def mixed : Report where
  results := [⟨"b", []⟩, ⟨"a", []⟩, ⟨"b", [⟨"x", 1⟩]⟩]
  failures := [failedAt "a.b", failedAt "a//b", failedAt "a/./b", failedAt "a/b/", failedAt "a/b"]
  filesAnalyzed := 3
  filesFailed := 5
  totalWords := 1

def orderedNames : List FileTally := [⟨"a", []⟩, ⟨"b", []⟩, ⟨"b", [⟨"x", 1⟩]⟩]

def orderedPlaces : List FailedFile :=
  [failedAt "a//b", failedAt "a/./b", failedAt "a/b/", failedAt "a/b", failedAt "a.b"]

theorem sorted_mixed :
    mixed.sorted.results = orderedNames ∧ mixed.sorted.failures = orderedPlaces ∧
      ({ mixed with failures := orderedPlaces } : Report).sorted = mixed.sorted ∧
      ¬ (Path.ofString "a.b").AtOrBefore (.ofString "a/b") ∧ Utf8.encode "a.b" < Utf8.encode "a/b" ∧
      (Path.ofString "a/b/").components = (Path.ofString "a/b").components := by
  obtain ⟨⟨sorting, -, rearranged⟩, -, -, longer, spellings⟩ := sorted_stable mixed
  have named : Rearranges FileTally.fileName mixed.results orderedNames :=
    Rearranges.pass (orderedNames.take 1) (orderedNames.drop 2) (by decide)
  have placed : Rearranges FailedFile.place mixed.failures orderedPlaces :=
    Rearranges.pass (orderedPlaces.take 4) [] (by decide +kernel)
  refine ⟨?_, ?_, ?_, ?_, ?_, ?_⟩
  · apply FileTally.ranks_fileName.eq_of_rearranges (sorting.results.trans named)
    · apply sorting.names.imp
      intro a b below
      exact decide_eq_true (Utf8.encode_le_iff.mp below)
    · decide
  · apply FailedFile.ranks_place.eq_of_rearranges (sorting.failures.trans placed)
    · apply sorting.places.imp
      intro a b below
      exact (Path.le_iff a.path b.path).mpr below
    · decide +kernel
  · exact rearranged mixed.results orderedPlaces ⟨.rfl, fun _ => rfl⟩ placed.symm
  · exact (longer (.ofString "a/b") (.ofString "a.b") [] [.normal (Utf8.encode "b")] [] (Utf8.encode "a")
      (Utf8.encode ".b") (by decide +kernel) (by decide +kernel) (by decide)).2
  · decide
  · exact (spellings (Utf8.encode "a/b") []).2.2 (by decide)

end Report

end CorpusTally
