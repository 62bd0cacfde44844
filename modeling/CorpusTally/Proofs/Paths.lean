import CorpusTally.FileTree
import CorpusTally.Proofs.Pieces
import Mathlib.Data.List.Basic

/-!
The order of paths is a total one, in which paths of equal components rank alike. A path that is extended
by names has these names as its last components, so that different ways from one root lead to paths that
rank differently.
-/

namespace CorpusTally

open Utf8 (Bytes)

namespace Component

def kind : Component → Nat
  | root => 0
  | current => 1
  | parent => 2
  | normal _ => 3

def name : Component → Bytes
  | normal name => name
  | root | current | parent => []

def Before (a b : Component) : Prop := a.kind < b.kind ∨ a.kind = b.kind ∧ a.name < b.name

private theorem compare_eq : (compare : Component → Component → Ordering) =
    compareLex (compareOn kind) (compareOn name) := by
  funext a b
  cases a <;> cases b <;> first | rfl | exact Ordering.then_eq

instance : Std.TransOrd Component where
  eq_swap := by
    rw [compare_eq]
    exact Std.OrientedCmp.eq_swap
  isLE_trans := by
    rw [compare_eq]
    exact Std.TransCmp.isLE_trans

instance : Std.LawfulEqOrd Component where
  eq_of_compare := by
    intro a b same
    rw [compare_eq, compareLex, Ordering.then_eq_eq] at same
    have kinds : a.kind = b.kind := Std.LawfulEqCmp.eq_of_compare same.1
    have names : a.name = b.name := Std.LawfulEqCmp.eq_of_compare same.2
    cases a <;> cases b <;> simp [kind] at kinds <;> try rfl
    exact congrArg normal names
  compare_self := by
    rw [compare_eq]
    exact Std.ReflCmp.compare_self

private theorem compare_names (name other : Bytes) : compare name other = .lt ↔ name < other := by
  induction name generalizing other with
  | nil =>
    cases other with
    | nil => exact ⟨fun less => (nomatch less), fun less => absurd less (List.lt_irrefl _)⟩
    | cons b other => exact ⟨fun _ => List.nil_lt_cons b other, fun _ => rfl⟩
  | cons a name ih =>
    cases other with
    | nil => exact ⟨fun less => (nomatch less), fun less => absurd less (List.not_lt_nil _)⟩
    | cons b other =>
      have heads : compare (a :: name) (b :: other) = (compare a b).then (compare name other) :=
        List.compareLex_cons_cons
      rw [heads, Ordering.then_eq_lt, Std.compare_eq_lt, Std.LawfulEqCmp.compare_eq_iff_eq, ih,
        List.cons_lt_cons_iff]

theorem compare_eq_lt_iff (a b : Component) : compare a b = .lt ↔ a.Before b := by
  rw [compare_eq, compareLex, Ordering.then_eq_lt]
  simp only [compareOn, Before, compare_names, Std.compare_eq_lt, Std.LawfulEqCmp.compare_eq_iff_eq]

/-- The one list of components goes on as the other, or the first two that differ come in this order. -/
inductive InOrder : List Component → List Component → Prop
  | nil {others} : InOrder [] others
  | first {a b items others} (before : a.Before b) : InOrder (a :: items) (b :: others)
  | next {a items others} (rest : InOrder items others) : InOrder (a :: items) (a :: others)

theorem isLE_compare_iff (items others : List Component) :
    (compare items others).isLE = true ↔ InOrder items others := by
  induction items generalizing others with
  | nil => exact ⟨fun _ => .nil, fun _ => by cases others <;> rfl⟩
  | cons a items ih =>
    cases others with
    | nil => exact ⟨fun above => (nomatch above), fun above => (nomatch above)⟩
    | cons b others =>
      have heads : compare (a :: items) (b :: others) = (compare a b).then (compare items others) :=
        List.compareLex_cons_cons
      rw [heads, Ordering.isLE_then_iff_or, compare_eq_lt_iff, Std.LawfulEqCmp.compare_eq_iff_eq, ih]
      constructor
      · rintro (before | ⟨rfl, rest⟩)
        · exact .first before
        · exact .next rest
      · intro below
        cases below with
        | first before => exact .inl before
        | next rest => exact .inr ⟨rfl, rest⟩

end Component

namespace Path

theorem le_trans (a b c : Path) (first : a.le b = true) (second : b.le c = true) :
    a.le c = true := Std.TransCmp.isLE_trans first second

theorem le_total (a b : Path) : (a.le b || b.le a) = true := by
  have swap : compare b.components a.components = (compare a.components b.components).swap :=
    Std.OrientedCmp.eq_swap
  unfold le
  rw [swap]
  cases compare a.components b.components <;> rfl

def AtOrBefore (a b : Path) : Prop := Component.InOrder a.components b.components

theorem le_iff (a b : Path) : a.le b = true ↔ a.AtOrBefore b := Component.isLE_compare_iff _ _

theorem components_eq_iff (a b : Path) :
    a.components = b.components ↔ a.le b = true ∧ b.le a = true := by
  constructor
  · intro same
    unfold le
    rw [same]
    exact ⟨Std.ReflCmp.isLE_rfl, Std.ReflCmp.isLE_rfl⟩
  · rintro ⟨below, above⟩
    exact Std.LawfulEqCmp.eq_of_compare (Std.OrientedCmp.isLE_antisymm below above)

end Path

structure FileTree.IsName (name : Bytes) : Prop where
  nonempty : name ≠ []
  single : Path.slash ∉ name
  notHere : name ≠ FileTree.here
  notUp : name ≠ FileTree.up

instance (name : Bytes) : Decidable (FileTree.IsName name) :=
  decidable_of_iff (name ≠ [] ∧ Path.slash ∉ name ∧ name ≠ FileTree.here ∧ name ≠ FileTree.up)
    ⟨fun ⟨nonempty, single, notHere, notUp⟩ => ⟨nonempty, single, notHere, notUp⟩,
      fun isName => ⟨isName.nonempty, isName.single, isName.notHere, isName.notUp⟩⟩

namespace Path

open FileTree (IsName)

theorem component_name {name : Bytes} (isName : IsName name) :
    component? name = some (.normal name) := by
  have notHere : name ≠ [dot] := isName.notHere
  have notUp : name ≠ [dot, dot] := isName.notUp
  simp [component?, isName.nonempty, notHere, notUp]

private theorem split_name {name : Bytes} (isName : IsName name) : split slash name = [name] :=
  split_of_not_mem isName.single

private theorem filterMap_snoc_empty (names : List Bytes) :
    (names ++ [[]]).filterMap component? = names.filterMap component? := by
  simp [List.filterMap_append, component?]

private theorem components_slash (front behind : Bytes) :
    (⟨front ++ slash :: behind⟩ : Path).components =
      (⟨front ++ [slash]⟩ : Path).components ++ (split slash behind).filterMap component? := by
  obtain ⟨first, rest, pieces⟩ := List.exists_cons_of_ne_nil (split_ne_nil slash front)
  have empty : split slash ([] : Bytes) = [[]] := rfl
  have head : (front ++ slash :: behind).head? = (front ++ [slash]).head? := by
    cases front <;> rfl
  simp only [components, isAbsolute, split_append, pieces, empty, head, List.filterMap_append,
    List.append_assoc]
  rfl

theorem components_double_slash (front behind : Bytes) :
    (⟨front ++ slash :: slash :: behind⟩ : Path).components = (⟨front ++ slash :: behind⟩ : Path).components := by
  rw [components_slash, components_slash front behind]
  rfl

theorem components_inner_dot (front behind : Bytes) :
    (⟨front ++ slash :: dot :: slash :: behind⟩ : Path).components =
      (⟨front ++ slash :: behind⟩ : Path).components := by
  rw [components_slash, components_slash front behind]
  rfl

theorem components_append_slash {bytes : Bytes} (some : bytes ≠ []) :
    (⟨bytes ++ [slash]⟩ : Path).components = (⟨bytes⟩ : Path).components := by
  obtain ⟨first, rest, pieces⟩ := List.exists_cons_of_ne_nil (split_ne_nil slash bytes)
  obtain ⟨b, more, rfl⟩ := List.exists_cons_of_ne_nil some
  have empty : split slash ([] : Bytes) = [[]] := rfl
  simp only [components, isAbsolute, split_append, pieces, empty, filterMap_snoc_empty]
  rfl

theorem components_join (base : Path) {name : Bytes} (isName : IsName name) :
    (base.join ⟨name⟩).components = base.components ++ [.normal name] := by
  obtain ⟨bytes⟩ := base
  have relative : (⟨name⟩ : Path).isAbsolute = false := by
    have head : name.head? ≠ some slash := fun head => isName.single (List.mem_of_mem_head? head)
    simp [isAbsolute, head]
  have last : (split slash name).filterMap component? = [.normal name] := by
    rw [split_name isName]
    simp [component_name isName]
  by_cases nothing : bytes = []
  · have notHere : name ≠ [dot] := isName.notHere
    subst nothing
    have alone : (⟨name⟩ : Path).components = [.normal name] := by
      simp [components, relative, split_name isName, notHere, component_name isName]
    have none : (⟨[]⟩ : Path).components = [] := rfl
    simpa [join, none] using alone
  · by_cases ends : bytes.getLast? = some slash
    · obtain ⟨front, rfl⟩ := List.getLast?_eq_some_iff.mp ends
      have joined : (⟨front ++ [slash]⟩ : Path).join ⟨name⟩ = ⟨front ++ slash :: name⟩ := by
        simp [join, relative]
      rw [joined, components_slash, last]
    · have joined : (⟨bytes⟩ : Path).join ⟨name⟩ = ⟨bytes ++ slash :: name⟩ := by
        simp [join, relative, nothing, ends]
      rw [joined, components_slash, last, components_append_slash nothing]

theorem fileName?_join (base : Path) {p : Path} {name : Bytes} (named : p.fileName? = some name) :
    (base.join p).fileName? = some name := by
  have last : ((split slash p.bytes).filterMap component?).getLast? = some (.normal name) := by
    have ends : p.components.getLast? = some (.normal name) := by
      unfold fileName? at named
      split at named
      · next c ends => rw [ends, Option.some.inj named]
      · cases named
    unfold components at ends
    rw [List.getLast?_append] at ends
    cases behind : ((split slash p.bytes).filterMap component?).getLast? with
    | some c => simpa [behind] using ends
    | none =>
      rw [behind] at ends
      split at ends
      · cases ends
      · split at ends <;> cases ends
  have joined (front : Bytes) : (⟨front ++ slash :: p.bytes⟩ : Path).fileName? = some name := by
    rw [fileName?, components_slash, List.getLast?_append, last]
    rfl
  unfold join
  split
  · exact named
  · split
    · next ends =>
      obtain ⟨front, bytes⟩ := List.getLast?_eq_some_iff.mp ends
      rw [bytes, List.append_assoc]
      exact joined front
    · exact joined base.bytes

theorem components_extend (base : Path) {names : List Bytes} (areNames : ∀ name ∈ names, IsName name) :
    (base.extend names).components = base.components ++ names.map .normal := by
  induction names generalizing base with
  | nil => simp [extend]
  | cons name names ih =>
    have rest := ih (base.join ⟨name⟩) fun other mem => areNames other (List.mem_cons_of_mem _ mem)
    rw [components_join base (areNames name List.mem_cons_self)] at rest
    simpa [extend] using rest

theorem extend_injective (base : Path) {names others : List Bytes}
    (areNames : ∀ name ∈ names, IsName name) (areOthers : ∀ name ∈ others, IsName name)
    (same : (base.extend names).components = (base.extend others).components) :
    names = others := by
  rw [components_extend base areNames, components_extend base areOthers] at same
  exact List.map_injective_iff.mpr (fun _ _ equal => Component.normal.inj equal)
    (List.append_cancel_left same)

end Path

end CorpusTally
