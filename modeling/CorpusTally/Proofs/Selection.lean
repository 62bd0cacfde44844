import CorpusTally.Proofs.Storage
import Mathlib.Data.List.Nodup

/-!
What a search finds is exactly what it visits and its filters let through, in the order of the paths. The filters
look at the way from the root, which ends with the name of the file, so that they judge the file itself. Only a
root that is a file has no way and no name to be judged by.
-/

namespace CorpusTally

open Utf8 (Bytes)

open FileTree (IsName)

namespace Path

theorem components_wayPath {way : List Bytes} (areNames : ∀ name ∈ way, IsName name) (some : way ≠ []) :
    (FileSearch.wayPath way).components = way.map .normal := by
  obtain ⟨name, rest, rfl⟩ := List.exists_cons_of_ne_nil some
  have isName := areNames name List.mem_cons_self
  have pieces := split_joinPieces some fun name mem => (areNames name mem).single
  have relative : (joinPieces slash (name :: rest)).head? ≠ Option.some slash := by
    obtain ⟨b, more, rfl⟩ := List.exists_cons_of_ne_nil isName.nonempty
    have first : (joinPieces slash ((b :: more) :: rest)).head? = Option.some b := by
      cases rest <;> rfl
    rw [first]
    intro same
    exact isName.single (Option.some.inj same ▸ List.mem_cons_self)
  have notHere : name ≠ [dot] := isName.notHere
  have counted := List.filterMap_eq_map_iff_forall_eq_some.mpr fun name mem => component_name (areNames name mem)
  simp only [components, isAbsolute, FileSearch.wayPath, pieces, counted]
  simp [relative, notHere]

theorem fileName?_congr {p q : Path} (same : p.components.getLast? = q.components.getLast?) :
    p.fileName? = q.fileName? := by
  rw [fileName?, fileName?, same]

end Path

namespace FileFilter

variable {p q : Path}

private theorem hasExtensionOf_congr (same : p.fileName? = q.fileName?) (listed : List String) :
    hasExtensionOf listed p = hasExtensionOf listed q := by
  simp only [hasExtensionOf, textExtension?, Path.extension?, same]

theorem isBinary_congr (same : p.fileName? = q.fileName?) : isBinary p = isBinary q :=
  hasExtensionOf_congr same nonTextExtensions

theorem passesExtensions_congr (same : p.fileName? = q.fileName?) (extensions : Option (List String)) :
    passesExtensions extensions p = passesExtensions extensions q := by
  cases extensions with
  | none => rfl
  | some listed => exact hasExtensionOf_congr same listed

/-- A file is let through by its own name and by its path from the root. -/
structure Admits (settings : Settings) (file relative : Path) : Prop where
  extension : passesExtensions settings.fileExtensions file = true
  text : isBinary file = false
  kept : (isIgnored settings.ignorePatterns relative).1 = false

theorem includes_iff {settings : Settings} :
    (includes settings.fileExtensions settings.ignorePatterns p).1 = true ↔ Admits settings p p := by
  unfold includes
  by_cases judged : (isBinary p || !passesExtensions settings.fileExtensions p) = true
  · rw [if_pos judged]
    constructor
    · intro impossible
      cases impossible
    · intro admits
      simp [admits.extension, admits.text] at judged
  · rw [if_neg judged]
    simp only [Bool.or_eq_true, Bool.not_eq_true', not_or, Bool.not_eq_true, Bool.not_eq_false] at judged
    constructor
    · intro kept
      exact ⟨judged.2, judged.1, by simpa using kept⟩
    · intro admits
      simp [admits.kept]

theorem Admits.congr {settings : Settings} {relative : Path} (same : p.fileName? = q.fileName?) :
    Admits settings p relative ↔ Admits settings q relative :=
  ⟨fun ⟨extension, text, kept⟩ => ⟨passesExtensions_congr same _ ▸ extension, isBinary_congr same ▸ text, kept⟩,
    fun ⟨extension, text, kept⟩ => ⟨passesExtensions_congr same _ ▸ extension, isBinary_congr same ▸ text, kept⟩⟩

end FileFilter

namespace FileSearch

open FileTree FileFilter

variable {s : Surroundings} {settings : Settings} {root : Path} {place : Location} {way : List Bytes}

structure Distinct (t : FileTree) : Prop where
  names : ∀ entry ∈ t.nodes, ∀ name ∈ entry.1, IsName name
  once : (t.nodes.map Prod.fst).Nodup

instance (t : FileTree) : Decidable (Distinct t) :=
  decidable_of_iff ((∀ entry ∈ t.nodes, ∀ name ∈ entry.1, IsName name) ∧ (t.nodes.map Prod.fst).Nodup)
    ⟨fun both => ⟨both.1, both.2⟩, fun distinct => ⟨distinct.names, distinct.once⟩⟩

private theorem filesBelow_sublist (nodes : List (Location × Node)) (place : Location) (dir : Location) :
    ((filesBelow ⟨nodes, dir⟩ place).map (place ++ ·)).Sublist (nodes.map Prod.fst) := by
  induction nodes with
  | nil => exact .slnil
  | cons entry nodes ih =>
    rw [List.map_cons]
    unfold filesBelow at ih ⊢
    rw [List.filterMap_cons]
    split
    · exact .cons _ ih
    · next way picked =>
      obtain ⟨content, rfl, -⟩ := entry_of_pick picked
      exact .cons_cons _ ih

theorem nodup_visited (distinct : Distinct s.tree) (root : Path) : (visited s root).Nodup := by
  unfold visited
  split
  · exact .nil
  · split
    · simp
    · next place _ =>
      have below := (filesBelow_sublist s.tree.nodes place s.tree.workDir).nodup distinct.once
      exact List.Nodup.filter _ (List.Nodup.of_map _ below)
    · exact .nil

theorem nil_mem_visited_iff : [] ∈ visited s root ↔ visited s root = [[]] := by
  unfold visited
  split
  · simp
  · split
    · simp
    · constructor
      · intro mem
        obtain ⟨entry, -, picked⟩ := List.mem_filterMap.mp (List.mem_of_mem_filter mem)
        obtain ⟨-, -, proceeds⟩ := entry_of_pick picked
        exact absurd rfl proceeds
      · intro same
        simp [same]
    · simp

theorem mem_select_iff {ways : List (List Bytes)} :
    way ∈ (select settings ways).1 ↔ way ∈ ways ∧ Admits settings (wayPath way) (wayPath way) := by
  have filtered : (select settings ways).1 = ways.filter fun way =>
      (includes settings.fileExtensions settings.ignorePatterns (wayPath way)).1 := by
    induction ways with
    | nil => rfl
    | cons way ways ih =>
      rw [List.filter_cons, ← ih]
      rfl
  rw [filtered, List.mem_filter, includes_iff]

theorem components_extend_way (areNames : ∀ name ∈ way, IsName name) :
    (root.extend way).components = root.components ++ (wayPath way).components := by
  rw [Path.components_extend root areNames]
  cases way with
  | nil => rfl
  | cons name way => rw [Path.components_wayPath areNames (List.cons_ne_nil name way)]

theorem fileName?_extend (areNames : ∀ name ∈ way, IsName name) (proceeds : way ≠ []) :
    (root.extend way).fileName? = (wayPath way).fileName? := by
  apply Path.fileName?_congr
  rw [components_extend_way areNames, Path.components_wayPath areNames proceeds,
    List.getLast?_append_of_ne_nil _ (by simpa using proceeds)]

private theorem strictly_sorted {paths : List Path} (ordered : paths.Pairwise fun a b => a.le b = true)
    (distinct : (paths.map Path.components).Nodup) :
    paths.Pairwise fun a b => compare a.components b.components = .lt := by
  rw [List.Nodup, List.pairwise_map] at distinct
  refine ordered.imp₂ ?_ distinct
  intro a b le different
  unfold Path.le at le
  cases order : compare a.components b.components with
  | lt => rfl
  | eq => exact absurd (Std.LawfulEqCmp.eq_of_compare order) different
  | gt => simp [order] at le

theorem admits_nothing_iff {relative : Path} : Admits settings (wayPath []) relative ↔
    settings.fileExtensions = none ∧ (isIgnored settings.ignorePatterns relative).1 = false := by
  constructor
  · rintro ⟨extension, -, kept⟩
    cases listed : settings.fileExtensions with
    | none => exact ⟨rfl, kept⟩
    | some extensions =>
      rw [listed] at extension
      cases extension
  · rintro ⟨unlisted, kept⟩
    exact ⟨by rw [unlisted]; rfl, rfl, kept⟩

private theorem exists_found (distinct : Distinct s.tree) (present : s.tree.isPresent settings.rootPath = true) :
    ∃ paths log, files s settings = .ok (paths, log) ∧
      (paths.Pairwise fun a b => compare a.components b.components = .lt) ∧
      ∀ p, p ∈ paths ↔ ∃ way ∈ visited s settings.rootPath, p = settings.rootPath.extend way ∧
        Admits settings (wayPath way) (wayPath way) := by
  generalize ordered : ((visited s settings.rootPath).mergeSort fun a b => (wayPath a).le (wayPath b)) = ways
  have perm : ways.Perm (visited s settings.rootPath) := ordered ▸ List.mergeSort_perm _ _
  generalize found : ((select settings ways).1.map settings.rootPath.extend).mergeSort Path.le = paths
  have sorted : paths.Perm ((select settings ways).1.map settings.rootPath.extend) :=
    found ▸ List.mergeSort_perm _ _
  have named {way : List Bytes} (selected : way ∈ (select settings ways).1) : ∀ name ∈ way, IsName name :=
    isName_of_visited distinct.names (perm.mem_iff.mp (mem_select_iff.mp selected).1)
  refine ⟨paths, (select settings ways).2 ++ [foundEvent settings.rootPath paths.length], ?_, ?_, ?_⟩
  · simp [files, present, ordered, found]
  · apply strictly_sorted
    · rw [← found]
      exact List.pairwise_mergeSort Path.le_trans Path.le_total _
    · rw [(sorted.map Path.components).nodup_iff, List.map_map]
      have once : (select settings ways).1.Nodup :=
        (select_sublist settings ways).nodup (perm.nodup_iff.mpr (nodup_visited distinct settings.rootPath))
      refine List.Nodup.map_on ?_ once
      intro way selected other among same
      exact Path.extend_injective settings.rootPath (named selected) (named among) same
  · intro p
    rw [sorted.mem_iff, List.mem_map]
    constructor
    · rintro ⟨way, selected, rfl⟩
      obtain ⟨mem, admits⟩ := mem_select_iff.mp selected
      exact ⟨way, perm.mem_iff.mp mem, rfl, admits⟩
    · rintro ⟨way, mem, rfl, admits⟩
      exact ⟨way, mem_select_iff.mpr ⟨perm.mem_iff.mpr mem, admits⟩, rfl⟩

private theorem judged_by_name_iff (distinct : Distinct s.tree) {paths : List Path}
    (members : ∀ p, p ∈ paths ↔ ∃ way ∈ visited s settings.rootPath, p = settings.rootPath.extend way ∧
      Admits settings (wayPath way) (wayPath way)) :
    (∀ p, p ∈ paths ↔ ∃ way ∈ visited s settings.rootPath, p = settings.rootPath.extend way ∧
        Admits settings p (wayPath way)) ↔
      ([] ∈ visited s settings.rootPath → (isIgnored settings.ignorePatterns (wayPath [])).1 = false →
        (settings.fileExtensions = none ↔
          passesExtensions settings.fileExtensions settings.rootPath = true ∧
            isBinary settings.rootPath = false)) := by
  by_cases single : [] ∈ visited s settings.rootPath
  · -- the root is all that is visited
    rw [nil_mem_visited_iff.mp single] at members ⊢
    simp only [List.mem_singleton, exists_eq_left, admits_nothing_iff] at members ⊢
    have itself : settings.rootPath.extend [] = settings.rootPath := rfl
    rw [itself] at members ⊢
    constructor
    · intro law _ kept
      have root := (members settings.rootPath).symm.trans (law settings.rootPath)
      constructor
      · intro unlisted
        have admits := (root.mp ⟨rfl, unlisted, kept⟩).2
        exact ⟨admits.extension, admits.text⟩
      · rintro ⟨extension, text⟩
        exact (root.mpr ⟨rfl, extension, text, kept⟩).2.1
    · intro own p
      refine (members p).trans (and_congr_right ?_)
      rintro rfl
      constructor
      · rintro ⟨unlisted, kept⟩
        obtain ⟨extension, text⟩ := (own trivial kept).mp unlisted
        exact ⟨extension, text, kept⟩
      · rintro ⟨extension, text, kept⟩
        exact ⟨(own trivial kept).mpr ⟨extension, text⟩, kept⟩
  · -- every way ends with the name of its file
    constructor
    · intro _ root
      exact absurd root single
    · intro _ p
      refine (members p).trans (exists_congr fun way => and_congr_right fun mem => and_congr_right ?_)
      rintro rfl
      have proceeds : way ≠ [] := fun nothing => single (nothing ▸ mem)
      exact (Admits.congr (fileName?_extend (isName_of_visited distinct.names mem) proceeds)).symm

/-- A search from a root that is there returns, and its files come in strict order. They are those that are
visited and that the filters let through by the path from the root. This is judging them by their own names as
well, except for a root that is a file: it is found if no extensions are listed, whatever its own one. -/
theorem mem_files_iff (s : Surroundings) (distinct : Distinct s.tree) (settings : Settings)
    (present : s.tree.isPresent settings.rootPath = true) :
    ∃ paths log, files s settings = .ok (paths, log) ∧
      (paths.Pairwise fun a b => compare a.components b.components = .lt) ∧
      (∀ way ∈ visited s settings.rootPath, (settings.rootPath.extend way).components =
        settings.rootPath.components ++ (wayPath way).components) ∧
      (∀ p, p ∈ paths ↔ ∃ way ∈ visited s settings.rootPath, p = settings.rootPath.extend way ∧
        Admits settings (wayPath way) (wayPath way)) ∧
      ((∀ p, p ∈ paths ↔ ∃ way ∈ visited s settings.rootPath, p = settings.rootPath.extend way ∧
          Admits settings p (wayPath way)) ↔
        ([] ∈ visited s settings.rootPath → (isIgnored settings.ignorePatterns (wayPath [])).1 = false →
          (settings.fileExtensions = none ↔
            passesExtensions settings.fileExtensions settings.rootPath = true ∧
              isBinary settings.rootPath = false))) := by
  obtain ⟨paths, log, found, ordered, members⟩ := exists_found distinct present
  refine ⟨paths, log, found, ordered, ?_, members, judged_by_name_iff distinct members⟩
  intro way mem
  exact components_extend_way (isName_of_visited distinct.names mem)

def fileRoot : Surroundings where
  tree := { nodes := [([Utf8.encode "a.txt"], .file (Utf8.encode "alpha"))] }
  home := Path.ofString "/home"

/-- A file with a listed extension is visited and not found from itself. -/
theorem not_found_from_itself :
    [] ∈ visited fileRoot (.ofString "a.txt") ∧
    Admits { rootPath := .ofString "a.txt" } (.ofString "a.txt") (wayPath []) ∧
    ∃ paths log, files fileRoot { rootPath := .ofString "a.txt" } = .ok (paths, log) ∧
      .ofString "a.txt" ∉ paths := by
  obtain ⟨paths, log, found, -, -, members, -⟩ :=
    mem_files_iff fileRoot (by decide +kernel) { rootPath := .ofString "a.txt" } (by decide +kernel)
  have itself : [] ∈ visited fileRoot (.ofString "a.txt") := by decide +kernel
  have admits : Admits { rootPath := .ofString "a.txt" } (.ofString "a.txt") (wayPath []) :=
    ⟨by decide +kernel, by decide +kernel, by decide +kernel⟩
  refine ⟨itself, admits, paths, log, found, fun mem => ?_⟩
  obtain ⟨way, among, -, judged⟩ := (members _).mp mem
  rw [nil_mem_visited_iff.mp itself, List.mem_singleton] at among
  subst among
  cases (admits_nothing_iff.mp judged).1

end FileSearch

end CorpusTally
