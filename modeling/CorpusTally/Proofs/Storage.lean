import CorpusTally.Proofs.Pool.Metrics
import CorpusTally.Proofs.Resolution

/-!
Trees as storage holds them. The files that a search finds there are entries of the tree, no two of them the
same, so that they have no more bytes than the tree. A report on them needs no number of more than 64 bits.
-/

namespace CorpusTally

open Utf8 (Bytes)

theorem sum_filterMap_le {α β : Type} {items : List α} {pick : α → Option β} {size : β → Nat}
    {bound : α → Nat} (fits : ∀ a ∈ items, ∀ b, pick a = some b → size b ≤ bound a) :
    ((items.filterMap pick).map size).sum ≤ (items.map bound).sum := by
  induction items with
  | nil => exact Nat.le_refl _
  | cons a items ih =>
    have rest := ih fun other mem => fits other (List.mem_cons_of_mem _ mem)
    rw [List.map_cons, List.sum_cons]
    match picked : pick a with
    | none =>
      rw [List.filterMap_cons_none picked]
      exact Nat.le_add_left_of_le rest
    | some b =>
      rw [List.filterMap_cons_some picked, List.map_cons, List.sum_cons]
      exact Nat.add_le_add (fits a List.mem_cons_self b picked) rest

namespace FileTree

def volume (t : FileTree) : Nat := (t.nodes.map fun entry => size entry.2).sum

theorem size_le_volume {t : FileTree} {entry : Location × Node} (mem : entry ∈ t.nodes) :
    size entry.2 ≤ t.volume := List.le_sum_of_mem (List.mem_map_of_mem mem)

/-- Each entry is there once, with directories above it, and all bytes together are a number of 64 bits. -/
structure Storable (t : FileTree) : Prop where
  names : ∀ entry ∈ t.nodes, ∀ name ∈ entry.1, IsName name
  once : (t.nodes.map Prod.fst).Nodup
  nested : ∀ entry ∈ t.nodes, ∀ n < entry.1.length, t.node? (entry.1.take n) = some .directory
  few : t.nodes.length < 2 ^ 64
  bytes : t.volume < 2 ^ 64

instance (t : FileTree) : Decidable t.Storable :=
  decidable_of_iff ((∀ entry ∈ t.nodes, ∀ name ∈ entry.1, IsName name) ∧
      (t.nodes.map Prod.fst).Nodup ∧
      (∀ entry ∈ t.nodes, ∀ n < entry.1.length, t.node? (entry.1.take n) = some .directory) ∧
      t.nodes.length < 2 ^ 64 ∧ t.volume < 2 ^ 64)
    ⟨fun ⟨names, once, nested, few, bytes⟩ => ⟨names, once, nested, few, bytes⟩,
      fun storable =>
        ⟨storable.names, storable.once, storable.nested, storable.few, storable.bytes⟩⟩

variable {t : FileTree}

theorem Storable.proper (storable : t.Storable) : t.Proper where
  names := storable.names
  sizes := fun _ mem => Nat.lt_of_le_of_lt (size_le_volume mem) storable.bytes

theorem Storable.node_of_mem (storable : t.Storable) {entry : Location × Node} (mem : entry ∈ t.nodes)
    (named : entry.1 ≠ []) : t.node? entry.1 = some entry.2 := by
  obtain ⟨before, after, nodes⟩ := List.append_of_mem mem
  have once := storable.once
  rw [nodes, List.map_append, List.nodup_append] at once
  rw [node?, if_neg named, List.lookup_eq_some_iff]
  refine ⟨before, after, nodes, fun other among => ?_⟩
  have apart := once.2.2 other.1 (List.mem_map_of_mem among) entry.1 (by simp)
  simpa using apart.symm

def readSize (t : FileTree) (path : Path) : Nat :=
  match t.read path with
  | .ok content => content.length
  | .error _ => 0

theorem readSize_le {path : Path} {bound : Nat}
    (reads : ∀ content, t.read path = .ok content → content.length ≤ bound) :
    t.readSize path ≤ bound := by
  unfold readSize
  split
  · next content read => exact reads content read
  · exact Nat.zero_le _

end FileTree

namespace FileSearch

open FileTree

variable {t : FileTree} {place : Location} {way : List Bytes}

theorem entry_of_pick {entry : Location × Node}
    (picked : (match entry.2 with
      | .file _ => if isBelow entry.1 place then some (entry.1.drop place.length) else none
      | _ => none) = some way) :
    ∃ content, entry = (place ++ way, .file content) ∧ way ≠ [] := by
  obtain ⟨spot, node⟩ := entry
  cases node with
  | directory | link => cases picked
  | file content =>
    by_cases below : isBelow spot place = true
    · obtain ⟨inside, other⟩ := Bool.and_eq_true_iff.mp below
      obtain ⟨rest, rfl⟩ := List.isPrefixOf_iff_prefix.mp inside
      obtain rfl : rest = way := by simpa [below] using picked
      exact ⟨content, rfl, by simpa using other⟩
    · simp [below] at picked

theorem leads_of_entry (storable : t.Storable) {content : Bytes}
    (entry : (place ++ way, .file content) ∈ t.nodes) (proceeds : way ≠ []) :
    t.Leads place way content where
  areNames := fun name mem => storable.names _ entry name (List.mem_append_right _ mem)
  proceeds := proceeds
  directories := fun n below => by
    have nested := storable.nested _ entry (place.length + n) (by simpa using below)
    rwa [List.take_length_add_append] at nested
  file := storable.node_of_mem entry (by simp [proceeds])

/-- The files below a directory are read as no more bytes than the tree has. -/
theorem sum_filesBelow_le (storable : t.Storable) {root : Path}
    (looked : t.lookup true root = .ok (place, .directory)) :
    ((filesBelow t place).map fun way => t.readSize (root.extend way)).sum ≤ t.volume := by
  refine sum_filterMap_le fun entry inside way picked => ?_
  obtain ⟨content, rfl, proceeds⟩ := entry_of_pick picked
  refine readSize_le fun bytes read => ?_
  rw [(leads_of_entry storable inside proceeds).eq_of_read looked read]
  exact Nat.le_refl _

theorem sum_visited_le {s : Surroundings} (storable : s.tree.Storable) (root : Path) :
    ((visited s root).map fun way => s.tree.readSize (root.extend way)).sum ≤ s.tree.volume ∧
    (visited s root).length ≤ max 1 s.tree.nodes.length := by
  unfold visited
  split
  · simp
  · split
    -- a root that is a file is found itself
    · next place content looked =>
      have entry := mem_of_node? (locate_of_lookup looked).2
      have whole : content.length ≤ s.tree.volume := size_le_volume entry
      have own : s.tree.readSize root ≤ content.length := readSize_le fun bytes read => by
        obtain ⟨found, again⟩ := lookup_of_read read
        obtain ⟨-, same⟩ := Prod.mk.inj (Except.ok.inj (looked.symm.trans again))
        exact Nat.le_of_eq (congrArg List.length (Node.file.inj same).symm)
      exact ⟨by simpa [Path.extend] using own.trans whole, by simp⟩
    · next place looked =>
      have some := List.filter_sublist (l := filesBelow s.tree place) (p := isReached s ⟨root, place⟩)
      have sizes := (some.map fun way => s.tree.readSize (root.extend way)).sum_le_sum (by simp)
      have number : (filesBelow s.tree place).length ≤ s.tree.nodes.length := List.length_filterMap_le _ _
      have fewer := some.length_le
      exact ⟨sizes.trans (sum_filesBelow_le storable looked), by omega⟩
    · simp

theorem sum_found_le {s : Surroundings} (storable : s.tree.Storable) {settings : Settings}
    {paths : List Path} {log : Log} (found : files s settings = .ok (paths, log)) :
    (paths.map s.tree.readSize).sum ≤ s.tree.volume ∧
      paths.length ≤ max 1 s.tree.nodes.length := by
  simp only [files] at found
  split at found
  case isFalse => cases found
  case isTrue =>
    obtain ⟨rfl, -⟩ := Prod.mk.inj (Except.ok.inj found)
    obtain ⟨bytes, number⟩ := sum_visited_le storable settings.rootPath
    generalize ordered : (visited s settings.rootPath).mergeSort _ = ways
    have perm : ways.Perm (visited s settings.rootPath) := ordered ▸ List.mergeSort_perm _ _
    have some := select_sublist settings ways
    have sizes := (some.map fun way => s.tree.readSize (settings.rootPath.extend way)).sum_le_sum
      (by simp)
    have sorted := List.mergeSort_perm ((select settings ways).1.map settings.rootPath.extend) Path.le
    have sameSizes := (sorted.map s.tree.readSize).sum_eq
    have visitedSizes := (perm.map fun way => s.tree.readSize (settings.rootPath.extend way)).sum_eq
    constructor
    · rw [sameSizes, List.map_map]
      exact sizes.trans (visitedSizes ▸ bytes)
    · rw [sorted.length_eq, List.length_map]
      exact some.length_le.trans (perm.length_eq ▸ number)

end FileSearch

namespace Analysis

open FileTree

variable {s : Surroundings}

theorem sum_fetched_le (reading : s.tree.Reading) (settings : Settings) (counters : Nat)
    (paths : List Path) :
    (((counterFor reading settings counters).fetched paths).map fun file => file.size).sum ≤
      (paths.map s.tree.readSize).sum := by
  refine sum_filterMap_le fun path _ file picked => ?_
  split at picked
  · next size text found =>
    obtain rfl := Option.some.inj picked
    obtain ⟨bytes, content, same, -⟩ := FileCounter.exists_bytes_of_fetch found
    simp [readSize, read_of_corpus content, same]
  all_goals cases picked

/-- The files that are found have a report, also if some of them are not read. -/
theorem numbers_of_found (storable : s.tree.Storable) (reading : s.tree.Reading) {settings : Settings}
    {paths : List Path} {log : Log} (found : FileSearch.files s settings = .ok (paths, log))
    (set : StopwordSet) (counters : Nat) :
    paths.length < 2 ^ 64 ∧ (counterFor reading settings counters).wordsOf set paths < 2 ^ 64 := by
  obtain ⟨bytes, number⟩ := FileSearch.sum_found_le storable found
  have few := storable.few
  have words := calc (counterFor reading settings counters).wordsOf set paths
    _ ≤ _ := FileCounter.wordsOf_le _ set paths
    _ ≤ (paths.map s.tree.readSize).sum := sum_fetched_le reading settings counters paths
    _ ≤ s.tree.volume := bytes
    _ < 2 ^ 64 := storable.bytes
  exact ⟨by omega, words⟩

end Analysis

end CorpusTally
