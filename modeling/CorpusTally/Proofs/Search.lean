import CorpusTally.Analysis
import CorpusTally.Proofs.Paths
import CorpusTally.Proofs.Pool.FileWork

/-!
What a search finds in a tree as file systems have them: files of different places only, each of them
with fewer bytes than a count of 64 bits can hold.
-/

namespace CorpusTally

open Utf8 (Bytes)

theorem bind_eq_ok {ε α β : Type} {x : Except ε α} {next : α → Except ε β} {b : β}
    (ends : x >>= next = .ok b) : ∃ a, x = .ok a ∧ next a = .ok b := by
  cases x with
  | error e => cases ends
  | ok a => exact ⟨a, rfl, ends⟩

namespace FileTree

def size : Node → Nat
  | .file content => content.length
  | .directory | .link _ => 0

/-- Every entry has a name, and the size of every file is a number of 64 bits. -/
structure Proper (t : FileTree) : Prop where
  names : ∀ entry ∈ t.nodes, ∀ name ∈ entry.1, IsName name
  sizes : ∀ entry ∈ t.nodes, size entry.2 < 2 ^ 64

instance (t : FileTree) : Decidable t.Proper :=
  decidable_of_iff ((∀ entry ∈ t.nodes, ∀ name ∈ entry.1, IsName name) ∧
      ∀ entry ∈ t.nodes, size entry.2 < 2 ^ 64)
    ⟨fun both => ⟨both.1, both.2⟩, fun proper => ⟨proper.names, proper.sizes⟩⟩

theorem locate_of_lookup {t : FileTree} {p : Path} {place : Location} {node : Node}
    (looked : t.lookup true p = .ok (place, node)) :
    t.locate true p = .ok place ∧ t.node? place = some node := by
  obtain ⟨found, located, rest⟩ := bind_eq_ok looked
  split at rest
  · next node here =>
    obtain ⟨rfl, rfl⟩ := Prod.mk.inj (Except.ok.inj rest)
    exact ⟨located, here⟩
  · cases rest

theorem lookup_of_read {t : FileTree} {p : Path} {content : Bytes}
    (read : t.read p = .ok content) :
    ∃ place, t.lookup true p = .ok (place, .file content) := by
  obtain ⟨⟨place, node⟩, looked, rest⟩ := bind_eq_ok read
  cases node with
  | directory | link => cases rest
  | file bytes =>
    obtain rfl : bytes = content := Except.ok.inj rest
    exact ⟨place, looked⟩

theorem mem_of_node? {t : FileTree} {place : Location} {content : Bytes}
    (node : t.node? place = some (.file content)) : (place, .file content) ∈ t.nodes := by
  unfold node? at node
  split at node
  · cases node
  · obtain ⟨before, after, nodes, -⟩ := List.lookup_eq_some_iff.mp node
    simp [nodes]

theorem Proper.length_of_read {t : FileTree} (proper : t.Proper) {path : Path} {content : Bytes}
    (read : t.read path = .ok content) : content.length < 2 ^ 64 := by
  obtain ⟨place, looked⟩ := lookup_of_read read
  exact proper.sizes (place, .file content) (mem_of_node? (locate_of_lookup looked).2)

end FileTree

namespace FileSearch

theorem isName_of_visited {s : Surroundings}
    (names : ∀ entry ∈ s.tree.nodes, ∀ name ∈ entry.1, FileTree.IsName name) {root : Path}
    {way : List Bytes} (mem : way ∈ visited s root) : ∀ name ∈ way, FileTree.IsName name := by
  unfold visited at mem
  split at mem
  · simp at mem
  · split at mem
    · obtain rfl : way = [] := by simpa using mem
      simp
    · have below := List.mem_of_mem_filter mem
      unfold filesBelow at below
      obtain ⟨entry, inside, cut⟩ := List.mem_filterMap.mp below
      intro name within
      split at cut
      · split at cut
        · obtain rfl := Option.some.inj cut
          exact names entry inside name (List.mem_of_mem_drop within)
        · simp at cut
      · simp at cut
    · simp at mem

theorem select_sublist (settings : Settings) (ways : List (List Bytes)) :
    (select settings ways).1.Sublist ways := by
  induction ways with
  | nil => exact .slnil
  | cons way ways ih =>
    simp only [select]
    split
    · exact .cons_cons way ih
    · exact .cons way ih

private theorem select_congr {a b : Settings} (extensions : a.fileExtensions = b.fileExtensions)
    (patterns : a.ignorePatterns = b.ignorePatterns) (ways : List (List Bytes)) :
    select a ways = select b ways := by
  induction ways with
  | nil => rfl
  | cons way ways ih => simp only [select, extensions, patterns, ih]

theorem files_congr {a b : Settings} (s : Surroundings) (root : a.rootPath = b.rootPath)
    (extensions : a.fileExtensions = b.fileExtensions)
    (patterns : a.ignorePatterns = b.ignorePatterns) : files s a = files s b := by
  simp only [files, root, select_congr extensions patterns]

theorem exists_files {s : Surroundings} {settings : Settings} (ways : List (List Bytes))
    (present : s.tree.isPresent settings.rootPath = true)
    (visits : visited s settings.rootPath = ways) (all : (select settings ways).1 = ways)
    (ordered : ways.Pairwise fun a b => (wayPath a).le (wayPath b))
    (sorted : (ways.map settings.rootPath.extend).Pairwise fun a b => a.le b) :
    ∃ found, files s settings = .ok (ways.map settings.rootPath.extend, found) := by
  simp only [files, present, visits, List.mergeSort_of_pairwise ordered, all,
    List.mergeSort_of_pairwise sorted]
  exact ⟨_, rfl⟩

/-- No two of the files that are found are the same place. -/
theorem eq_of_components_eq {s : Surroundings} (proper : s.tree.Proper) {settings : Settings}
    {paths : List Path} {log : Log} (found : files s settings = .ok (paths, log)) {f g : Path}
    (memF : f ∈ paths) (memG : g ∈ paths) (same : f.components = g.components) : f = g := by
  have ways : ∀ path ∈ paths, ∃ way, (∀ name ∈ way, FileTree.IsName name) ∧
      settings.rootPath.extend way = path := by
    intro path mem
    simp only [files] at found
    split at found
    · obtain ⟨rfl, -⟩ := Prod.mk.inj (Except.ok.inj found)
      obtain ⟨way, selected, rfl⟩ := List.mem_map.mp (List.mem_mergeSort.mp mem)
      have here := List.mem_mergeSort.mp ((select_sublist _ _).subset selected)
      exact ⟨way, isName_of_visited proper.names here, rfl⟩
    · cases found
  obtain ⟨way, areNames, rfl⟩ := ways f memF
  obtain ⟨other, areOthers, rfl⟩ := ways g memG
  rw [Path.extend_injective settings.rootPath areNames areOthers same]

end FileSearch

/-- How reading in a tree goes. What is read is there, but there may be what the system refuses to read. -/
structure FileTree.Reading (t : FileTree) where
  read : ReadFile
  faithful : ∀ path content, read path = .ok content → t.read path = .ok content

def FileTree.Reading.whole (t : FileTree) : t.Reading := ⟨t.read, fun _ _ same => same⟩

namespace Analysis

variable {s : Surroundings}

def counterFor (reading : s.tree.Reading) (settings : Settings) (counters : Nat) : FileCounter :=
  { fileCounter s settings counters with
    corpus := .ofReadFile reading.read
    stopwordFile := reading.read }

theorem counterFor_whole (s : Surroundings) (settings : Settings) (counters : Nat) :
    counterFor (.whole s.tree) settings counters = fileCounter s settings counters := rfl

theorem read_of_corpus {reading : s.tree.Reading} {settings : Settings} {counters : Nat} {path : Path}
    {bytes : Bytes} (content : (counterFor reading settings counters).corpus path = .ok (.ok bytes)) :
    s.tree.read path = .ok bytes := by
  refine reading.faithful path bytes ?_
  match read : reading.read path with
  | .error e => simp [counterFor, Corpus.ofReadFile, read, Except.mapError] at content
  | .ok bytes => simpa [counterFor, Corpus.ofReadFile, read, Except.mapError] using content

theorem holds_counterFor (proper : s.tree.Proper) (reading : s.tree.Reading) (settings : Settings)
    (counters : Nat) : (counterFor reading settings counters).Holds :=
  fun _ _ content => proper.length_of_read (read_of_corpus content)

end Analysis

theorem FileTree.Proper.holds {s : Surroundings} (proper : s.tree.Proper) (settings : Settings)
    (counters : Nat) : (Analysis.fileCounter s settings counters).Holds := by
  rw [← Analysis.counterFor_whole]
  exact Analysis.holds_counterFor proper (.whole s.tree) settings counters

end CorpusTally
