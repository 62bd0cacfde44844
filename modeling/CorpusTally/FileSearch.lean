import CorpusTally.CorpusError
import CorpusTally.FileFilter
import CorpusTally.IgnoreFile.Layers
import CorpusTally.Settings

/-!
The files of a run: all those below the root that are not passed over on the way, and that the filters
let through, in the order of their paths.
-/

namespace CorpusTally

open Utf8 (Bytes)

namespace FileSearch

/-- Neither the entry with these names below the root nor a directory on the way to it is passed over. -/
def isReached (s : Surroundings) (w : IgnoreFile.Walk) (names : List Bytes) : Bool :=
  (List.range names.length).all fun n =>
    let way := names.take (n + 1)
    let isDirectory := s.tree.node? (w.place ++ way) == some .directory
    !IgnoreFile.isPassedOver s w way isDirectory

def filesBelow (t : FileTree) (place : Location) : List (List Bytes) :=
  t.nodes.filterMap fun entry =>
    match entry.2 with
    | .file _ => if FileTree.isBelow entry.1 place then some (entry.1.drop place.length) else none
    | _ => none

/-- A root of this name stands for the input of the program, and no file is below it. -/
def inputName : Path := .ofString "-"

/-- The files that are visited from a root, each by its way from the root. A root that is a file has
the empty way. -/
def visited (s : Surroundings) (root : Path) : List (List Bytes) :=
  if root.same inputName then []
  else match s.tree.lookup true root with
    | .ok (_, .file _) => [[]]
    | .ok (place, .directory) => (filesBelow s.tree place).filter (isReached s ⟨root, place⟩)
    | _ => []

def wayPath (way : List Bytes) : Path := ⟨joinPieces Path.slash way⟩

def select (settings : Settings) : List (List Bytes) → List (List Bytes) × Log
  | [] => ([], [])
  | way :: rest =>
    let (included, events) :=
      FileFilter.includes settings.fileExtensions settings.ignorePatterns (wayPath way)
    let (ways, log) := select settings rest
    (if included then way :: ways else ways, events ++ log)

def missingRoot (root : Path) : CorpusError :=
  .config s!"root path does not exist: {root.display}"

def foundEvent (root : Path) (files : Nat) : LogEvent :=
  ⟨.debug, s!"Found {files} files under {root.display}"⟩

def files (s : Surroundings) (settings : Settings) : Except CorpusError (List Path × Log) :=
  let root := settings.rootPath
  if s.tree.isPresent root then
    let ordered := (visited s root).mergeSort fun a b => (wayPath a).le (wayPath b)
    let (ways, log) := select settings ordered
    let paths := (ways.map root.extend).mergeSort Path.le
    .ok (paths, log ++ [foundEvent root paths.length])
  else .error (missingRoot root)

end FileSearch

end CorpusTally
