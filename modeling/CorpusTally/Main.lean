import CorpusTally.CommandLine.Program

/-!
The program. The part of the file system that a run may look at is copied into a tree, the command runs
on the copy, and what it changed there is written back.
-/

namespace CorpusTally.Disk

open Utf8 (Bytes)

def textOf (place : Location) : String := Utf8.decodeLossy (FileTree.renderAbsolute place)

def placeOf (text : String) : Location := FileTree.namesOf (.ofString text)

def above (place : Location) : List Location :=
  ((List.range place.length).map fun n => place.take n).drop 1

def withDirectories (t : FileTree) (places : List Location) : FileTree :=
  places.foldl (fun t place => if t.node? place = none then t.put place .directory else t) t

/-- Copies what is at a place, with all that is below it. What cannot be read is left out. -/
partial def copy (t : FileTree) (place : Location) : IO FileTree := do
  let path := (← IO.currentDir) / textOf place
  let .ok info ← path.symlinkMetadata.toBaseIO | return t
  match info.type with
  | .file =>
    let .ok content ← (IO.FS.readBinFile path).toBaseIO | return t
    return t.put place (.file content.toList)
  | .symlink =>
    let .ok target ← (IO.FS.realPath path).toBaseIO | return t
    return t.put place (.link (.ofString target.toString))
  | .dir =>
    let mut t := t.put place .directory
    for entry in (← path.readDir) do
      t ← copy t (place ++ [Utf8.encode entry.fileName])
    return t
  | .other => return t

def ignoreFiles (place : Location) : List Location :=
  let names : List (List String) :=
    [[".ignore"], [".gitignore"], [".git", "info", "exclude"], [".jj", "repo"]]
  (place :: above place).flatMap fun dir => names.map fun name => dir ++ name.map Utf8.encode

def copyAll (t : FileTree) (places : List Location) : IO FileTree :=
  places.foldlM (fun t place => do
    let path := (← IO.currentDir) / textOf place
    if (← path.pathExists) then copy (withDirectories t (above place)) place else return t) t

/-- Copies what a path leads to. Where links stand on the way, the path itself becomes one. -/
def copyPath (t : FileTree) (p : Path) : IO FileTree := do
  let full := (← IO.currentDir) / p.display
  let .ok real ← (IO.FS.realPath full).toBaseIO | return t
  let place := placeOf real.toString
  let t ← copyAll t (place :: ignoreFiles place)
  let named := placeOf full.toString
  if t.isPresent p then return t
  else return (withDirectories t (above named)).put named (.link (.ofString real.toString))

def writeBack (old new : FileTree) : IO Unit :=
  new.nodes.forM fun (place, node) => do
    if old.node? place = some node then return
    match node with
    | .directory => IO.FS.createDirAll (textOf place)
    | .file content =>
      if let some (.link _) := old.node? place then IO.FS.removeFile (textOf place)
      IO.FS.createDirAll (textOf place.dropLast)
      IO.FS.writeBinFile (textOf place) ⟨content.toArray⟩
    | .link _ => return

def settingsPaths (s : Surroundings) (asked : Option Path) : List Path :=
  let endings := Settings.Format.extensions.map (·.1)
  let candidates := asked.toList.flatMap fun p =>
    p :: endings.map (Settings.withExtension p)
  [s.configDirectory, s.gitDirectory, s.home.directory.join (.ofString ".gitconfig"),
    .ofString ".wordscout.yaml"] ++ candidates

/-- The files that a run with some settings reads, and the place that its report goes to. -/
def runPaths (settings : Settings) : List Path :=
  let target := settings.outputPath.toList.flatMap fun p =>
    [p, Report.temporaryPath p] ++ p.parent?.toList
  settings.rootPath :: settings.stopwordsPath.toList ++ target

def addPaths (s : Surroundings) (paths : List Path) : IO Surroundings := do
  return { s with tree := (← paths.foldlM copyPath s.tree) }

def surroundingsFor (start : Surroundings) (arguments : List String) : IO Surroundings := do
  match CommandLine.read arguments with
  | .ok (.analyze options) =>
    let s ← addPaths start (settingsPaths start options.config)
    match CommandLine.settingsOf s options with
    | .ok (.ok settings) => addPaths s (runPaths settings)
    | _ => return s
  | _ => return start

end CorpusTally.Disk

open CorpusTally

def main (arguments : List String) : IO UInt32 := do
  let workDir := Disk.placeOf (← IO.FS.realPath (← IO.currentDir)).toString
  let bare := Disk.withDirectories { workDir } (Disk.above workDir ++ [workDir])
  let home : Home := {
    directory := .ofString ((← IO.getEnv "HOME").getD "/")
    config? := (← IO.getEnv "XDG_CONFIG_HOME").map .ofString }
  let s ← Disk.surroundingsFor ⟨bare, home⟩ arguments
  let outcome := CommandLine.run s arguments
  Disk.writeBack s.tree outcome.tree
  IO.print outcome.output
  IO.eprint outcome.errors
  return outcome.status.toUInt32
