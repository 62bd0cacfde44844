import CorpusTally.Settings.Fields
import CorpusTally.Settings.Format
import CorpusTally.Settings.KeyPath
import CorpusTally.Surroundings

/-!
The settings files of a run: one in the home directory, one in the working directory, and one that is
asked for. They are laid over each other in this order, and over the defaults.
-/

namespace CorpusTally.Settings

inductive LayerError where
  | missing (file : Path)
  | unknownFormat (place : Path)
  | notFound (file : Path)
  | notText
  | unreadable (cause : IoError)
  | malformed (cause : FormatError) (file : String)
  | entry (cause : EntryError)

def LayerError.message : LayerError → String
  | .missing file => s!"config file not found: {file.display}"
  | .unknownFormat place =>
    s!"configuration file \"{place.display}\" is not of a registered file format"
  | .notFound file => s!"configuration file \"{file.display}\" not found"
  | .notText => "stream did not contain valid UTF-8"
  | .unreadable cause => cause.message
  | .malformed cause file => s!"{cause.message} in {file}"
  | .entry cause => cause.message

def workPlace (s : Surroundings) : Path := ⟨FileTree.renderAbsolute s.tree.workDir⟩

structure Source where
  place : Path
  format : Format

def withExtension (p : Path) (extension : String) : Path :=
  match p.fileName? with
  | some name => p.withFileName (name ++ Path.dot :: Utf8.encode extension)
  | none => p

/-- The file of a path; where there is none, one whose name goes on with an ending of a format. -/
def Source.find (s : Surroundings) (file : Path) : Except LayerError Source :=
  let place := (workPlace s).join file
  if s.tree.isFile place then
    match Format.ofExtension? (place.extension?.getD []) with
    | some format => .ok ⟨place, format⟩
    | none => .error (.unknownFormat place)
  else
    let candidates := Format.extensions.map fun (extension, format) =>
      Source.mk (withExtension place extension) format
    match candidates.find? fun source => s.tree.isFile source.place with
    | some source => .ok source
    | none => .error (.notFound file)

def dropShared : List Component → List Component → List Component × List Component
  | a :: as, b :: bs => if a = b then dropShared as bs else (a :: as, b :: bs)
  | as, bs => (as, bs)

def wayTo (directory place : Path) : Path :=
  let (down, up) := dropShared place.components directory.components
  .ofComponents (up.map (fun _ => .parent) ++ down)

def Source.fields (s : Surroundings) (source : Source) :
    Except LayerError (List (String × Entry)) := do
  let origin := (wayTo (workPlace s) source.place).display
  let bytes ← (s.tree.read source.place).mapError .unreadable
  match Utf8.decode? bytes with
  | none => throw .notText
  | some text => (source.format.read origin text).mapError (.malformed · origin)

def files (s : Surroundings) (asked : Option Path) : List Path :=
  let known := [s.configFile "wordscout/config.yaml", .ofString ".wordscout.yaml"]
  (known ++ asked.toList).filter s.tree.isPresent

/-- Lays the files over each other, until one of them cannot be read. -/
def layers (s : Surroundings) (asked : Option Path) : Except Crash (Except LayerError Entry) :=
  (files s asked).foldlM (fun (below : Except LayerError Entry) file =>
    match below with
    | .error e => .ok (.error e)
    | .ok table =>
      match Source.find s file >>= Source.fields s with
      | .error e => .ok (.error e)
      | .ok fields => (table.addLayer fields).map .ok) (.ok .emptyTable)

def load (s : Surroundings) (asked : Option Path) : Except Crash (Except CorpusError Settings) :=
  let failed (e : LayerError) : Except CorpusError Settings := .error (.config e.message)
  match asked.filter fun file => !s.tree.isPresent file with
  | some file => .ok (failed (.missing file))
  | none => (layers s asked).map fun
    | .error e => failed e
    | .ok table =>
      match ofEntry table with
      | .error e => failed (.entry e)
      | .ok settings => .ok settings

end CorpusTally.Settings
