import CorpusTally.IoError
import CorpusTally.Path

/-!
A tree of files, directories and symbolic links, and a working directory in it. Paths are followed name
by name; what is done to the tree either succeeds or leaves it as it was.
-/

namespace CorpusTally

open Utf8 (Bytes)

abbrev Location := List Bytes

inductive Node where
  | file (content : Bytes)
  | directory
  | link (target : Path)
  deriving DecidableEq

structure FileTree where
  nodes : List (Location × Node) := []
  workDir : Location := []

namespace FileTree

def node? (t : FileTree) (place : Location) : Option Node :=
  if place = [] then some .directory else t.nodes.lookup place

def put (t : FileTree) (place : Location) (node : Node) : FileTree :=
  { t with nodes := (place, node) :: t.nodes.filter (·.1 ≠ place) }

def erase (t : FileTree) (place : Location) : FileTree :=
  { t with nodes := t.nodes.filter (·.1 ≠ place) }

def maxNameBytes : Nat := 255

def maxPathBytes : Nat := 4095

def maxLinks : Nat := 40

def nulByte : IoError := .custom .invalidInput "file name contained an unexpected NUL byte"

def startOf (dir : Location) (p : Path) : Location := if p.isAbsolute then [] else dir

def here : Bytes := [Path.dot]

def up : Bytes := [Path.dot, Path.dot]

def namesOf (p : Path) : List Bytes := (split Path.slash p.bytes).filter (· ≠ [])

def endsInSlash (p : Path) : Bool := p.bytes.getLast? = some Path.slash

/-- The names to follow; behind a trailing slash there has to be a directory. -/
def steps (p : Path) : List Bytes := namesOf p ++ (if endsInSlash p then [here] else [])

/-- Follows names from a directory. The last name need not be there. A link in last place is followed
only if `followLast` says so, and `follow` goes on from the directory of a link with the names that are
left then. -/
def walkNames (t : FileTree) (followLast : Bool)
    (follow : Location → List Bytes → Except IoError Location) (dir : Location) :
    List Bytes → Except IoError Location
  | [] => .ok dir
  | name :: rest =>
    if name = here then walkNames t followLast follow dir rest
    else if name = up then walkNames t followLast follow dir.dropLast rest
    else if name.length > maxNameBytes then .error .nameTooLong
    else
      let place := dir ++ [name]
      match t.node? place with
      | none => if rest = [] then .ok place else .error .notFound
      | some .directory => walkNames t followLast follow place rest
      | some (.file _) => if rest = [] then .ok place else .error .notADirectory
      | some (.link target) =>
        if rest = [] && !followLast then .ok place
        else follow (startOf dir target) (steps target ++ rest)

def walk (t : FileTree) (followLast : Bool) : Nat → Location → List Bytes → Except IoError Location
  | 0 => walkNames t followLast fun _ _ => .error .tooManyLinks
  | links + 1 => walkNames t followLast (walk t followLast links)

def admissible (p : Path) : Except IoError Unit :=
  if p.bytes.contains 0 then .error nulByte
  else if p.bytes = [] then .error .notFound
  else if p.bytes.length > maxPathBytes then .error .nameTooLong
  else .ok ()

def locate (t : FileTree) (followLast : Bool) (p : Path) : Except IoError Location := do
  admissible p
  t.walk followLast maxLinks (startOf t.workDir p) (steps p)

def lookup (t : FileTree) (followLast : Bool) (p : Path) : Except IoError (Location × Node) := do
  let place ← t.locate followLast p
  match t.node? place with
  | some node => return (place, node)
  | none => throw .notFound

def find? (t : FileTree) (p : Path) : Option Node := ((t.lookup true p).toOption).map (·.2)

def isPresent (t : FileTree) (p : Path) : Bool := (t.find? p).isSome

def isFile (t : FileTree) (p : Path) : Bool :=
  match t.find? p with
  | some (.file _) => true
  | _ => false

def isDirectory (t : FileTree) (p : Path) : Bool := t.find? p == some .directory

def read (t : FileTree) (p : Path) : Except IoError Bytes := do
  match (← t.lookup true p).2 with
  | .file content => return content
  | .directory => throw .isADirectory
  | .link _ => throw .notFound

def parentOf (t : FileTree) (p : Path) : Except IoError (Location × Option Bytes) := do
  admissible p
  let names := namesOf p
  let dir ← t.walk true maxLinks (startOf t.workDir p) (names.dropLast ++ [here])
  match names.getLast? with
  | none => return (dir, none)
  | some name =>
    if name = here || name = up then return (dir, none)
    else if name.length > maxNameBytes then throw .nameTooLong
    else return (dir, some name)

/-- Replaces the content of a file, or makes the file. What can fail after the file is there, for want of room or
of the right to write to it, is left out. -/
def writeFile (t : FileTree) (p : Path) (content : Bytes) : Except IoError FileTree := do
  let place ← t.locate true p
  match t.node? place with
  | some .directory => throw .isADirectory
  | _ => return t.put place (.file content)

def makeDirectory (t : FileTree) (p : Path) : Except IoError FileTree := do
  match ← t.parentOf p with
  | (_, none) => throw .alreadyExists
  | (dir, some name) =>
    match t.node? (dir ++ [name]) with
    | some _ => throw .alreadyExists
    | none => return t.put (dir ++ [name]) .directory

/-- Makes a directory and those above it; what is a directory already stays. The tree keeps the
directories that were made before a failure. -/
def makeDirectories (t : FileTree) (p : Path) : Nat → FileTree × Except IoError Unit
  | 0 => (t, .ok ())
  | depth + 1 =>
    if p.bytes = [] then (t, .ok ())
    else
      let settle (t : FileTree) (e : IoError) : FileTree × Except IoError Unit :=
        if t.isDirectory p then (t, .ok ()) else (t, .error e)
      match t.makeDirectory p with
      | .ok made => (made, .ok ())
      | .error e =>
        if e ≠ .notFound then settle t e
        else match p.parent? with
          | none => (t, .error e)
          | some parent =>
            match t.makeDirectories parent depth with
            | (above, .error e) => (above, .error e)
            | (above, .ok ()) =>
              match above.makeDirectory p with
              | .ok made => (made, .ok ())
              | .error e => settle above e

def makeAllDirectories (t : FileTree) (p : Path) : FileTree × Except IoError Unit :=
  t.makeDirectories p (p.components.length + 1)

def rename (t : FileTree) (source target : Path) : Except IoError FileTree := do
  let (sourceDir, sourceName?) ← t.parentOf source
  let (targetDir, targetName?) ← t.parentOf target
  match sourceName?, targetName? with
  | some sourceName, some targetName =>
    match t.node? (sourceDir ++ [sourceName]) with
    | none => throw .notFound
    | some .directory => throw .notADirectory
    | some node =>
      if endsInSlash target then throw .notADirectory
      else match t.node? (targetDir ++ [targetName]) with
        | some .directory => throw .isADirectory
        | _ => return (t.erase (sourceDir ++ [sourceName])).put (targetDir ++ [targetName]) node
  | _, _ => throw .resourceBusy

def makeLink (t : FileTree) (p target : Path) : Except IoError FileTree := do
  match ← t.parentOf p with
  | (_, none) => throw .alreadyExists
  | (dir, some name) => return t.put (dir ++ [name]) (.link target)

def isBelow (place dir : Location) : Bool := dir.isPrefixOf place && place ≠ dir

def remove (t : FileTree) (p : Path) : FileTree :=
  match t.locate false p with
  | .ok place => { t with nodes := t.nodes.filter fun entry => !place.isPrefixOf entry.1 }
  | .error _ => t

def names (t : FileTree) (dir : Location) : List (Bytes × Node) :=
  t.nodes.filterMap fun entry =>
    match entry.1.getLast? with
    | some name => if entry.1.dropLast = dir then some (name, entry.2) else none
    | none => none

def renderPlace (place : Location) : Bytes := joinPieces Path.slash place

def renderAbsolute (place : Location) : Bytes := Path.slash :: renderPlace place

def pathsBelow (t : FileTree) (dir : Location) : List Bytes :=
  t.nodes.filterMap fun entry =>
    if isBelow entry.1 dir then
      let path := renderPlace (entry.1.drop dir.length)
      some (if entry.2 = .directory then path ++ [Path.slash] else path)
    else none

end FileTree

end CorpusTally
