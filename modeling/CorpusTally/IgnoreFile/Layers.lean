import CorpusTally.IgnoreFile.Rules
import CorpusTally.Surroundings

/-!
Which entries of a tree are passed over. The ignore files of all directories above an entry are asked,
the nearest first; those that belong to a repository only up to the repository's top. What no rule speaks
of is passed over when its name begins with a dot.
-/

namespace CorpusTally.IgnoreFile

open Utf8 (Bytes)

structure Layer where
  general : Rules
  repository : Rules
  exclude : Rules
  isRepositoryTop : Bool

namespace Layer

def pathIn (dir : Location) (name : String) : Path :=
  (⟨FileTree.renderAbsolute dir⟩ : Path).join (.ofString name)

def rulesAt (t : FileTree) (p : Path) : Rules :=
  match t.read p with
  | .ok bytes => Rules.ofBytes bytes
  | .error _ => []

def firstLine? (t : FileTree) (p : Path) : Option String :=
  match t.read p with
  | .ok bytes => if bytes = [] then none else (Rules.readableLines bytes).head?
  | .error _ => none

/-- Where a repository keeps its own data; a file in place of the directory points there. -/
def repositoryData? (t : FileTree) (dir : Location) : Option Path :=
  let place := pathIn dir ".git"
  if t.isFile place then
    (firstLine? t place).bind fun line =>
      if "gitdir: ".toList.isPrefixOf line.toList then
        let real : Path := .ofString (String.ofList (line.toList.drop 8))
        (firstLine? t (real.join (.ofString "commondir"))).map fun common =>
          if common.toList.head? = some '.' then real.join (.ofString common) else .ofString common
      else none
  else some place

def ofDirectory (t : FileTree) (dir : Location) : Layer :=
  { general := rulesAt t (pathIn dir ".ignore")
    repository := rulesAt t (pathIn dir ".gitignore")
    exclude :=
      match repositoryData? t dir with
      | some place => rulesAt t (place.join (.ofString "info/exclude"))
      | none => []
    isRepositoryTop := t.isPresent (pathIn dir ".git") || t.isPresent (pathIn dir ".jj") }

end Layer

def isSpace (b : UInt8) : Bool := b = 32 || (9 ≤ b && b ≤ 13)

def dropSpace (bytes : Bytes) : Bytes := bytes.dropWhile isSpace

def lowerByte (b : UInt8) : UInt8 := if 65 ≤ b && b ≤ 90 then b + 32 else b

def lineEnd : UInt8 := 10

def quoteByte : UInt8 := 34

def endsLine (bytes : Bytes) : Bool :=
  let blanks := bytes.takeWhile isSpace
  blanks.contains lineEnd || blanks.length = bytes.length

def lastWord? (bytes : Bytes) : Option Bytes :=
  let word := bytes.takeWhile fun b => !isSpace b
  let rest := bytes.drop word.length
  let closed := dropSpace rest
  if word = [] then none
  else if word.length > 1 && word.getLast? = some quoteByte && endsLine rest then
    some word.dropLast
  else if endsLine rest || (closed.head? = some quoteByte && endsLine (closed.drop 1)) then
    some word
  else none

def excludesValue? (bytes : Bytes) : Option Bytes :=
  let plain := lastWord? bytes
  match bytes with
  | b :: rest => if b = quoteByte then (lastWord? (dropSpace rest)).or plain else plain
  | [] => plain

def excludesKey : Bytes := Utf8.encode "excludesfile"

/-- The name of the common ignore file, if a text sets it where it begins. The equals sign and the name
may stand in later lines. -/
def excludesFile? (bytes : Bytes) : Option Bytes :=
  let body := dropSpace bytes
  if excludesKey.isPrefixOf (body.map lowerByte) then
    match dropSpace (body.drop excludesKey.length) with
    | b :: value => if b = 61 then excludesValue? (dropSpace value) else none
    | [] => none
  else none

def lineStarts (bytes : Bytes) : List Bytes :=
  let rec behindBreaks : Bytes → List Bytes
    | [] => []
    | b :: rest => if b = lineEnd then rest :: behindBreaks rest else behindBreaks rest
  bytes :: behindBreaks bytes

def expandHome (home : Path) (cs : List Char) : Path :=
  ⟨cs.flatMap fun c => if c = '~' then home.bytes else String.utf8EncodeChar c⟩

def configuredExcludes? (s : Surroundings) (p : Path) : Option Path :=
  match s.tree.read p with
  | .ok bytes =>
    ((lineStarts bytes).findSome? excludesFile?).bind fun name =>
      (Utf8.decode? name).map fun text => expandHome s.home.directory text.toList
  | .error _ => none

def commonFile (s : Surroundings) : Path :=
  match configuredExcludes? s (s.home.directory.join (.ofString ".gitconfig")) with
  | some p => p
  | none =>
    match configuredExcludes? s (s.gitFile "config") with
    | some p => p
    | none => s.gitFile "ignore"

def commonRules (s : Surroundings) : Rules :=
  if s.tree.isFile (commonFile s) then Layer.rulesAt s.tree (commonFile s) else []

/-- A walk through the entries below a root, and where the root really lies. -/
structure Walk where
  root : Path
  place : Location

def Walk.path (w : Walk) (names : List Bytes) : Path := w.root.extend names

def dropDot (path : Bytes) : Bytes :=
  if [Path.dot, Path.slash].isPrefixOf path then path.drop 2 else path

def isDot (path : Bytes) : Bool := (⟨path⟩ : Path).same (.ofString ".")

def dropBase (base path : Bytes) : Bytes :=
  if base.isPrefixOf path then
    let rest := path.drop base.length
    if rest.head? = some Path.slash then rest.drop 1 else rest
  else path

/-- A path as the rules of a directory see it. The directory is taken off as it is written, and never off
a bare name. -/
def viewFrom (directory path : Bytes) : Bytes :=
  let base := dropDot directory
  let bare := dropDot path
  if isDot base || !bare.contains Path.slash then bare else dropBase base bare

/-- The directories from the root to an entry, the nearest first, with the entry as each sees it. -/
def layersBelow (t : FileTree) (w : Walk) (names : List Bytes) : List (Layer × Bytes) :=
  let bare := dropDot (w.path names).bytes
  (List.range names.length).reverse.map fun n =>
    let way := names.take n
    (Layer.ofDirectory t (w.place ++ way), viewFrom (w.path way).bytes bare)

def layersAbove (t : FileTree) (w : Walk) (names : List Bytes) : List (Layer × Bytes) :=
  let bare := dropDot (w.path names).bytes
  let way := if isDot w.root.bytes then bare else dropBase (dropDot w.root.bytes) bare
  let absolute := ((⟨FileTree.renderAbsolute w.place⟩ : Path).join ⟨way⟩).bytes
  (List.range w.place.length).reverse.map fun n =>
    let above := w.place.take n
    (Layer.ofDirectory t above, viewFrom (FileTree.renderAbsolute above) absolute)

def firstVerdict? (layers : List (Layer × Bytes)) (rules : Layer → Rules) (isDirectory : Bool) :
    Option Verdict :=
  layers.findSome? fun layer => (rules layer.1).verdict? layer.2 isDirectory

def withinRepository : List (Layer × Bytes) → List (Layer × Bytes)
  | [] => []
  | layer :: rest => if layer.1.isRepositoryTop then [layer] else layer :: withinRepository rest

def verdict? (s : Surroundings) (w : Walk) (names : List Bytes) (isDirectory : Bool) :
    Option Verdict :=
  let layers := layersBelow s.tree w names ++ layersAbove s.tree w names
  let general := firstVerdict? layers Layer.general isDirectory
  if layers.any fun layer => layer.1.isRepositoryTop then
    let near := withinRepository layers
    let bare := dropDot (w.path names).bytes
    let common := viewFrom (FileTree.renderAbsolute s.tree.workDir) bare
    general
      |>.or (firstVerdict? near Layer.repository isDirectory)
      |>.or (firstVerdict? near Layer.exclude isDirectory)
      |>.or ((commonRules s).verdict? common isDirectory)
  else general

def isHidden (names : List Bytes) : Bool :=
  match names.getLast? with
  | some name => name.head? = some Path.dot
  | none => false

def isPassedOver (s : Surroundings) (w : Walk) (names : List Bytes) (isDirectory : Bool) : Bool :=
  match verdict? s w names isDirectory with
  | some verdict => verdict = .ignored
  | none => isHidden names

end CorpusTally.IgnoreFile
