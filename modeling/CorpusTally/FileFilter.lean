import CorpusTally.Log
import CorpusTally.Path
import CorpusTally.Text.Quoted
import CorpusTally.Wildcard

/-!
Which files are counted, judged by their paths alone: by the extension, by the directories above, and
by the patterns of the settings.
-/

namespace CorpusTally

namespace FileFilter

def nonTextExtensions : List String := [
  "exe", "dll", "so", "dylib", "bin", "obj", "o", "class", "jar", "png", "jpg", "jpeg", "gif",
  "bmp", "ico", "pdf", "doc", "docx", "xls", "xlsx", "zip", "tar", "gz", "7z", "rar"]

def sameIgnoringCase (a b : String) : Bool :=
  a.toList.map Char.toLower = b.toList.map Char.toLower

def textExtension? (path : Path) : Option String := path.extension?.bind Utf8.decode?

def hasExtensionOf (listed : List String) (path : Path) : Bool :=
  match textExtension? path with
  | some extension => listed.any fun e => sameIgnoringCase e extension
  | none => false

def isBinary (path : Path) : Bool := hasExtensionOf nonTextExtensions path

def passesExtensions (extensions : Option (List String)) (path : Path) : Bool :=
  match extensions with
  | some listed => hasExtensionOf listed path
  | none => true

def normalized (path : Path) : String :=
  String.ofList (path.display.toList.map fun c => if c = '\\' then '/' else c)

def hasInfix (part : List Char) : List Char → Bool
  | [] => part.isEmpty
  | c :: rest => part.isPrefixOf (c :: rest) || hasInfix part rest

def isBuiltInIgnored (text : String) : Bool :=
  hasInfix "/target/".toList text.toList || hasInfix "/.git/".toList text.toList ||
    "target/".toList.isPrefixOf text.toList || ".git/".toList.isPrefixOf text.toList

def skippedEvent (pattern : String) (e : Wildcard.Error) : LogEvent :=
  ⟨.debug, s!"Skipping invalid ignore pattern {Text.quoted pattern}: {e.message}"⟩

def matchesAny (text : String) : List String → Bool × Log
  | [] => (false, [])
  | pattern :: rest =>
    match Wildcard.parse pattern with
    | .ok tokens => if Wildcard.isMatch tokens text then (true, []) else matchesAny text rest
    | .error e =>
      let (found, log) := matchesAny text rest
      (found, skippedEvent pattern e :: log)

def isIgnored (patterns : List String) (path : Path) : Bool × Log :=
  if isBuiltInIgnored (normalized path) then (true, []) else matchesAny (normalized path) patterns

/-- The patterns are looked at only for a file that passes the other tests. -/
def includes (extensions : Option (List String)) (patterns : List String) (path : Path) :
    Bool × Log :=
  if isBinary path || !passesExtensions extensions path then (false, [])
  else
    let (ignored, log) := isIgnored patterns path
    (!ignored, log)

end FileFilter

end CorpusTally
