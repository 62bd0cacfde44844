import CorpusTally.IgnoreFile.Glob
import CorpusTally.Split
import CorpusTally.Unicode.Blank

/-!
The rules of an ignore file, one a line, and what they say about a path below the directory of the file.
Of the rules that match the last one counts.
-/

namespace CorpusTally.IgnoreFile

open Utf8 (Bytes)

inductive Verdict where
  | ignored
  | kept
  deriving DecidableEq

structure Rule where
  pattern : List Glob.Token
  verdict : Verdict
  directoriesOnly : Bool

namespace Rule

def endsWith (cs ending : List Char) : Bool := ending.reverse.isPrefixOf cs.reverse

def trimEnd (cs : List Char) : List Char :=
  if endsWith cs ['\\', ' '] then cs else (cs.reverse.dropWhile Unicode.isBlank).reverse

/-- A pattern without a slash may match in every directory. -/
def anchor (absolute : Bool) (cs : List Char) : List Char :=
  if absolute || cs.contains '/' || cs = "**".toList then cs else "**/".toList ++ cs

/-- Two stars at the end mean what is in the directory, and not the directory itself. -/
def insideOnly (cs : List Char) : List Char :=
  if endsWith cs "/**".toList then cs ++ "/*".toList else cs

/-- Without the slash at the end; a backslash in front of it goes as well. -/
def dropSlash (cs : List Char) : List Char :=
  if endsWith cs ['\\', '/'] then cs.dropLast.dropLast else cs.dropLast

def ofPattern? (verdict : Verdict) (absolute : Bool) (cs : List Char) : Option Rule :=
  let directoriesOnly := endsWith cs ['/']
  let body := if directoriesOnly then dropSlash cs else cs
  (Glob.parse? (String.ofList (insideOnly (anchor absolute body)))).map fun tokens =>
    ⟨tokens, verdict, directoriesOnly⟩

def ofLine? (line : String) : Option Rule :=
  if line.toList.head? = some '#' then none
  else match trimEnd line.toList with
    | [] => none
    | '\\' :: '!' :: rest => ofPattern? .ignored false ('!' :: rest)
    | '\\' :: '#' :: rest => ofPattern? .ignored false ('#' :: rest)
    | '!' :: '/' :: rest => ofPattern? .kept true rest
    | '!' :: rest => ofPattern? .kept false rest
    | '/' :: rest => ofPattern? .ignored true rest
    | cs => ofPattern? .ignored false cs

def isMatch (r : Rule) (path : Bytes) (isDirectory : Bool) : Bool :=
  (isDirectory || !r.directoriesOnly) && Glob.isMatch r.pattern path

end Rule

abbrev Rules := List Rule

namespace Rules

def newlineByte : UInt8 := 10

def dropReturn (line : Bytes) : Bytes := if line.getLast? = some 13 then line.dropLast else line

/-- The lines without their ends. A carriage return belongs to the end only in front of a line break. -/
def lines (bytes : Bytes) : List Bytes :=
  let pieces := split newlineByte bytes
  pieces.dropLast.map dropReturn ++ pieces.getLast?.toList

def readableLines (bytes : Bytes) : List String :=
  (((lines bytes).map Utf8.decode?).takeWhile Option.isSome).filterMap id

def dropMarks (text : String) : String :=
  String.ofList (text.toList.dropWhile (· = '\uFEFF'))

def ofBytes (bytes : Bytes) : Rules :=
  match readableLines bytes with
  | [] => []
  | first :: rest => (dropMarks first :: rest).filterMap Rule.ofLine?

def verdict? (rules : Rules) (path : Bytes) (isDirectory : Bool) : Option Verdict :=
  (rules.reverse.find? fun r => r.isMatch path isDirectory).map (·.verdict)

end Rules

end CorpusTally.IgnoreFile
