import CorpusTally.Tally
import CorpusTally.Json.Typed
import CorpusTally.Path

/-!
The words of one file under the file's base name, as text for a reader and as JSON.
-/

namespace CorpusTally

structure FileTally where
  fileName : String
  words : List WordCount
  deriving DecidableEq

namespace FileTally

/-- The last name of a path; all of a path that ends in none. -/
def displayName (path : Path) : String :=
  match path.fileName? with
  | some name => Utf8.decodeLossy name
  | none => path.display

def ofCounts (path : Path) (counts : Tally) : FileTally :=
  ⟨displayName path, WordCount.sort counts.toWordCounts⟩

def orderedWords (r : FileTally) : List WordCount := WordCount.sort r.words

def total (r : FileTally) : Except Crash UInt64 := checkedSum (r.words.map (·.count))

def wordLine (w : WordCount) : String := s!"\t{w.word}: {w.count}\n"

def display (r : FileTally) : String :=
  s!"{r.fileName}:\n" ++ String.join (r.orderedWords.map wordLine)

end FileTally

namespace WordCount

open Json

def toJson (w : WordCount) : Value :=
  .object [("word", .string w.word), ("count", .number (.unsigned w.count))]

def expectedFields : String := "struct WordCount with 2 elements"

structure Partial where
  word? : Option String := none
  count? : Option UInt64 := none

def readMember (p : Partial) (name : String) (cs : List Char) : Reading Partial :=
  if name = "word" then
    (readOnce name p.word? readText cs).map fun found => ({ p with word? := found.1 }, found.2)
  else if name = "count" then
    (readOnce name p.count? readCount cs).map fun found => ({ p with count? := found.1 }, found.2)
  else passField p cs

def readObject (cs : List Char) : Except Fault (WordCount × List Char) := do
  let (p, cs) ← Json.readObject readMember {} cs
  let word ← required "word" p.word? cs
  let count ← required "count" p.count? cs
  return (⟨word, count⟩, cs)

def readList (cs : List Char) : Except Fault (WordCount × List Char) := do
  let (word, cs) ← readField expectedFields 0 readText cs
  let (count, cs) ← readField expectedFields 1 readCount cs
  return (⟨word, count⟩, cs)

def read (cs : List Char) : Reading WordCount := readStruct "WordCount" readObject readList cs

end WordCount

namespace FileTally

open Json

def toJson (r : FileTally) : Value :=
  .object [("file_name", .string r.fileName), ("words", .array (r.words.map WordCount.toJson))]

def expectedFields : String := "struct FileResult with 2 elements"

def readWords (cs : List Char) : Reading (List WordCount) := readSequence WordCount.read cs

structure Partial where
  fileName? : Option String := none
  words? : Option (List WordCount) := none

def readMember (p : Partial) (name : String) (cs : List Char) : Reading Partial :=
  if name = "file_name" then
    (readOnce name p.fileName? readText cs).map fun found =>
      ({ p with fileName? := found.1 }, found.2)
  else if name = "words" then
    (readOnce name p.words? readWords cs).map fun found => ({ p with words? := found.1 }, found.2)
  else passField p cs

def readObject (cs : List Char) : Except Fault (FileTally × List Char) := do
  let (p, cs) ← Json.readObject readMember {} cs
  let fileName ← required "file_name" p.fileName? cs
  let words ← required "words" p.words? cs
  return (⟨fileName, words⟩, cs)

def readList (cs : List Char) : Except Fault (FileTally × List Char) := do
  let (fileName, cs) ← readField expectedFields 0 readText cs
  let (words, cs) ← readField expectedFields 1 readWords cs
  return (⟨fileName, words⟩, cs)

def read (cs : List Char) : Reading FileTally := readStruct "FileResult" readObject readList cs

def parseAll (text : String) : Except Json.Error (List FileTally) :=
  readAll (readSequence read) text

def renderAll (results : List FileTally) : String := (Value.array (results.map toJson)).pretty

end FileTally

end CorpusTally
