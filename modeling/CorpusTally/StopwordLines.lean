import CorpusTally.StopwordSet

/-!
Reading a list of stopwords as its bytes come in, line by line. Each line is decoded by itself, and the first
one that is no text ends the reading.
-/

namespace CorpusTally

namespace Utf8

def newline : UInt8 := 0x0a

end Utf8

def decodeLine (bytes : Utf8.Bytes) : Except IoError String :=
  match Utf8.decode? bytes with
  | none => .error .notText
  | some line => .ok line

def dropReturn (line : String) : String :=
  if line.toList.getLast? = some '\r' then String.ofList line.toList.dropLast else line

/-- The lines of pieces that newlines part. What follows the last newline is a line only if there is anything. -/
def readPieces : List Utf8.Bytes → Except IoError (List String)
  | [] => .ok []
  | [rest] => if rest = [] then .ok [] else (decodeLine rest).map ([·])
  | ended :: later => do
    let line ← decodeLine ended
    let others ← readPieces later
    return dropReturn line :: others

def readLines (bytes : Utf8.Bytes) : Except IoError (List String) := readPieces (split Utf8.newline bytes)

def StopwordSet.ofReader (bytes : Utf8.Bytes) : Except IoError StopwordSet :=
  (readLines bytes).map StopwordSet.ofWords

end CorpusTally
