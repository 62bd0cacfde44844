import CorpusTally.Unicode.Alphanumeric
import CorpusTally.Unicode.Blank
import CorpusTally.Unicode.Lowercase

/-!
Tokens of a text: each character is folded to its small letter, everything but letters, digits and
blanks becomes a space, and the runs between blanks are the tokens.
-/

namespace CorpusTally

/-- One character for one character. Where the small form has several, the first of them stands for
all if it is a letter or a digit. -/
def foldCase (c : Char) : Char :=
  match Unicode.lowerChars c with
  | [small] => small
  | first :: _ => if Unicode.isAlphanumeric first then first else c
  | [] => c

def blankOut (c : Char) : Char :=
  if Unicode.isAlphanumeric c || Unicode.isBlank c then c else ' '

def foldText (text : String) : String := String.ofList (text.toList.map foldCase)

def stripText (text : String) : String := String.ofList (text.toList.map blankOut)

/-- The words behind a character: the one it may belong to, and those after the next blank. -/
structure Words where
  first : List Char := []
  later : List String := []

def Words.push (c : Char) (w : Words) : Words :=
  if Unicode.isBlank c then
    match w.first with
    | [] => w
    | _ :: _ => { later := String.ofList w.first :: w.later }
  else { w with first := c :: w.first }

def Words.toList (w : Words) : List String :=
  match w.first with
  | [] => w.later
  | _ :: _ => String.ofList w.first :: w.later

def splitBlanks (text : String) : List String := (text.toList.foldr Words.push {}).toList

def tokens (text : String) : List String := splitBlanks (stripText (foldText text))

end CorpusTally
