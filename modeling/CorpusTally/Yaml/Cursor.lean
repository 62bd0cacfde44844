/-!
A place in a text: what is left of it, and where that is. Only a line feed begins a new line for the
count of lines and columns; a text ends at its first NUL.
-/

namespace CorpusTally.Yaml

/-- Lines are counted from one, characters and columns from zero. -/
structure Mark where
  index : Nat := 0
  line : Nat := 1
  column : Nat := 0
  deriving DecidableEq

def Mark.after (m : Mark) (c : Char) : Mark :=
  if c = '\n' then ⟨m.index + 1, m.line + 1, 0⟩ else ⟨m.index + 1, m.line, m.column + 1⟩

def Mark.atLineStart (m : Mark) : Mark :=
  if m.column = 0 then m else ⟨m.index, m.line + 1, 0⟩

structure Cursor where
  mark : Mark
  rest : List Char

def isBlank (c : Char) : Bool := c = ' ' || c = '\t'

def isBreak (c : Char) : Bool := c = '\n' || c = '\r'

def isNameChar (c : Char) : Bool := c.isAlphanum || c = '_' || c = '-'

def isFlowSign (c : Char) : Bool := c = ',' || c = '[' || c = ']' || c = '\x7b' || c = '\x7d'

def startsBlank : List Char → Bool
  | [] => true
  | c :: _ => isBlank c || isBreak c

def startsBreak : List Char → Bool
  | [] => true
  | c :: _ => isBreak c

def isTriple (sign : Char) : List Char → Bool
  | a :: b :: c :: rest => a = sign && b = sign && c = sign && startsBlank rest
  | _ => false

def breakLength : List Char → Nat
  | '\r' :: '\n' :: _ => 2
  | c :: _ => if isBreak c then 1 else 0
  | [] => 0

def advanceWhile (p : Char → Bool) : Mark → List Char → Cursor
  | mark, [] => ⟨mark, []⟩
  | mark, c :: rest => if p c then advanceWhile p (mark.after c) rest else ⟨mark, c :: rest⟩

def advance : Nat → Mark → List Char → Cursor
  | n + 1, mark, c :: rest => advance n (mark.after c) rest
  | _, mark, rest => ⟨mark, rest⟩

namespace Cursor

def ofString (text : String) : Cursor := ⟨{}, text.toList.takeWhile (· ≠ '\x00')⟩

def next? (c : Cursor) : Option Char := c.rest.head?

def isAtEnd (c : Cursor) : Bool := c.rest.isEmpty

def skip (c : Cursor) (n : Nat) : Cursor := advance n c.mark c.rest

def skipWhile (c : Cursor) (p : Char → Bool) : Cursor := advanceWhile p c.mark c.rest

def skipBreak (c : Cursor) : Cursor := c.skip (breakLength c.rest)

def skipBlanks (c : Cursor) : Cursor := c.skipWhile isBlank

def skipLine (c : Cursor) : Cursor := c.skipWhile fun x => !isBreak x

def skipComment (c : Cursor) : Cursor := if c.next? = some '#' then c.skipLine else c

def isAtDivider (c : Cursor) : Bool :=
  c.mark.column = 0 && (isTriple '-' c.rest || isTriple '.' c.rest)

end Cursor

end CorpusTally.Yaml
