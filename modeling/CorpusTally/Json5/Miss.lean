/-!
How far the reading of a JSON5 text has come, and what it has missed there. Where no way of reading the
text succeeds, the furthest place that one of them has come to is shown with its line.
-/

namespace CorpusTally.Json5

/-- What can be missed, in the order in which it is listed. -/
inductive Part where
  | endOfText
  | array
  | boolean
  | charEscape
  | charLiteral
  | hexEscape
  | identifier
  | nulEscape
  | null
  | number
  | object
  | string
  | unicodeEscape
  deriving DecidableEq

namespace Part

def all : List Part := [
  endOfText, array, boolean, charEscape, charLiteral, hexEscape, identifier, nulEscape, null, number,
  object, string, unicodeEscape]

def name : Part → String
  | endOfText => "EOI"
  | array => "array"
  | boolean => "boolean"
  | charEscape => "char_escape_sequence"
  | charLiteral => "char_literal"
  | hexEscape => "hex_escape_sequence"
  | identifier => "identifier"
  | nulEscape => "nul_escape_sequence"
  | null => "null"
  | number => "number"
  | object => "object"
  | string => "string"
  | unicodeEscape => "unicode_escape_sequence"

end Part

structure Input where
  offset : Nat := 0
  rest : List Char

namespace Input

def skip (at_ : Input) (n : Nat) : Input := ⟨at_.offset + n, at_.rest.drop n⟩

def startsWith (at_ : Input) (text : String) : Bool := text.toList.isPrefixOf at_.rest

end Input

/-- The furthest place at which a part is missed, and the parts that are missed there. -/
structure Misses where
  offset : Nat := 0
  parts : List Part := []

def Misses.add (m : Misses) (part : Part) (offset : Nat) : Misses :=
  if offset > m.offset then ⟨offset, [part]⟩
  else if offset = m.offset then { m with parts := part :: m.parts }
  else m

theorem Misses.offset_le_add (m : Misses) (part : Part) (offset : Nat) :
    m.offset ≤ (m.add part offset).offset := by
  unfold Misses.add
  split
  · exact Nat.le_of_lt ‹_›
  · split <;> simp

/-- The line of the last one of some characters, and how many of them are in it, from one on. A carriage
return in front of a line feed belongs to it, and alone it ends no line. -/
def placeFrom (line column : Nat) : List Char → Nat × Nat
  | [] => (line, column)
  | '\r' :: '\n' :: rest | '\n' :: rest => placeFrom (line + 1) 1 rest
  | _ :: rest => placeFrom line (column + 1) rest

def lineAround (cs : List Char) (offset : Nat) : List Char :=
  let before := ((cs.take offset).reverse.takeWhile (· ≠ '\n')).reverse
  let after := cs.drop offset
  before ++ after.takeWhile (· ≠ '\n') ++ (if after.contains '\n' then ['\n'] else [])

def isLineEnd (c : Char) : Bool := c = '\n' || c = '\r'

def showLine (cs : List Char) (offset : Nat) : List Char :=
  let line := lineAround cs offset
  if (cs.drop offset).head?.any isLineEnd then
    line.map fun c => if c = '\n' then '\u240A' else if c = '\r' then '\u240D' else c
  else line.filter fun c => !isLineEnd c

def listed : List String → String
  | [] => ""
  | [a] => a
  | [a, b] => a ++ " or " ++ b
  | names => ", ".intercalate names.dropLast ++ ", or " ++ names.getLastD ""

structure Picture where
  line : Nat
  column : Nat
  text : List Char
  missed : List Part

namespace Picture

def ofMisses (cs : List Char) (m : Misses) : Picture :=
  let (line, column) := placeFrom 1 1 (cs.take m.offset)
  ⟨line, column, showLine cs m.offset, Part.all.filter m.parts.contains⟩

def message (p : Picture) : String :=
  let number := toString p.line
  let margin := String.ofList (List.replicate number.length ' ')
  let padding := (p.text.take (p.column - 1)).map fun c => if c = '\t' then '\t' else ' '
  "\n".intercalate [
    margin ++ s!"--> {p.line}:{p.column}",
    margin ++ " |",
    number ++ " | " ++ String.ofList p.text,
    margin ++ " | " ++ String.ofList padding ++ "^---",
    margin ++ " |",
    margin ++ " = expected " ++ listed (p.missed.map Part.name)]

end Picture

end CorpusTally.Json5
