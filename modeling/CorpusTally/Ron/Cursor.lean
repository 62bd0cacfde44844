import CorpusTally.Text.Quoted
import CorpusTally.Utf8

/-!
Places in a RON text, and what can be wrong there. The text is read byte by byte; a byte is written as the
character of its number, and columns count bytes.
-/

namespace CorpusTally.Ron

inductive EscapeFault where
  | openingBrace
  | digit
  | noDigits
  | closingBrace
  | code
  | unknown

def EscapeFault.message : EscapeFault → String
  | openingBrace => "Missing \x7b"
  | digit => "Non-hex digit found"
  | noDigits => "Expected 1-6 digits, got 0 digits"
  | closingBrace => "No \x7d at the end"
  | code => "Not a valid char"
  | unknown => "Unknown escape character"

inductive Cause where
  | endOfText
  | missingAttribute
  | missingAttributeEnd
  | missingComma
  | missingChar
  | missingFloat
  | missingOption
  | missingOptionEnd
  | missingColon
  | missingIdentifier
  | missingText
  | missingTextEnd
  | escape (fault : EscapeFault)
  | unknownExtension (name : String)
  | unclosedComment
  | unexpected (byte : Char)
  | moreText

def Cause.message : Cause → String
  | endOfText => "Unexpected end of RON"
  | missingAttribute => "Expected an enable attribute"
  | missingAttributeEnd => "Expected closing \x60)\x60 and \x60]\x60 after the attribute"
  | missingComma => "Expected comma"
  | missingChar => "Expected char"
  | missingFloat => "Expected float"
  | missingOption => "Expected option"
  | missingOptionEnd => "Expected end of option"
  | missingColon => "Expected colon"
  | missingIdentifier => "Expected identifier"
  | missingText => "Expected string"
  | missingTextEnd => "Expected end of string"
  | escape fault => "Invalid escape sequence '" ++ fault.message ++ "'"
  | unknownExtension name => "No RON extension named '" ++ name ++ "'"
  | unclosedComment => "Unclosed block comment"
  | unexpected byte => "Unexpected byte " ++ Text.quotedChar byte
  | moreText => "Non-whitespace trailing characters"

structure Error where
  cause : Cause
  line : Nat
  column : Nat

def Error.message (e : Error) : String := s!"{e.line}:{e.column}: {e.cause.message}"

structure Cursor where
  line : Nat := 1
  column : Nat := 1
  rest : List Char

abbrev Reading (α : Type) := Except Error (α × Cursor)

def bytesOf (cs : List Char) : Utf8.Bytes := cs.map fun c => c.toNat.toUInt8

def textOf (cs : List Char) : String := Utf8.decodeLossy (bytesOf cs)

namespace Cursor

def ofText (text : String) : Cursor :=
  { rest := (Utf8.encode text).map fun b => Char.ofNat b.toNat }

def fault {α : Type} (c : Cursor) (cause : Cause) : Except Error α :=
  .error ⟨cause, c.line, c.column⟩

def skip (c : Cursor) : Nat → Cursor
  | 0 => c
  | n + 1 =>
    match c.rest with
    | [] => c
    | '\n' :: rest => skip ⟨c.line + 1, 1, rest⟩ n
    | _ :: rest => skip ⟨c.line, c.column + 1, rest⟩ n

def skipWhile (c : Cursor) (holds : Char → Bool) : Cursor := c.skip (c.rest.takeWhile holds).length

def startsWith (c : Cursor) (text : String) : Bool := text.toList.isPrefixOf c.rest

def eat (c : Cursor) (text : String) : Bool × Cursor :=
  if c.startsWith text then (true, c.skip text.length) else (false, c)

def next (c : Cursor) : Reading Char :=
  match c.rest with
  | [] => c.fault .endOfText
  | b :: _ => .ok (b, c.skip 1)

def expect (c : Cursor) (byte : Char) (cause : Cause) : Except Error Cursor := do
  let (found, c) ← c.next
  if found = byte then return c else c.fault cause

def isSpace (c : Char) : Bool := c = ' ' || c = '\t' || c = '\n' || c = '\r'

def skipBlock (c : Cursor) : Nat → Nat → Except Error Cursor
  | 0, _ => c.fault .unclosedComment
  | _ + 1, 0 => .ok c
  | steps + 1, level + 1 =>
    match c.rest with
    | [] => c.fault .unclosedComment
    | '/' :: '*' :: _ => (c.skip 2).skipBlock steps (level + 2)
    | '*' :: '/' :: _ => (c.skip 2).skipBlock steps level
    | _ => (c.skip 1).skipBlock steps (level + 1)

def skipComment (c : Cursor) : Except Error Cursor := do
  let (kind, c) ← c.next
  match kind with
  | '/' => return c.skipWhile (· ≠ '\n')
  | '*' => c.skipBlock (c.rest.length + 1) 1
  | byte => c.fault (.unexpected byte)

def skipSpaceFrom (c : Cursor) : Nat → Except Error Cursor
  | 0 => .ok c
  | steps + 1 =>
    let c := c.skipWhile isSpace
    match c.rest with
    | '/' :: _ => do (← (c.skip 1).skipComment).skipSpaceFrom steps
    | _ => .ok c

def skipSpace (c : Cursor) : Except Error Cursor := c.skipSpaceFrom (c.rest.length + 1)

def eatComma (c : Cursor) : Except Error (Bool × Cursor) := do
  let c ← c.skipSpace
  match c.eat "," with
  | (true, c) => return (true, ← c.skipSpace)
  | (false, c) => return (false, c)

def isNameStart (c : Char) : Bool := c.isAlpha || c = '_'

def isNameChar (c : Char) : Bool := c.isAlphanum || c = '_'

def isRawNameChar (c : Char) : Bool := isNameChar c || c = '.' || c = '+' || c = '-'

def eatWord (c : Cursor) (word : String) : Bool × Cursor :=
  match c.eat word with
  | (true, behind) => if behind.rest.head?.any isNameChar then (false, c) else (true, behind)
  | (false, _) => (false, c)

/-- An identifier, or one with more signs behind a mark. What begins a text without escapes is none. -/
def identifier? (c : Cursor) : Option (String × Cursor) :=
  let taken (c : Cursor) (isChar : Char → Bool) :=
    some (textOf (c.rest.takeWhile isChar), c.skipWhile isChar)
  match c.rest with
  | ['r'] => none
  | 'r' :: '"' :: _ => none
  | 'r' :: '#' :: rest =>
    if rest.head?.any isRawNameChar then taken (c.skip 2) isRawNameChar else none
  | b :: _ => if isNameStart b then taken c isNameChar else none
  | [] => none

/-- An identifier that has to be there. The letter that announces a text without escapes is cut short at
the end. -/
def identifier (c : Cursor) : Reading String :=
  match c.identifier? with
  | some found => .ok found
  | none => c.fault (if c.rest = [] || c.rest = ['r'] then .endOfText else .missingIdentifier)

end Cursor

end CorpusTally.Ron
