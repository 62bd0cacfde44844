import CorpusTally.Numeral
import CorpusTally.Text.Quoted
import CorpusTally.Unicode.Blank

/-!
INI files: fields with a text each, before and under headers in brackets. Comments begin at a semicolon
or a number sign at the start of a line.
-/

namespace CorpusTally.Ini

inductive Cause where
  /-- The end of the file, where one of some signs is awaited, or, if `orEnd`, the end of the value. -/
  | endBefore (signs : List Char) (orEnd : Bool)
  | missingKey
  | unknownCode
  | breakExpected (found : Option Char)
  | inlineComment

def spellSign : Option Char → String
  | some c => "Some(" ++ Text.quotedChar c ++ ")"
  | none => "None"

def Cause.message : Cause → String
  | endBefore signs orEnd =>
    let awaited := signs.map some ++ (if orEnd then [none] else [])
    "expecting \"[" ++ ", ".intercalate (awaited.map spellSign) ++ "]\" but found EOF."
  | missingKey => "missing key"
  | unknownCode => "unknown character in \\xHH form"
  | breakExpected found => "expecting \"\\\\n\" but found \"" ++ spellSign found ++ "\"."
  | inlineComment => "doesn't support inline comment"

structure Error where
  cause : Cause
  line : Nat
  column : Nat

def Error.message (e : Error) : String := s!"{e.line}:{e.column} {e.cause.message}"

structure Section where
  name? : Option String
  fields : List (String × String) := []

structure Fault where
  cause : Cause
  rest : List Char

abbrev Read (α : Type) := Except Fault (α × List Char)

def fault {α : Type} (rest : List Char) (cause : Cause) : Except Fault α := .error ⟨cause, rest⟩

/-- What ends a text: one of some signs, which is not taken, or the end of the file. -/
structure Stop where
  signs : List Char
  orEnd : Bool := false

def Stop.fault {α : Type} (stop : Stop) : Except Fault α :=
  .error ⟨.endBefore stop.signs stop.orEnd, []⟩

/-- The character of a code in hexadecimal, of which a plus sign may be the first digit. -/
def codeChar? (digits : List Char) : Option Char :=
  match Numeral.readUnsigned 16 (UInt32.size - 1) digits with
  | .ok value => if value.isValidChar then some (Char.ofNat value) else none
  | .error _ => none

def readDigits (stop : Stop) (done : List Char) : Nat → List Char → Read (List Char)
  | 0, cs => .ok (done.reverse, cs)
  | digits + 1, cs =>
    let finish (c : Char) (last : List Char) : Read (List Char) :=
      match digits with
      | 0 => .ok ((c :: done).reverse, last)
      | _ + 1 => readDigits stop (c :: done) digits (last.drop 1)
    match cs with
    | [] => stop.fault
    | '\\' :: '\n' :: rest => finish '\\' ('\n' :: rest)
    | '\\' :: rest => fault rest (.breakExpected rest.head?)
    | c :: rest => finish c (c :: rest)

def readCode (stop : Stop) (cs : List Char) : Read (List Char) :=
  (readDigits stop [] 4 cs).bind fun (digits, last) =>
    match codeChar? digits with
    | some c => .ok ([c], last.drop 1)
    | none => fault last .unknownCode

/-- What a backslash and the characters behind it stand for. A line break is skipped together with the
character behind it. -/
def readEscape (stop : Stop) : List Char → Read (List Char)
  | [] => stop.fault
  | '0' :: rest => .ok (['\x00'], rest)
  | 'a' :: rest => .ok (['\x07'], rest)
  | 'b' :: rest => .ok (['\x08'], rest)
  | 't' :: rest => .ok (['\t'], rest)
  | 'r' :: rest => .ok (['\r'], rest)
  | 'n' :: rest => .ok (['\n'], rest)
  | '\n' :: rest => .ok ([], rest.drop 1)
  | 'x' :: rest => readCode stop rest
  | c :: rest => .ok ([c], rest)

def readUntil (stop : Stop) (done : List Char) : Nat → List Char → Read String
  | 0, cs => .ok (String.ofList done.reverse, cs)
  | _ + 1, [] => if stop.orEnd then .ok (String.ofList done.reverse, []) else stop.fault
  | steps + 1, c :: rest =>
    if stop.signs.contains c then .ok (String.ofList done.reverse, c :: rest)
    else if c = '\\' then
      match readEscape stop rest with
      | .ok (found, rest) => readUntil stop (found.reverse ++ done) steps rest
      | .error e => .error e
    else readUntil stop (c :: done) steps rest

def readText (stop : Stop) (cs : List Char) : Read String := readUntil stop [] (cs.length + 1) cs

def isLineBlank (c : Char) : Bool := Unicode.isBlank c && c ≠ '\n' && c ≠ '\r'

def readLineRest (cs : List Char) : Read String := readText ⟨['\n', '\r'], true⟩ cs

def readValue (cs : List Char) : Read String :=
  match cs.dropWhile isLineBlank with
  | c :: rest =>
    if c = '"' || c = '\'' then
      match readText { signs := [c] } rest with
      | .error e => .error e
      | .ok (text, rest) =>
        (readLineRest (rest.drop 1)).map fun (more, rest) => (text ++ more, rest)
    else readLineRest (c :: rest)
  | [] => .ok ("", [])

def addField (key value : String) : List Section → List Section
  | [] => [{ name? := none, fields := [(key, value)] }]
  | last :: before => { last with fields := last.fields ++ [(key, value)] } :: before

def beginsLine (isFirst : Bool) (blanks : List Char) : Bool :=
  match blanks.getLast? with
  | some c => c = '\n'
  | none => isFirst

def readSections (sections : List Section) (key : String) (isFirst : Bool) :
    Nat → List Char → Except Fault (List Section)
  | 0, _ => .ok sections
  | steps + 1, cs =>
    match cs.dropWhile Unicode.isBlank with
    | [] => .ok sections
    | c :: rest =>
      if c = ';' || c = '#' then
        if beginsLine isFirst (cs.takeWhile Unicode.isBlank) then
          readSections sections key false steps (rest.dropWhile (· ≠ '\n'))
        else fault (c :: rest) .inlineComment
      else if c = '[' then
        match readText { signs := [']'] } rest with
        | .error e => .error e
        | .ok (name, rest) =>
          let opened : Section := { name? := some (Unicode.trim name) }
          readSections (opened :: sections) key false steps (rest.drop 1)
      else if c = '=' || c = ':' then
        if key = "" then fault (c :: rest) .missingKey
        else match readValue rest with
          | .error e => .error e
          | .ok (value, rest) =>
            readSections (addField key (Unicode.trim value) sections) "" false steps rest
      else match readText { signs := ['=', ':'] } (c :: rest) with
        | .error e => .error e
        | .ok (key, rest) => readSections sections (Unicode.trim key) false steps rest

/-- The line of the last one of some characters, and how many of them are in it. A line break belongs to
the line behind it. -/
def placeOf (cs : List Char) : Nat × Nat :=
  cs.foldl (fun (line, column) c => if c = '\n' then (line + 1, 0) else (line, column + 1)) (0, 0)

def read (text : String) : Except Error (List Section) :=
  let cs := text.toList
  match readSections [] "" true (cs.length + 1) cs with
  | .ok sections => .ok sections.reverse
  | .error e =>
    let (line, column) := placeOf (cs.take (cs.length - e.rest.length + 1))
    .error ⟨e.cause, line, column⟩

end CorpusTally.Ini
