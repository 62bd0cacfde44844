import CorpusTally.Numeral
import CorpusTally.Text.Quoted

/-!
The tokens of a TOML text. A reader takes the characters that are left and gives what it read and the
rest, or a fault with the number of bytes that were left where it lies.
-/

namespace CorpusTally.Toml

inductive Cause where
  | unexpectedEnd
  | unexpected (c : Char)
  | unterminatedString
  | newlineInString
  | invalidChar (c : Char)
  | invalidEscape (c : Char)
  | invalidHexEscape (c : Char)
  | invalidEscapeValue (value : Nat)
  | multilineKey
  | wanted (expected found : String)
  | unquotedText
  | invalidNumber
  | invalidDate
  | dateUnread
  | duplicateKey (key : String)
  | redefinedTable (name : String)
  | redefinedAsArray
  | extendsNoTable

def spelled (c : Char) : String :=
  match c with
  | '\t' => "\\t"
  | '\n' => "\\n"
  | '\r' => "\\r"
  | '\'' => "\\'"
  | '"' => "\\\""
  | '\\' => "\\\\"
  | c =>
    if 0x20 ≤ c.toNat && c.toNat < 0x7f then String.singleton c
    else "\\u\x7b" ++ String.ofList (Text.hexDigits c.toNat) ++ "\x7d"

def Cause.message : Cause → String
  | unexpectedEnd => "unexpected eof encountered"
  | unexpected c => s!"unexpected character found: \x60{spelled c}\x60"
  | unterminatedString => "unterminated string"
  | newlineInString => "newline in string found"
  | invalidChar c => s!"invalid character in string: \x60{spelled c}\x60"
  | invalidEscape c => s!"invalid escape character in string: \x60{spelled c}\x60"
  | invalidHexEscape c => s!"invalid hex escape character in string: \x60{spelled c}\x60"
  | invalidEscapeValue value => s!"invalid escape value: \x60{value}\x60"
  | multilineKey => "multiline strings are not allowed for key"
  | wanted expected found => s!"expected {expected}, found {found}"
  | unquotedText => "invalid TOML value, did you mean to use a quoted string?"
  | invalidNumber => "invalid number"
  | invalidDate => "invalid date"
  | dateUnread => "failed to parse datetime"
  | duplicateKey key => s!"duplicate key: \x60{key}\x60"
  | redefinedTable name => s!"redefinition of table \x60{name}\x60"
  | redefinedAsArray => "table redefined as array"
  | extendsNoTable => "dotted key attempted to extend non-table type"

/-- A fault, where it lies, and the keys of the value that it is about. -/
structure Fault where
  cause : Cause
  bytesLeft : Nat
  keys : List String := []

def Fault.under (key : String) (f : Fault) : Fault := { f with keys := key :: f.keys }

def byteLength (cs : List Char) : Nat := cs.foldl (fun n c => n + c.utf8Size) 0

def faultLeft {α : Type} (left : Nat) (cause : Cause) : Except Fault α :=
  .error { cause, bytesLeft := left }

def faultAt {α : Type} (rest : List Char) (cause : Cause) : Except Fault α :=
  faultLeft (byteLength rest) cause

abbrev Reading (α : Type) := Except Fault (α × List Char)

inductive Token where
  | blank
  | newline
  | comment
  | sign (c : Char)
  | text (value : String) (multiline : Bool)
  | word (value : String)
  deriving DecidableEq

def Token.describe : Token → String
  | blank => "whitespace"
  | newline => "a newline"
  | comment => "a comment"
  | sign '=' => "an equals"
  | sign '.' => "a period"
  | sign ',' => "a comma"
  | sign ':' => "a colon"
  | sign '+' => "a plus"
  | sign '\x7b' => "a left brace"
  | sign '\x7d' => "a right brace"
  | sign '[' => "a left bracket"
  | sign _ => "a right bracket"
  | text _ multiline => if multiline then "a multiline string" else "a string"
  | word _ => "an identifier"

def isWordChar (c : Char) : Bool := c.isAlphanum || c = '-' || c = '_'

def isBlank (c : Char) : Bool := c = ' ' || c = '\t'

def isPrintable (c : Char) : Bool := c = '\t' || (0x20 ≤ c.toNat && c.toNat ≠ 0x7f)

def signs : List Char := ['=', '.', ',', ':', '+', '\x7b', '\x7d', '[', ']']

def readHex (start : List Char) : Nat → Nat → List Char → Reading Nat
  | 0, value, cs => .ok (value, cs)
  | _ + 1, _, [] => faultAt start .unterminatedString
  | digits + 1, value, c :: rest =>
    match Numeral.digit? 16 c with
    | some digit => readHex start digits (value * 16 + digit) rest
    | none => faultAt (c :: rest) (.invalidHexEscape c)

def readCode (start at_ : List Char) (digits : Nat) (cs : List Char) : Reading (List Char) :=
  (readHex start digits 0 cs).bind fun (value, rest) =>
    if value.isValidChar then .ok ([Char.ofNat value], rest)
    else faultAt at_ (.invalidEscapeValue value)

/-- Blanks up to the end of the line, which they have to reach, and those of the next lines. -/
def readJoint (cs : List Char) : Reading (List Char) :=
  match cs.dropWhile isBlank with
  | '\n' :: rest => .ok ([], rest.dropWhile fun c => isBlank c || c = '\n')
  | [] => .ok ([], [])
  | _ => faultAt cs (.invalidEscape (cs.headD ' '))

def readEscape (start : List Char) (multiline : Bool) : List Char → Reading (List Char)
  | [] => faultAt start .unterminatedString
  | '"' :: rest => .ok (['"'], rest)
  | '\\' :: rest => .ok (['\\'], rest)
  | 'b' :: rest => .ok (['\x08'], rest)
  | 'f' :: rest => .ok (['\x0c'], rest)
  | 'n' :: rest => .ok (['\n'], rest)
  | 'r' :: rest => .ok (['\r'], rest)
  | 't' :: rest => .ok (['\t'], rest)
  | 'u' :: rest => readCode start ('u' :: rest) 4 rest
  | 'U' :: rest => readCode start ('U' :: rest) 8 rest
  | c :: rest =>
    if multiline && (isBlank c || c = '\n') then readJoint (c :: rest)
    else faultAt (c :: rest) (.invalidEscape c)

/-- The quotes at the end of a multiline string: three, and up to two before them that belong to it. -/
def closingQuotes (quote : Char) (cs : List Char) : Nat :=
  min 5 (cs.takeWhile (· = quote)).length

def readChars (quote : Char) (multiline : Bool) (start : List Char) (done : List Char) :
    Nat → List Char → Reading (List Char)
  | 0, _ => faultAt start .unterminatedString
  | _ + 1, [] => faultAt start .unterminatedString
  | steps + 1, c :: rest =>
    if c = '\n' then
      if multiline then readChars quote multiline start (c :: done) steps rest
      else faultAt (c :: rest) .newlineInString
    else if c = quote then
      if !multiline then .ok (done.reverse, rest)
      else
        let quotes := closingQuotes quote (c :: rest)
        if quotes < 3 then readChars quote multiline start (c :: done) steps rest
        else
          .ok (done.reverse ++ List.replicate (quotes - 3) quote, rest.drop (quotes - 1))
    else if c = '\\' && quote = '"' then
      match readEscape start multiline rest with
      | .ok (found, rest) =>
        readChars quote multiline start (found.reverse ++ done) steps rest
      | .error e => .error e
    else if isPrintable c then readChars quote multiline start (c :: done) steps rest
    else faultAt (c :: rest) (.invalidChar c)

/-- A string from its opening quotes on. A line break right behind three of them does not count. -/
def readText (quote : Char) (start : List Char) : Reading Token :=
  let finish (multiline : Bool) (cs : List Char) : Reading Token :=
    (readChars quote multiline start [] (cs.length + 1) cs).map fun (found, rest) =>
      (.text (String.ofList found) multiline, rest)
  match start with
  | _ :: b :: c :: rest =>
    if b = quote && c = quote then
      match rest with
      | '\n' :: rest => finish true rest
      | _ => finish true rest
    else finish false (b :: c :: rest)
  | _ => finish false (start.drop 1)

def readToken : List Char → Except Fault (Option Token × List Char)
  | [] => .ok (none, [])
  | c :: rest =>
    if c = '\n' then .ok (some .newline, rest)
    else if isBlank c then .ok (some .blank, rest.dropWhile isBlank)
    else if c = '#' then .ok (some .comment, rest.dropWhile fun x => x = '\t' || 0x20 ≤ x.toNat)
    else if signs.contains c then .ok (some (.sign c), rest)
    else if c = '"' || c = '\'' then
      (readText c (c :: rest)).map fun (token, rest) => (some token, rest)
    else if isWordChar c then
      .ok (some (.word (String.ofList ((c :: rest).takeWhile isWordChar))),
        (c :: rest).dropWhile isWordChar)
    else faultAt (c :: rest) (.unexpected c)

def describe : Option Token → String
  | some token => token.describe
  | none => "eof"

def eat (token : Token) (cs : List Char) : Reading Bool :=
  (readToken cs).map fun (found, rest) =>
    if found = some token then (true, rest) else (false, cs)

def expect (token : Token) (cs : List Char) : Reading Unit :=
  (readToken cs).bind fun (found, rest) =>
    if found = some token then .ok ((), rest)
    else faultAt cs (.wanted token.describe (describe found))

def skipBlanks (cs : List Char) : List Char := cs.dropWhile isBlank

def endLine (cs : List Char) : Reading Unit :=
  (readToken cs).bind fun (found, rest) =>
    match found with
    | none | some .newline => .ok ((), rest)
    | some token => faultAt cs (.wanted "newline" token.describe)

def eatComment (cs : List Char) : Reading Bool :=
  (readToken cs).bind fun (found, rest) =>
    if found = some .comment then (endLine rest).map fun ((), rest) => (true, rest)
    else .ok (false, cs)

def endLineOrComment (cs : List Char) : Reading Unit :=
  (eatComment cs).bind fun (isComment, rest) =>
    if isComment then .ok ((), rest) else endLine rest

end CorpusTally.Toml
