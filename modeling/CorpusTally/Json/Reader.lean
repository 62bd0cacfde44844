import CorpusTally.Json.Value

/-!
Reading JSON text. A reader takes the characters that are left and gives what it read and the rest, or
a fault. Faults remember how many bytes were left, from which the place in the text follows.
-/

namespace CorpusTally.Json

structure Fault where
  code : ErrorCode
  bytesLeft : Nat

def byteLength (cs : List Char) : Nat := cs.foldl (fun n c => n + c.utf8Size) 0

abbrev Reading (α : Type) := Except Fault (α × List Char)

def faultAt {α : Type} (past : Nat) (code : ErrorCode) (rest : List Char) : Except Fault α :=
  .error ⟨code, byteLength rest - past⟩

def faultHere {α : Type} (code : ErrorCode) (rest : List Char) : Except Fault α :=
  faultAt 0 code rest

def faultNext {α : Type} (code : ErrorCode) (rest : List Char) : Except Fault α :=
  faultAt 1 code rest

def isSpace (c : Char) : Bool := c = ' ' || c = '\n' || c = '\t' || c = '\r'

def skipSpace (cs : List Char) : List Char := cs.dropWhile isSpace

def isDigit (c : Char) : Bool := '0' ≤ c && c ≤ '9'

def digitValue (c : Char) : Nat := c.toNat - '0'.toNat

def readIdent : List Char → List Char → Reading Unit
  | [], cs => .ok ((), cs)
  | _ :: _, [] => faultHere .endInValue []
  | expected :: more, c :: rest =>
    if c = expected then readIdent more rest else faultAt 1 .expectedIdent (c :: rest)

def hexValue? (c : Char) : Option Nat :=
  if '0' ≤ c && c ≤ '9' then some (c.toNat - '0'.toNat)
  else if 'a' ≤ c && c ≤ 'f' then some (c.toNat - 'a'.toNat + 10)
  else if 'A' ≤ c && c ≤ 'F' then some (c.toNat - 'A'.toNat + 10)
  else none

def readUnit (cs : List Char) : Except Fault Nat :=
  match (cs.take 4).map hexValue? with
  | [some a, some b, some c, some d] => .ok (((a * 16 + b) * 16 + c) * 16 + d)
  | _ =>
    if byteLength cs < 4 then faultHere .endInString [] else faultAt 4 .invalidEscape cs

def isLeadingUnit (unit : Nat) : Bool := 0xd800 ≤ unit && unit ≤ 0xdbff

def isTrailingUnit (unit : Nat) : Bool := 0xdc00 ≤ unit && unit ≤ 0xdfff

def readTrailingUnit (leading : Nat) : List Char → Except Fault (Char × Nat)
  | '\\' :: 'u' :: cs =>
    (readUnit cs).bind fun trailing =>
      if isTrailingUnit trailing then
        .ok (Char.ofNat (0x10000 + (leading - 0xd800) * 0x400 + (trailing - 0xdc00)), 6)
      else faultAt 4 .loneSurrogate cs
  | [] | ['\\'] => faultHere .endInString []
  | '\\' :: cs => faultAt 1 .halfSurrogatePair cs
  | cs => faultAt 1 .halfSurrogatePair cs

def readUnicodeEscape (cs : List Char) : Except Fault (Char × Nat) :=
  (readUnit cs).bind fun unit =>
    if isTrailingUnit unit then faultAt 4 .loneSurrogate cs
    else if isLeadingUnit unit then
      (readTrailingUnit unit (cs.drop 4)).map fun found => (found.1, 4 + found.2)
    else .ok (Char.ofNat unit, 4)

def readEscape : List Char → Except Fault (Char × Nat)
  | [] => faultHere .endInString []
  | '"' :: _ => .ok ('"', 1)
  | '\\' :: _ => .ok ('\\', 1)
  | '/' :: _ => .ok ('/', 1)
  | 'b' :: _ => .ok ('\x08', 1)
  | 'f' :: _ => .ok ('\x0c', 1)
  | 'n' :: _ => .ok ('\n', 1)
  | 'r' :: _ => .ok ('\r', 1)
  | 't' :: _ => .ok ('\t', 1)
  | 'u' :: cs => (readUnicodeEscape cs).map fun found => (found.1, found.2 + 1)
  | cs => faultAt 1 .invalidEscape cs

/-- The rest of a string, after `skip` characters that are read already. -/
def readChars (done : List Char) : Nat → List Char → Reading (List Char)
  | _, [] => faultHere .endInString []
  | skip + 1, _ :: rest => readChars done skip rest
  | 0, c :: rest =>
    if c = '"' then .ok (done.reverse, rest)
    else if c = '\\' then
      match readEscape rest with
      | .ok (found, used) => readChars (found :: done) used rest
      | .error e => .error e
    else if c.toNat < 0x20 then faultHere .controlCharacter rest
    else readChars (c :: done) 0 rest

def readString (cs : List Char) : Reading String :=
  (readChars [] 0 cs).map fun found => (String.ofList found.1, found.2)

def maxUnsigned : Nat := UInt64.size - 1

def maxExponent : Nat := UInt32.size / 2 - 1

/-- Scales by powers of ten that a float has, one rounding at each. -/
def scaleDown (value : Float) : Nat → Nat → Float
  | 0, exponent => value / Float.ofScientific 1 false exponent
  | steps + 1, exponent =>
    if exponent ≤ 308 then value / Float.ofScientific 1 false exponent
    else if value == 0 then value
    else scaleDown (value / Float.ofScientific 1 false 308) steps (exponent - 308)

def scale? (significand : Nat) (exponent : Int) : Option Float :=
  let value := significand.toFloat
  if exponent < 0 then some (scaleDown value 8 exponent.natAbs)
  else if exponent ≤ 308 then
    let scaled := value * Float.ofScientific 1 false exponent.toNat
    if scaled.isInf then none else some scaled
  else if significand = 0 then some value
  else none

def signed (positive : Bool) (value : Float) : Float := if positive then value else -value

def finishFloat (positive : Bool) (significand : Nat) (exponent : Int) (rest : List Char) :
    Reading Float :=
  match scale? significand exponent with
  | some value => .ok (signed positive value, rest)
  | none => faultHere .outOfRange rest

/-- Digits of an exponent; one that is out of all bounds is kept as `none`. -/
def readExponentDigits (value : Option Nat) : List Char → Option Nat × List Char
  | [] => (value, [])
  | c :: rest =>
    if isDigit c then
      match value with
      | none => readExponentDigits none rest
      | some n =>
        if n * 10 + digitValue c > maxExponent then (none, c :: rest)
        else readExponentDigits (some (n * 10 + digitValue c)) rest
    else (value, c :: rest)

def maxInt32 : Int := Int.ofNat (UInt32.size / 2) - 1

def minInt32 : Int := -Int.ofNat (UInt32.size / 2)

def readExponent (positive : Bool) (significand : Nat) (start : Int) (cs : List Char) :
    Reading Float :=
  let (positiveExponent, cs) := match cs with
    | '+' :: rest => (true, rest)
    | '-' :: rest => (false, rest)
    | _ => (true, cs)
  match cs with
  | [] => faultHere .endInValue []
  | c :: rest =>
    if isDigit c then
      match readExponentDigits (some (digitValue c)) rest with
      | (some n, rest) =>
        let exponent := if positiveExponent then start + n else start - n
        finishFloat positive significand (max minInt32 (min maxInt32 exponent)) rest
      | (none, rest) =>
        if significand ≠ 0 && positiveExponent then faultHere .outOfRange (rest.drop 1)
        else .ok (signed positive 0, rest.dropWhile isDigit)
    else faultAt 1 .invalidNumber (c :: rest)

def readExponentPart (positive : Bool) (significand : Nat) (exponent : Int) (cs : List Char) :
    Reading Float :=
  match cs with
  | 'e' :: rest | 'E' :: rest => readExponent positive significand exponent rest
  | _ => finishFloat positive significand exponent cs

def readFraction (significand places : Nat) : List Char → Nat × Nat × List Char
  | [] => (significand, places, [])
  | c :: rest =>
    if isDigit c && significand * 10 + digitValue c ≤ maxUnsigned then
      readFraction (significand * 10 + digitValue c) (places + 1) rest
    else (significand, places, c :: rest)

def readDecimal (positive : Bool) (significand : Nat) (exponent : Int) (cs : List Char) :
    Reading Float :=
  let (significand, places, rest) := readFraction significand 0 cs
  match rest with
  | c :: _ =>
    if isDigit c then
      readExponentPart positive significand (exponent - places) (rest.dropWhile isDigit)
    else if places = 0 then faultNext .invalidNumber rest
    else readExponentPart positive significand (exponent - places) rest
  | [] =>
    if places = 0 then faultNext .endInValue []
    else readExponentPart positive significand (exponent - places) []

def readWhole (significand : Nat) : List Char → Nat × List Char
  | [] => (significand, [])
  | c :: rest =>
    if isDigit c && significand * 10 + digitValue c ≤ maxUnsigned then
      readWhole (significand * 10 + digitValue c) rest
    else (significand, c :: rest)

def asFloat (read : Reading Float) : Reading Number := read.map fun found => (.float found.1, found.2)

def finishWhole (positive : Bool) (significand : Nat) (rest : List Char) : Reading Number :=
  if positive then .ok (.unsigned significand.toUInt64, rest)
  else if significand = 0 || UInt64.size / 2 < significand then
    .ok (.float (-significand.toFloat), rest)
  else .ok (.negative (-significand), rest)

def finishNumber (positive : Bool) (significand : Nat) (cs : List Char) : Reading Number :=
  match cs with
  | '.' :: rest => asFloat (readDecimal positive significand 0 rest)
  | 'e' :: rest | 'E' :: rest => asFloat (readExponent positive significand 0 rest)
  | _ => finishWhole positive significand cs

/-- More digits than 64 bits hold: they count as powers of ten. -/
def readLong (positive : Bool) (significand : Nat) (cs : List Char) : Reading Number :=
  let rest := cs.dropWhile isDigit
  let dropped : Int := (cs.takeWhile isDigit).length
  match rest with
  | '.' :: more => asFloat (readDecimal positive significand dropped more)
  | _ => asFloat (readExponentPart positive significand dropped rest)

def readNumber (positive : Bool) : List Char → Reading Number
  | [] => faultHere .endInValue []
  | '0' :: rest =>
    match rest with
    | c :: _ => if isDigit c then faultNext .invalidNumber rest else finishNumber positive 0 rest
    | [] => finishNumber positive 0 rest
  | c :: rest =>
    if isDigit c then
      match readWhole (digitValue c) rest with
      | (significand, d :: more) =>
        if isDigit d then readLong positive significand (d :: more)
        else finishNumber positive significand (d :: more)
      | (significand, []) => finishNumber positive significand []
    else faultAt 1 .invalidNumber (c :: rest)

/-- What follows an item of a list, or the opening bracket: the next item, or the closing bracket,
which is not taken. -/
def nextItem? (first : Bool) (cs : List Char) : Reading Bool :=
  match skipSpace cs with
  | [] => faultNext .endInList []
  | ']' :: rest => .ok (false, ']' :: rest)
  | c :: rest =>
    if first then .ok (true, c :: rest)
    else if c = ',' then
      match skipSpace rest with
      | [] => faultNext .endInValue []
      | ']' :: more => faultNext .trailingComma (']' :: more)
      | more => .ok (true, more)
    else faultNext .expectedListEnd (c :: rest)

def closeList (cs : List Char) : Reading Unit :=
  match skipSpace cs with
  | ']' :: rest => .ok ((), rest)
  | ',' :: rest =>
    match skipSpace rest with
    | ']' :: more => faultNext .trailingComma (']' :: more)
    | more => faultNext .trailingCharacters more
  | [] => faultNext .endInList []
  | rest => faultNext .trailingCharacters rest

def nextKey? (first : Bool) (cs : List Char) : Reading Bool :=
  match skipSpace cs with
  | [] => faultNext .endInObject []
  | '}' :: rest => .ok (false, '}' :: rest)
  | c :: rest =>
    if first then
      if c = '"' then .ok (true, c :: rest) else faultNext .keyNotString (c :: rest)
    else if c = ',' then
      match skipSpace rest with
      | [] => faultNext .endInValue []
      | '"' :: more => .ok (true, '"' :: more)
      | '}' :: more => faultNext .trailingComma ('}' :: more)
      | more => faultNext .keyNotString more
    else faultNext .expectedObjectEnd (c :: rest)

def closeObject (cs : List Char) : Reading Unit :=
  match skipSpace cs with
  | '}' :: rest => .ok ((), rest)
  | ',' :: rest => faultNext .trailingComma (',' :: rest)
  | [] => faultNext .endInObject []
  | rest => faultNext .trailingCharacters rest

def readColon (cs : List Char) : Reading Unit :=
  match skipSpace cs with
  | ':' :: rest => .ok ((), rest)
  | [] => faultNext .endInObject []
  | rest => faultNext .expectedColon rest

def readItems {α : Type} (item : List Char → Reading α) (first : Bool) (done : List α) :
    Nat → List Char → Except Fault (List α × List Char)
  | 0, cs => faultNext .endInList cs
  | steps + 1, cs => do
    let (more, cs) ← nextItem? first cs
    if more then
      let (value, cs) ← item cs
      readItems item false (value :: done) steps cs
    else
      let ((), cs) ← closeList cs
      return (done.reverse, cs)

def readList {α : Type} (item : List Char → Reading α) (cs : List Char) : Reading (List α) :=
  readItems item true [] (cs.length + 1) cs

/-- The fields of an object behind its brace. What becomes of a field may depend on those before it,
which stand in the state. -/
def readFields {σ : Type} (field : σ → String → List Char → Reading σ) (first : Bool) (state : σ) :
    Nat → List Char → Except Fault (σ × List Char)
  | 0, cs => faultNext .endInObject cs
  | steps + 1, cs => do
    let (more, cs) ← nextKey? first cs
    if more then
      let (name, cs) ← readString (cs.drop 1)
      let (state, cs) ← field state name cs
      readFields field false state steps cs
    else return (state, cs)

def readObject {σ : Type} (field : σ → String → List Char → Reading σ) (start : σ)
    (cs : List Char) : Reading σ :=
  readFields field true start (cs.length + 1) cs

def depthLimit : Nat := 128

def readValue : Nat → List Char → Except Fault (Value × List Char)
  | 0, cs => faultNext .tooDeep cs
  | depth + 1, cs =>
    match skipSpace cs with
    | [] => faultNext .endInValue []
    | 'n' :: rest => (readIdent "ull".toList rest).map fun found => (.null, found.2)
    | 't' :: rest => (readIdent "rue".toList rest).map fun found => (.bool true, found.2)
    | 'f' :: rest => (readIdent "alse".toList rest).map fun found => (.bool false, found.2)
    | '-' :: rest => (readNumber false rest).map fun found => (.number found.1, found.2)
    | '"' :: rest => (readString rest).map fun found => (.string found.1, found.2)
    | '[' :: rest =>
      if depth = 0 then faultNext .tooDeep ('[' :: rest)
      else (readList (readValue depth) rest).map fun found => (.array found.1, found.2)
    | '{' :: rest =>
      if depth = 0 then faultNext .tooDeep ('{' :: rest)
      else do
        let field (state : List (String × Value)) (name : String) (cs : List Char) :
            Reading (List (String × Value)) :=
          (readColon cs).bind fun colon =>
            (readValue depth colon.2).map fun found => ((name, found.1) :: state, found.2)
        let (fields, cs) ← readObject field [] rest
        let ((), cs) ← closeObject cs
        return (.object fields.reverse, cs)
    | c :: rest =>
      if isDigit c then (readNumber true (c :: rest)).map fun found => (.number found.1, found.2)
      else faultNext .expectedValue (c :: rest)

def readEnd (cs : List Char) : Except Fault Unit :=
  match skipSpace cs with
  | [] => .ok ()
  | rest => faultNext .trailingCharacters rest

def Fault.toError (text : String) (f : Fault) : Error :=
  ⟨f.code, some (Position.ofOffset text (text.utf8ByteSize - f.bytesLeft))⟩

def readAll {α : Type} (read : List Char → Reading α) (text : String) : Except Error α :=
  match read text.toList with
  | .error f => .error (f.toError text)
  | .ok (value, rest) =>
    match readEnd rest with
    | .error f => .error (f.toError text)
    | .ok () => .ok value

def parse (text : String) : Except Error Value := readAll (readValue depthLimit) text

end CorpusTally.Json
