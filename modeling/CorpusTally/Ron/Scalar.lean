import CorpusTally.Decimal
import CorpusTally.Numeral
import CorpusTally.Ron.Cursor

/-!
Numbers, texts and characters of RON.
-/

namespace CorpusTally.Ron

inductive Number where
  | int (value : Int)
  | real (value : Float)

def isWholeChar (c : Char) : Bool := (Numeral.digit? 16 c).isSome || c = '_'

def isRealChar (c : Char) : Bool := c.isDigit || ['e', 'E', '.', '+', '-'].contains c

def isSign (c : Char) : Bool := c = '+' || c = '-'

def looksReal (cs : List Char) : Bool :=
  let unsigned := if cs.head?.any isSign then cs.drop 1 else cs
  (unsigned.takeWhile isRealChar).length > (unsigned.takeWhile isWholeChar).length

def baseOf (c : Cursor) : Nat × Cursor :=
  match c.rest with
  | '0' :: 'x' :: _ => (16, c.skip 2)
  | '0' :: 'b' :: _ => (2, c.skip 2)
  | '0' :: 'o' :: _ => (8, c.skip 2)
  | _ => (10, c)

def wholeValue? (limit base : Nat) (digits : List Char) : Option Nat :=
  match digits with
  | [] | '_' :: _ => none
  | _ => (Numeral.readDigits base limit 0 (digits.filter (· ≠ '_'))).toOption

/-- A whole number of 64 bits, if there is one, and how far the reader has come in any case. -/
def readWhole (c : Cursor) : Option Int × Cursor :=
  let sign := c.rest.head?.filter isSign
  let limit := match sign with
    | none => UInt64.size - 1
    | some '-' => UInt64.size / 2
    | some _ => UInt64.size / 2 - 1
  let (base, c) := baseOf (if sign.isSome then c.skip 1 else c)
  let digits := c.rest.takeWhile isWholeChar
  let value := (wholeValue? limit base digits).map fun n =>
    if sign = some '-' then -(n : Int) else n
  (value, if digits.head? = some '_' then c else c.skip digits.length)

def readReal (c : Cursor) : Reading Float :=
  let digits := c.rest.takeWhile isRealChar
  match Decimal.readFloat? (String.ofList digits) with
  | some value => .ok (value, c.skip digits.length)
  | none => c.fault .missingFloat

/-- A number. What is no whole number is read again as a real one, at the place that the first attempt has
come to. Whole numbers beyond 63 bits count as real ones. -/
def readNumber (c : Cursor) : Reading Number :=
  let real (c : Cursor) := (readReal c).map fun (value, c) => (Number.real value, c)
  if looksReal c.rest then real c
  else match readWhole c with
    | (some value, c) =>
      if value < Int.ofNat (UInt64.size / 2) then .ok (.int value, c) else .ok (.real value.toNat.toUInt64.toFloat, c)
    | (none, reached) => real { reached with rest := c.rest }

def hexDigit (c : Cursor) (byte : Char) : Except Error Nat :=
  match Numeral.digit? 16 byte with
  | some digit => .ok digit
  | none => c.fault (.escape .digit)

def readCodeDigits (value count : Nat) (c : Cursor) : Nat → Except Error ((Nat × Nat) × Cursor)
  | 0 => .ok ((value, count), c)
  | digits + 1 => do
    let (byte, behind) ← c.next
    if byte = '\x7d' then return ((value, count), c)
    readCodeDigits (value * 16 + (← hexDigit behind byte)) (count + 1) behind digits

def readCode (c : Cursor) : Except Error (Char × Cursor) := do
  let c ← c.expect '\x7b' (.escape .openingBrace)
  let ((value, count), c) ← readCodeDigits 0 0 c 6
  if count = 0 then c.fault (.escape .noDigits)
  let c ← c.expect '\x7d' (.escape .closingBrace)
  if value.isValidChar then return (Char.ofNat value, c) else c.fault (.escape .code)

def readByteCode (c : Cursor) : Except Error (Char × Cursor) := do
  let (high, c) ← c.next
  let high ← hexDigit c high
  let (low, c) ← c.next
  return (Char.ofNat (high * 16 + (← hexDigit c low)), c)

def readEscape (c : Cursor) : Except Error (Char × Cursor) := do
  let (sign, c) ← c.next
  match sign with
  | '\'' | '"' | '\\' => return (sign, c)
  | 'n' => return ('\n', c)
  | 'r' => return ('\r', c)
  | 't' => return ('\t', c)
  | '0' => return ('\x00', c)
  | 'x' => readByteCode c
  | 'u' => readCode c
  | _ => c.fault (.escape .unknown)

def spelled (c : Char) : List Char := (String.utf8EncodeChar c).map fun b => Char.ofNat b.toNat

def readTextFrom (done : List Char) (cause : Cause) (c : Cursor) :
    Nat → Except Error (String × Cursor)
  | 0 => c.fault .endOfText
  | steps + 1 =>
    let piece := c.rest.takeWhile fun b => b ≠ '"' && b ≠ '\\'
    let behind := c.skip (piece.length + 1)
    match c.rest.drop piece.length with
    | [] => c.fault cause
    | '"' :: _ => .ok (textOf (done ++ piece), behind)
    | _ => do
      let (found, c) ← readEscape behind
      readTextFrom (done ++ piece ++ spelled found) .endOfText c steps

def before? (ending : List Char) : List Char → Option (List Char)
  | [] => none
  | b :: rest =>
    if ending.isPrefixOf (b :: rest) then some [] else (before? ending rest).map (b :: ·)

/-- A text without escapes, behind the letter that announces it. It ends at a quote with as many number
signs as it began with. -/
def readRawText (c : Cursor) : Except Error (String × Cursor) := do
  let signs := c.rest.takeWhile (· = '#')
  match (c.skip signs.length).eat "\"" with
  | (false, c) => c.fault .missingText
  | (true, c) =>
    match before? ('"' :: signs) c.rest with
    | none => c.fault .missingTextEnd
    | some found => return (textOf found, c.skip (found.length + signs.length + 1))

def readText (c : Cursor) : Reading String :=
  match c.eat "\"" with
  | (true, c) => readTextFrom [] .missingTextEnd c (c.rest.length + 1)
  | (false, c) => readRawText (c.skip 1)

/-- A character behind its opening quote; its bytes and the closing quote are five at most. -/
def readChar (c : Cursor) : Except Error (Char × Cursor) := do
  let (first, behind) ← c.next
  if first = '\\' then
    let (found, c) ← readEscape behind
    return (found, ← c.expect '\'' .missingChar)
  else
    let bytes := (c.rest.take 5).takeWhile (· ≠ '\'')
    match (textOf bytes).toList with
    | [found] =>
      if bytes.length < min 5 c.rest.length then
        return (found, ← (c.skip bytes.length).expect '\'' .missingChar)
      else c.fault .missingChar
    | _ => c.fault .missingChar

end CorpusTally.Ron
